import ControlTower.Proofs.Phraseology.Acceptance
import ControlTower.Proofs.Phraseology.Condensed

/-!
# Other words for the same transmission

Commands and flags have several spellings, and some of them overlap: `l` is a command, a flag of two
others and a way to turn. In a transmission that is understood this does no harm. Each word that was
read as a command may be replaced by another spelling of the command, and each word that was read as
a flag by another spelling of the flag, which may also be said again. The same is understood.

What makes this so is that commands which may be given together keep their spellings apart: no
spelling of one is a flag of another. How far the flags of a segment reach is therefore never in
doubt, whichever spellings are chosen.
-/

namespace ControlTower

variable {rules : ReadingRules} {command : Command} {tokens others : List String}

namespace Command

/-- Words that may be said for those that give a command and its arguments: the command may be
spelled in another way. -/
inductive OpeningReworded (command : Command) : List String → List String → Prop where
  | same (words : List String) : OpeningReworded command words words
  | spelled {word other : String} (given : List String) (spelling : word ∈ command.spellings)
      (another : other ∈ command.spellings) :
      OpeningReworded command (word :: given) (other :: given)

/-- Words that may be said for those that spell flags of a command: for each of them there are one
or several that spell the same flag. -/
inductive FlagsReworded (command : Command) : List String → List String → Prop where
  | nil : FlagsReworded command [] []
  | another {word other : String} {flag : Flag} {words others : List String}
      (spelling : command.SpellsFlag word flag) (same : command.SpellsFlag other flag)
      (rest : FlagsReworded command words others) :
      FlagsReworded command (word :: words) (other :: others)
  | again {word other : String} {flag : Flag} {words others : List String}
      (spelling : command.SpellsFlag word flag) (same : command.SpellsFlag other flag)
      (rest : FlagsReworded command (word :: words) others) :
      FlagsReworded command (word :: words) (other :: others)

end Command

inductive Segment.Reworded (segment : Segment) : List String → Prop where
  | of {opening flagWords : List String}
      (opens : segment.command.OpeningReworded segment.opening opening)
      (flags : segment.command.FlagsReworded segment.flagWords flagWords) :
      Reworded segment (opening ++ flagWords)

def Division.Reworded (division : Division) (tokens : List String) : Prop :=
  ∃ stretches, List.Forall₂ Segment.Reworded division.segments stretches ∧
    tokens = division.addressee ++ stretches.flatten

theorem Opening.of_reworded {arguments : List Argument} (h : Opening rules command tokens arguments)
    (hother : command.OpeningReworded tokens others) : Opening rules command others arguments := by
  cases hother with
  | same => exact h
  | @spelled word other given spelling another =>
    cases h with
    | spelled _ enough form => exact .spelled another enough form
    | condensed _ several decimal _ =>
      have hdigits := Command.not_digits_of_mem_spellings spelling String.toList_ofList
      exact absurd ⟨several, List.all_eq_true.mpr decimal⟩ hdigits

theorem Command.SpellsFlag.unique {word : String} {flag other : Flag}
    (h : command.SpellsFlag word flag) (h' : command.SpellsFlag word other) : flag = other :=
  Option.some.inj ((flag?_eq_some_iff.mpr h).symm.trans (flag?_eq_some_iff.mpr h'))

/-- A flag that has been given already adds nothing. -/
theorem Flag.eraseDups_append_cons_of_mem {flag : Flag} {given : List Flag} (h : flag ∈ given)
    (more : List Flag) : (given ++ flag :: more).eraseDups = (given ++ more).eraseDups := by
  rw [List.eraseDups_append, List.eraseDups_append, List.cons_removeAll]
  simp [h]

/-- Other words for some flags spell flags of which the same remain when repetitions are left out,
whatever flags were given before. -/
theorem Command.FlagsReworded.exists_given (h : command.FlagsReworded tokens others)
    {given : List Flag} (hgiven : List.Forall₂ command.SpellsFlag tokens given) :
    ∃ given', List.Forall₂ command.SpellsFlag others given' ∧
      ∀ earlier, (earlier ++ given').eraseDups = (earlier ++ given).eraseDups := by
  induction h generalizing given with
  | nil =>
    cases hgiven
    exact ⟨[], .nil, fun _ => rfl⟩
  | @another word other flag words others spelling same _ ih =>
    cases hgiven with
    | cons hword hwords =>
      obtain rfl := spelling.unique hword
      obtain ⟨given', hothers, herase⟩ := ih hwords
      refine ⟨flag :: given', .cons same hothers, fun earlier => ?_⟩
      rw [List.append_cons, herase, ← List.append_cons]
  | @again word other flag words others spelling same _ ih =>
    obtain ⟨given', hothers, herase⟩ := ih hgiven
    refine ⟨flag :: given', .cons same hothers, fun earlier => ?_⟩
    cases hgiven with
    | @cons _ flag' _ given hword hwords =>
      obtain rfl := spelling.unique hword
      have hrepeated : flag ∈ earlier ++ [flag] := by simp
      calc
        (earlier ++ flag :: given').eraseDups = (earlier ++ [flag] ++ given').eraseDups := by
          rw [← List.append_cons]
        _ = (earlier ++ [flag] ++ flag :: given).eraseDups := herase _
        _ = (earlier ++ [flag] ++ given).eraseDups := Flag.eraseDups_append_cons_of_mem hrepeated _
        _ = (earlier ++ flag :: given).eraseDups := by rw [← List.append_cons]

namespace Segment

variable {segment first second : Segment}

/-- A segment in other words gives the same instruction. -/
theorem Reworded.exists_segment (h : segment.Reworded tokens) (hspelled : segment.Spelled rules) :
    ∃ other : Segment, other.words = tokens ∧ other.Spelled rules ∧
      other.instruction = segment.instruction := by
  cases h with
  | @of opening flagWords opens flags =>
    obtain ⟨given, hgiven, herase⟩ := flags.exists_given hspelled.flags
    refine ⟨{ segment with opening, flagWords, given }, rfl, ⟨?_, hgiven⟩, ?_⟩
    · exact hspelled.opening.of_reworded opens
    · simpa [instruction] using herase []

theorem exists_segments {segments : List Segment} {stretches : List (List String)}
    (h : List.Forall₂ Reworded segments stretches)
    (hspelled : ∀ segment ∈ segments, segment.Spelled rules) :
    ∃ others : List Segment, others.flatMap words = stretches.flatten ∧
      (∀ other ∈ others, other.Spelled rules) ∧
      others.map instruction = segments.map instruction := by
  induction h with
  | nil => exact ⟨[], rfl, by simp, rfl⟩
  | cons hreworded _ ih =>
    obtain ⟨hfirst, hrest⟩ := List.forall_mem_cons.mp hspelled
    obtain ⟨other, hwords, hother, hinstruction⟩ := hreworded.exists_segment hfirst
    obtain ⟨others, hflat, hothers, hinstructions⟩ := ih hrest
    refine ⟨other :: others, ?_, List.forall_mem_cons.mpr ⟨hother, hothers⟩, ?_⟩
    · rw [List.flatMap_cons, List.flatten_cons, hwords, hflat]
    · rw [List.map_cons, List.map_cons, hinstruction, hinstructions]

/-- Commands that can be carried out at the same time keep their words apart: what begins a segment
of one is no flag of another. -/
theorem Spelled.ends {combination : List Command} (h : second.Spelled rules)
    (hcombination : combination ∈ Command.combinations) (hfirst : first.command ∈ combination)
    (hsecond : second.command ∈ combination) : first.Ends second.words := by
  have apart : ∀ commands ∈ Command.combinations, ∀ c ∈ commands, ∀ d ∈ commands,
      ∀ word ∈ d.spellings, c.flag? word = none := by decide
  intro word hword flag
  have hopening := h.opening
  rw [words] at hword
  generalize second.opening = opening at hword hopening
  cases hopening with
  | @spelled spelling given _ hspelling enough form =>
    obtain rfl : spelling = word := Option.some.inj hword
    have hnone := apart combination hcombination _ hfirst _ hsecond spelling hspelling
    exact Command.flag?_eq_none_iff.mp hnone flag
  | @condensed letter digits _ stands several decimal form =>
    obtain rfl : String.ofList (letter :: digits) = word := Option.some.inj hword
    exact Command.not_spellsFlag_of_digits String.toList_ofList several decimal flag

/-- Segments whose commands may be given together are well made as soon as each is spelled out. -/
theorem wellMade_of_possible {segments : List Segment} {mode : Mode}
    (hspelled : ∀ segment ∈ segments, segment.Spelled rules)
    (hpossible : Possible mode (segments.map (·.command))) : WellMade rules segments := by
  have hdistinct : segments.Pairwise fun first second => first.command ≠ second.command :=
    List.pairwise_map.mp hpossible.distinct
  have hends : segments.Pairwise fun first second => first.Ends second.words := by
    refine hdistinct.imp_of_mem fun {first second} hfirst hsecond hne => ?_
    obtain ⟨combination, hcombination, hin, hin'⟩ := hpossible.exists_combination
      (List.mem_map_of_mem hfirst) (List.mem_map_of_mem hsecond) hne
    exact (hspelled second hsecond).ends hcombination hin hin'
  exact ⟨hspelled, hends.isChain⟩

end Segment

theorem Division.Gives.exists_of_reworded {division : Division} {call : Call}
    (h : division.Gives rules call)
    (hpossible : Possible call.mode (call.instructions.map (·.command)))
    (hreworded : division.Reworded tokens) :
    ∃ other : Division, other.words = tokens ∧ other.Gives rules call := by
  obtain ⟨stretches, hstretches, rfl⟩ := hreworded
  obtain ⟨others, hwords, hspelled, hinstructions⟩ :=
    Segment.exists_segments hstretches h.segments.spelled
  rw [← h.instructions] at hinstructions
  rw [← hinstructions, List.map_map] at hpossible
  exact ⟨⟨division.addressee, others⟩, by rw [words, hwords], h.addressee,
    Segment.wellMade_of_possible hspelled hpossible, hinstructions.symm⟩

/-- A transmission to an aircraft that is understood is understood in the same way in other words:
however its commands and flags are spelled, and however often a flag is repeated where it stands. -/
theorem read_eq_accepted_of_reworded (rules : ReadingRules) (tokens : List String) (mode : Mode)
    (target : String) (instructions : List Instruction)
    (accepted : ((TokenCursor.ofTokens tokens).read rules).1 =
      .accepted (.aircraft mode target instructions)) :
    (∃ division : Division, division.words = tokens ∧
      division.Gives rules ⟨mode, target, instructions⟩) ∧
    ∀ division : Division, division.words = tokens →
      division.Gives rules ⟨mode, target, instructions⟩ →
      ∀ others, division.Reworded others →
        ((TokenCursor.ofTokens others).read rules).1 =
          .accepted (.aircraft mode target instructions) := by
  rw [TokenCursor.fst_read_ofTokens, Stage.outcome_eq_aircraft_iff] at accepted
  obtain ⟨division, hwords, hgives, hpossible⟩ := accepted
  refine ⟨⟨division, hwords, hgives⟩, fun division' _ hgives' others hreworded => ?_⟩
  obtain ⟨other, hother, hsame⟩ := hgives'.exists_of_reworded hpossible hreworded
  rw [TokenCursor.fst_read_ofTokens, Stage.outcome_eq_aircraft_iff]
  exact ⟨other, hother, hsame, hpossible⟩

/-- The `l` behind the heading spells a flag, and so does `long`; to land is another matter. -/
theorem read_eq_accepted_of_reworded_heading :
    let read := fun tokens => ((TokenCursor.ofTokens tokens).read {}).1
    let heading : Instruction :=
      { command := .heading, arguments := [.number 90], flags := [.longTurn, .expedite] }
    let altitude : Instruction := { command := .altitude, arguments := [.number 2000] }
    let others := ["abc1234", "head", "090", "long", "l", "x", "alt", "20"]
    read ["abc1234", "h", "090", "l", "expedite", "a", "20"] =
        .accepted (.aircraft .execute "ABC1234" [heading, altitude]) ∧
      read others = .accepted (.aircraft .execute "ABC1234" [heading, altitude]) := by
  intro read heading altitude others
  have hread : read ["abc1234", "h", "090", "l", "expedite", "a", "20"] =
      .accepted (.aircraft .execute "ABC1234" [heading, altitude]) := by
    simp only [read, TokenCursor.fst_read_ofTokens]
    decide +kernel
  let turning : Segment :=
    ⟨.heading, ["h", "090"], [.number 90], ["l", "expedite"], [.longTurn, .expedite]⟩
  let climbing : Segment := ⟨.altitude, ["a", "20"], [.number 2000], [], []⟩
  let division : Division := ⟨["abc1234"], [turning, climbing]⟩
  have hl : Command.heading.SpellsFlag "l" .longTurn := ⟨["l", "long"], by decide, by decide⟩
  have hlong : Command.heading.SpellsFlag "long" .longTurn := ⟨["l", "long"], by decide, by decide⟩
  have hexpedite : Command.heading.SpellsFlag "expedite" .expedite :=
    ⟨["expedite", "x"], by decide, by decide⟩
  have hx : Command.heading.SpellsFlag "x" .expedite := ⟨["expedite", "x"], by decide, by decide⟩
  have hspelled : ∀ segment ∈ division.segments, segment.Spelled {} := by
    refine List.forall_mem_cons.mpr ⟨⟨?_, .cons hl (.cons hexpedite .nil)⟩, ?_⟩
    · exact .spelled (by decide) rfl (by decide +kernel)
    · exact List.forall_mem_singleton.mpr ⟨.spelled (by decide) rfl (by decide +kernel), .nil⟩
  have hpossible : Possible .execute (division.segments.map (·.command)) :=
    ⟨by decide, by decide, by decide,
      fun _ => ⟨[.heading, .altitude, .speed], by decide, by decide⟩⟩
  have haddressee : Addressee {} ["abc1234"] .execute "ABC1234" := by
    have hidentifier : Argument.identifier? "abc1234" = some "ABC1234" := by decide +kernel
    obtain ⟨hform, htarget⟩ := Argument.identifier?_eq_some_iff.mp hidentifier
    rw [htarget]
    exact .execute hform
  have hgives : division.Gives {} ⟨.execute, "ABC1234", [heading, altitude]⟩ :=
    ⟨haddressee, Segment.wellMade_of_possible hspelled hpossible, rfl⟩
  have hturning : turning.Reworded (["head", "090"] ++ ["long", "l", "x"]) :=
    .of (.spelled ["090"] (by decide) (by decide))
      (.again hl hlong (.another hl hl (.another hexpedite hx .nil)))
  have hclimbing : climbing.Reworded (["alt", "20"] ++ []) :=
    .of (.spelled ["20"] (by decide) (by decide)) .nil
  have hreworded : division.Reworded others := ⟨_, .cons hturning (.cons hclimbing .nil), rfl⟩
  have hsame := (read_eq_accepted_of_reworded {} _ _ _ _ hread).2 division rfl hgives
  exact ⟨hread, hsame others hreworded⟩

end ControlTower
