import ControlTower.Proofs.Phraseology.Grammar

/-!
# What more words can mend

A line that is refused may be the beginning of one that is understood. Which reasons can be mended
by saying more is worked out here. A word that cannot stand where it does is final: the line is
refused for the same reason whatever follows. Commands that cannot be given together stay so, since
further words can only add to them. What is left is a line that ends too early: behind a glyph,
before any command, or in the middle of the arguments of one.
-/

namespace ControlTower

namespace Misreading

def InWord : Misreading → Prop
  | notReference word | notSystemCommand word => word ≠ ""
  | notCommand _ | badArgument _ => True
  | missingArgument _ | nothingCommanded | abortQueued | commandRepeated | commandsIncompatible =>
    False

def InCommands : Misreading → Prop
  | abortQueued | commandRepeated | commandsIncompatible => True
  | notReference _ | notSystemCommand _ | notCommand _ | badArgument _ | missingArgument _
  | nothingCommanded => False

end Misreading

/-- Of commands that may be given together some may be left out at the end. -/
theorem Possible.of_append {mode : Mode} {commands more : List Command}
    (h : Possible mode (commands ++ more)) (hsome : commands ≠ []) : Possible mode commands where
  some_given := hsome
  abort_not_queued hmode habort := h.abort_not_queued hmode (List.mem_append_left more habort)
  distinct := (List.nodup_append.mp h.distinct).1
  together hmany := by
    have hmore : 1 < (commands ++ more).length := by
      rw [List.length_append]
      omega
    obtain ⟨combination, hcombination, hsub⟩ := h.together hmore
    exact ⟨combination, hcombination, fun command hmem => hsub (List.mem_append_left more hmem)⟩

namespace Call

variable {call : Call} {reason : Misreading}

def commands (call : Call) : List Command := call.instructions.map (·.command)

theorem commands_add (call : Call) (instruction : Instruction) :
    (call.add instruction).commands = call.commands ++ [instruction.command] := by
  simp [commands, add]

/-- A call is refused as a whole when nothing is commanded, or for commands that cannot be given
together. -/
theorem finish_eq_rejected (h : call.finish = .rejected reason) :
    ¬ Possible call.mode call.commands ∧
      (reason = .nothingCommanded ∧ call.commands = [] ∨
        reason.InCommands ∧ call.commands ≠ []) := by
  constructor
  · intro hpossible
    rw [finish_of_possible hpossible] at h
    cases h
  · simp only [finish] at h
    split at h
    · next hnone =>
      cases h
      exact .inl ⟨rfl, List.isEmpty_iff.mp hnone⟩
    · next hsome =>
      refine .inr ⟨?_, fun hnil => hsome (List.isEmpty_iff.mpr hnil)⟩
      split at h
      · cases h
        trivial
      · split at h
        · cases h
          trivial
        · split at h
          · cases h
            trivial
          · cases h

end Call

namespace Stage

variable {rules : ReadingRules} {stage next : Stage} {mode : Mode} {commands : List Command}
  {reason : Misreading} {word : String} {words : List String}

def begun? : Stage → Option (Mode × List Command)
  | start | afterQueueGlyph | afterSystemGlyph | system _ => none
  | addressed call => some (call.mode, call.commands)
  | arguments call command _ => some (call.mode, call.commands ++ [command])
  | flags call latest => some (call.mode, call.commands ++ [latest.command])

theorem begun?_of_collect {call : Call} {command : Command} {given : List String}
    (h : call.collect rules command given = .ok stage) :
    stage.begun? = some (call.mode, call.commands ++ [command]) := by
  unfold Call.collect at h
  split at h
  · cases h
    rfl
  · split at h
    · cases h
      rfl
    · cases h

theorem begun?_of_begin {call : Call} (h : call.begin rules word = .ok stage) :
    ∃ command, stage.begun? = some (call.mode, call.commands ++ [command]) := by
  unfold Call.begin at h
  split at h
  · next instruction hcondensed =>
    cases h
    exact ⟨instruction.command, rfl⟩
  · split at h
    · next command hword => exact ⟨command, begun?_of_collect h⟩
    · cases h

theorem begun?_step (hbegun : stage.begun? = some (mode, commands))
    (h : stage.step rules word = .ok next) :
    ∃ more, next.begun? = some (mode, commands ++ more) := by
  cases stage with
  | start | afterQueueGlyph | afterSystemGlyph | system _ => cases hbegun
  | addressed call =>
    cases hbegun
    obtain ⟨command, hnext⟩ := begun?_of_begin h
    exact ⟨[command], hnext⟩
  | arguments call command given =>
    cases hbegun
    exact ⟨[], by rw [begun?_of_collect h, List.append_nil]⟩
  | flags call latest =>
    cases hbegun
    simp only [step] at h
    split at h
    · next flag hflag =>
      cases h
      refine ⟨[], ?_⟩
      rw [begun?, Instruction.withFlag_command, List.append_nil]
    · obtain ⟨command, hnext⟩ := begun?_of_begin h
      exact ⟨[command], by rw [hnext, Call.commands_add]; rfl⟩

theorem begun?_reach {words : List String} (hbegun : stage.begun? = some (mode, commands))
    (h : stage.reach rules words = .ok next) :
    ∃ more, next.begun? = some (mode, commands ++ more) := by
  induction words generalizing stage commands with
  | nil =>
    cases h
    exact ⟨[], by rw [hbegun, List.append_nil]⟩
  | cons word words ih =>
    cases hstep : stage.step rules word with
    | error reason =>
      rw [reach_cons_of_error hstep] at h
      cases h
    | ok middle =>
      rw [reach_cons_of_ok hstep] at h
      obtain ⟨first, hmiddle⟩ := begun?_step hbegun hstep
      obtain ⟨others, hnext⟩ := ih hmiddle h
      exact ⟨first ++ others, by rw [hnext, List.append_assoc]⟩

theorem possible_of_finish {transmission : Transmission}
    (h : stage.finish = .accepted transmission)
    (hbegun : stage.begun? = some (mode, commands)) : Possible mode commands := by
  cases stage with
  | start | afterQueueGlyph | afterSystemGlyph | system _ => cases hbegun
  | arguments call command given => cases h
  | addressed call =>
    cases hbegun
    exact (Call.possible_of_finish h).2
  | flags call latest =>
    cases hbegun
    rw [← Call.commands_add]
    exact (Call.possible_of_finish h).2

inductive Unfinished : Stage → Misreading → Prop where
  | noReference : Unfinished .afterQueueGlyph (.notReference "")
  | noSystemCommand : Unfinished .afterSystemGlyph (.notSystemCommand "")
  | noArgument (call : Call) (command : Command) (given : List String) :
      Unfinished (.arguments call command given) (.missingArgument command)
  | noCommand {stage : Stage} {mode : Mode} (begun : stage.begun? = some (mode, [])) :
      Unfinished stage .nothingCommanded
  | impossible {stage : Stage} {mode : Mode} {commands : List Command} {reason : Misreading}
      (begun : stage.begun? = some (mode, commands)) (some_begun : commands ≠ [])
      (not_possible : ¬ Possible mode commands) (kind : reason.InCommands) :
      Unfinished stage reason

theorem unfinished_of_begun {call : Call} (hbegun : stage.begun? = some (call.mode, call.commands))
    (h : call.finish = .rejected reason) : stage.Unfinished reason := by
  obtain ⟨hnot, ⟨rfl, hnone⟩ | ⟨hkind, hsome⟩⟩ := Call.finish_eq_rejected h
  · exact .noCommand (hnone ▸ hbegun)
  · exact .impossible hbegun hsome hnot hkind

theorem unfinished_of_finish (h : stage.finish = .rejected reason) : stage.Unfinished reason := by
  cases stage with
  | start | system _ => cases h
  | afterQueueGlyph =>
    cases h
    exact .noReference
  | afterSystemGlyph =>
    cases h
    exact .noSystemCommand
  | arguments call command given =>
    cases h
    exact .noArgument call command given
  | addressed call => exact unfinished_of_begun rfl h
  | flags call latest =>
    have hbegun : (flags call latest).begun? =
        some ((call.add latest).mode, (call.add latest).commands) := by
      rw [Call.commands_add]
      rfl
    exact unfinished_of_begun hbegun h

/-- What a line lacks at its end lies in no word of it. -/
theorem Unfinished.not_inWord (h : stage.Unfinished reason) : ¬ reason.InWord := by
  cases h with
  | noReference | noSystemCommand => exact fun hword => hword rfl
  | noArgument | noCommand => exact id
  | impossible _ _ _ kind => cases reason <;> first | exact id | exact kind.elim

theorem eq_start_of_step (h : stage.step rules word = .ok next)
    (hnext : next = .afterQueueGlyph ∨ next = .afterSystemGlyph) : stage = .start := by
  have hnone : next.begun? = none := by rcases hnext with rfl | rfl <;> rfl
  cases hbegun : stage.begun? with
  | some given =>
    obtain ⟨more, hsome⟩ := begun?_step hbegun h
    rw [hnone] at hsome
    cases hsome
  | none =>
    cases stage with
    | start => rfl
    | addressed _ | arguments _ _ _ | flags _ _ => cases hbegun
    | system command => cases h
    | afterQueueGlyph =>
      simp only [step] at h
      split at h <;> cases h
      cases hnone
    | afterSystemGlyph =>
      simp only [step] at h
      split at h <;> cases h
      rcases hnext with hnext | hnext <;> cases hnext

/-- Only a single word leads to the stage behind a glyph. -/
theorem exists_glyph_of_reach (h : Stage.reach rules .start words = .ok next)
    (hnext : next = .afterQueueGlyph ∨ next = .afterSystemGlyph) :
    ∃ glyph, words = [glyph] ∧ Stage.step rules .start glyph = .ok next := by
  rcases List.eq_nil_or_concat words with rfl | ⟨before, glyph, rfl⟩
  · cases h
    rcases hnext with hnext | hnext <;> cases hnext
  · rw [List.concat_eq_append] at h ⊢
    obtain ⟨middle, hmiddle, hglyph⟩ := reach_append_eq_ok_iff.mp h
    rw [reach_singleton] at hglyph
    obtain rfl := eq_start_of_step hglyph hnext
    have hempty : outcome rules .start before = .empty := by
      rw [outcome, hmiddle]
      rfl
    obtain rfl := outcome_start_eq_empty_iff.mp hempty
    exact ⟨glyph, rfl, hglyph⟩

theorem step_start_eq_afterQueueGlyph (h : Stage.step rules .start word = .ok .afterQueueGlyph) :
    word.toList.head? = some rules.glyphs.queue := by
  simp only [step] at h
  split at h
  · cases h
  · split at h
    · next hqueue => exact hqueue
    · split at h <;> cases h

theorem step_start_eq_afterSystemGlyph (h : Stage.step rules .start word = .ok .afterSystemGlyph) :
    word.toList = [rules.glyphs.system] := by
  simp only [step] at h
  split at h
  · cases h
  · split at h
    · cases h
    · split at h
      · next hsystem => exact hsystem
      · cases h

theorem outcome_append_of_error (h : Stage.reach rules stage words = .error reason)
    (after : List String) : stage.outcome rules (words ++ after) = .rejected reason := by
  have hlonger : stage.reach rules (words ++ after) = .error reason := by
    unfold reach at h ⊢
    rw [List.foldlM_append, h]
    rfl
  rw [outcome, hlonger]

theorem outcome_append_of_ok (h : Stage.reach rules stage words = .ok next)
    (after : List String) : stage.outcome rules (words ++ after) = next.outcome rules after := by
  rw [outcome, outcome, reach_append_of_ok h]

/-- A line is refused either at a word, and is then refused whatever follows, or because it cannot
end where it does. -/
theorem refused_cases (h : Stage.outcome rules .start words = .rejected reason) :
    (∀ after, Stage.outcome rules .start (words ++ after) = .rejected reason) ∨
      ∃ last, Stage.reach rules .start words = .ok last ∧ last.Unfinished reason := by
  unfold outcome at h
  split at h
  · next last hreach => exact .inr ⟨last, hreach, unfinished_of_finish h⟩
  · next reason' hreach =>
    cases h
    exact .inl (outcome_append_of_error hreach)

/-- More words cannot make commands possible that are not. -/
theorem outcome_append_ne_accepted (hreach : Stage.reach rules .start words = .ok stage)
    (hbegun : stage.begun? = some (mode, commands)) (hsome : commands ≠ [])
    (hnot : ¬ Possible mode commands) (after : List String) (transmission : Transmission) :
    Stage.outcome rules .start (words ++ after) ≠ .accepted transmission := by
  intro haccepted
  rw [outcome_append_of_ok hreach, outcome_eq_accepted_iff] at haccepted
  obtain ⟨last, hlast, hfinish⟩ := haccepted
  obtain ⟨more, hmore⟩ := begun?_reach hbegun hlast
  exact hnot ((possible_of_finish hfinish hmore).of_append hsome)

end Stage

/-- Errors are leftmost, and what is wrong in a word is final. If a list of words is refused for a
word that cannot stand where it does, every longer list is refused for the same reason; if it is
refused for its commands, no longer list is accepted. Only a missing argument, a missing command and
a missing word behind a glyph can be mended by saying more. -/
theorem read_append_of_rejected (rules : ReadingRules) (before after : List String)
    (reason : Misreading)
    (refused : ((TokenCursor.ofTokens before).read rules).1 = .rejected reason) :
    let longer := ((TokenCursor.ofTokens (before ++ after)).read rules).1
    (reason.InWord → longer = .rejected reason) ∧
      (reason.InCommands → ∀ transmission, longer ≠ .accepted transmission) ∧
      ∀ transmission, longer = .accepted transmission →
        (∃ command, reason = .missingArgument command) ∨ reason = .nothingCommanded ∨
          ∃ glyph, before = [glyph] ∧
            (reason = .notReference "" ∧ glyph.toList.head? = some rules.glyphs.queue ∨
              reason = .notSystemCommand "" ∧ glyph.toList = [rules.glyphs.system]) := by
  intro longer
  have hlonger : longer = Stage.outcome rules .start (before ++ after) :=
    TokenCursor.fst_read_ofTokens rules _
  rw [TokenCursor.fst_read_ofTokens] at refused
  rcases Stage.refused_cases refused with hfinal | ⟨last, hreach, hunfinished⟩
  · have hsame : longer = .rejected reason := hlonger.trans (hfinal after)
    simp [hsame]
  · refine ⟨fun hword => absurd hword hunfinished.not_inWord, fun hkind => ?_, ?_⟩
    · cases hunfinished with
      | noReference | noSystemCommand | noArgument | noCommand => exact hkind.elim
      | impossible begun some_begun not_possible =>
        rw [hlonger]
        exact Stage.outcome_append_ne_accepted hreach begun some_begun not_possible after
    · intro transmission haccepted
      rw [hlonger] at haccepted
      cases hunfinished with
      | noReference =>
        obtain ⟨glyph, rfl, hglyph⟩ := Stage.exists_glyph_of_reach hreach (.inl rfl)
        exact .inr (.inr ⟨glyph, rfl, .inl ⟨rfl, Stage.step_start_eq_afterQueueGlyph hglyph⟩⟩)
      | noSystemCommand =>
        obtain ⟨glyph, rfl, hglyph⟩ := Stage.exists_glyph_of_reach hreach (.inr rfl)
        exact .inr (.inr ⟨glyph, rfl, .inr ⟨rfl, Stage.step_start_eq_afterSystemGlyph hglyph⟩⟩)
      | noArgument call command given => exact .inl ⟨command, rfl⟩
      | noCommand => exact .inr (.inl rfl)
      | impossible begun some_begun not_possible =>
        exact absurd haccepted
          (Stage.outcome_append_ne_accepted hreach begun some_begun not_possible after transmission)

theorem read_append_of_rejected_lines :
    let read := fun tokens => ((TokenCursor.ofTokens tokens).read {}).1
    let unknown := ["abc1234", "heading", "090", "barrel-roll"]
    let incompatible := [".", "abc1234", "h090", "land", "xyz", "09l"]
    let short := ["abc1234", "land", "xyz"]
    (read unknown = .rejected (.notCommand "BARREL-ROLL") ∧
        read (unknown ++ ["x"]) = .rejected (.notCommand "BARREL-ROLL")) ∧
      (read incompatible = .rejected .commandsIncompatible ∧
        ∀ transmission, read (incompatible ++ ["abort"]) ≠ .accepted transmission) ∧
      read short = .rejected (.missingArgument .land) ∧
        ∃ transmission, read (short ++ ["09l"]) = .accepted transmission := by
  intro read unknown incompatible short
  have hunknown : read unknown = .rejected (.notCommand "BARREL-ROLL") := by
    simp only [read, TokenCursor.fst_read_ofTokens]
    decide +kernel
  have hincompatible : read incompatible = .rejected .commandsIncompatible := by
    simp only [read, TokenCursor.fst_read_ofTokens]
    decide +kernel
  have hshort : read short = .rejected (.missingArgument .land) := by
    simp only [read, TokenCursor.fst_read_ofTokens]
    decide +kernel
  have hmended : read (short ++ ["09l"]) = .accepted (.aircraft .execute "ABC1234"
      [{ command := .land, arguments := [.text "xyz", .text "09l"] }]) := by
    simp only [read, TokenCursor.fst_read_ofTokens]
    decide +kernel
  have hfinal := (read_append_of_rejected {} unknown ["x"] _ hunknown).1 trivial
  have hnever := (read_append_of_rejected {} incompatible ["abort"] _ hincompatible).2.1 trivial
  exact ⟨⟨hunknown, hfinal⟩, ⟨hincompatible, hnever⟩, hshort, _, hmended⟩

end ControlTower
