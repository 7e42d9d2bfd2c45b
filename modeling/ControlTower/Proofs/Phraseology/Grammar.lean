import ControlTower.Proofs.Phraseology.Segment
import ControlTower.Proofs.Text.Case

/-!
# The grammar of transmissions

A transmission to an aircraft is an addressee followed by well-made segments, of which the commands
can be carried out together. The main result is that reading accepts exactly the lists of words that
can be divided so, that what it makes of them is what the division says, and that there is only one
division. It rests on a description of every stage of reading by the words that lead to it, which is
kept by each step, and on following the words of a division from stage to stage.
-/

namespace ControlTower

variable {rules : ReadingRules}

def IsIdentifier (word : String) : Prop :=
  ∃ letters digits : List Char, word.toList = letters ++ digits ∧
    letters.length = 3 ∧ digits.length = 4 ∧
    (∀ c ∈ letters, c.isAlpha = true) ∧ ∀ c ∈ digits, c.isDigit = true

theorem IsIdentifier.toNat_lt {word : String} (h : IsIdentifier word) :
    ∀ c ∈ word.toList, c.toNat < 128 := by
  obtain ⟨letters, digits, hword, -, -, hletters, hdigits⟩ := h
  intro c hc
  rcases List.mem_append.mp (hword ▸ hc) with hc | hc
  · exact Text.toNat_lt_of_isAlpha (hletters c hc)
  · exact Text.toNat_lt_of_isDigit (hdigits c hc)

inductive Addressee (rules : ReadingRules) : List String → Mode → String → Prop where
  | execute {word : String} (identifier : IsIdentifier word) :
      Addressee rules [word] .execute (Text.upper word)
  | enqueue {glyph word : String} (other : ¬ IsIdentifier glyph)
      (queued : glyph.toList.head? = some rules.glyphs.queue) (identifier : IsIdentifier word) :
      Addressee rules [glyph, word] .enqueue (Text.upper word)

structure Possible (mode : Mode) (commands : List Command) : Prop where
  some_given : commands ≠ []
  abort_not_queued : mode = .enqueue → Command.abort ∉ commands
  distinct : commands.Nodup
  together : 1 < commands.length →
    ∃ combination ∈ Command.combinations, commands ⊆ combination

/-- A list of words, divided into an addressee and segments. -/
structure Division where
  addressee : List String
  segments : List Segment
deriving DecidableEq

namespace Division

def words (division : Division) : List String :=
  division.addressee ++ division.segments.flatMap Segment.words

structure Gives (rules : ReadingRules) (division : Division) (call : Call) : Prop where
  addressee : Addressee rules division.addressee call.mode call.target
  segments : Segment.WellMade rules division.segments
  instructions : call.instructions = division.segments.map Segment.instruction

/-- The words that follow a division do not go on with a flag of its last segment. -/
def Ends (division : Division) (rest : List String) : Prop :=
  ∀ last ∈ division.segments.getLast?, last.Ends rest

def add (division : Division) (segment : Segment) : Division :=
  { division with segments := division.segments ++ [segment] }

theorem words_add (division : Division) (segment : Segment) :
    (division.add segment).words = division.words ++ segment.words := by
  simp [add, words]

theorem ends_add (division : Division) (segment : Segment) (rest : List String) :
    (division.add segment).Ends rest ↔ segment.Ends rest := by
  simp [add, Ends]

theorem Gives.add {division : Division} {call : Call} (h : division.Gives rules call)
    {segment : Segment} (hsegment : segment.Spelled rules) (hends : division.Ends segment.words) :
    (division.add segment).Gives rules (call.add segment.instruction) where
  addressee := h.addressee
  segments := Segment.wellMade_append_singleton.mpr ⟨h.segments, hsegment, hends⟩
  instructions := by simp [Division.add, Call.add, h.instructions]

end Division

namespace Argument

theorem isIdentifier_iff {word : String} : isIdentifier word = true ↔ IsIdentifier word := by
  simp only [isIdentifier, Bool.and_eq_true, beq_iff_eq, List.all_eq_true]
  constructor
  · rintro ⟨⟨hlength, hletters⟩, hdigits⟩
    refine ⟨_, _, (List.take_append_drop 3 word.toList).symm, ?_, ?_, hletters, hdigits⟩
    · simp [hlength]
    · simp [hlength]
  · rintro ⟨letters, digits, hword, hthree, hfour, hletters, hdigits⟩
    rw [hword, ← hthree, List.take_left, List.drop_left]
    exact ⟨⟨by simp [hthree, hfour], hletters⟩, hdigits⟩

theorem upper_of_isIdentifier {word : String} (h : IsIdentifier word) :
    Text.upper word = String.ofList (word.toList.map Char.toUpper) := by
  rw [Text.upper, List.map_eq_flatMap]
  congr 1
  exact List.flatMap_congr fun c hc => Text.upperChar_of_ascii (h.toNat_lt c hc)

theorem identifier?_eq_some_iff {word target : String} :
    identifier? word = some target ↔ IsIdentifier word ∧ target = Text.upper word := by
  unfold identifier?
  split
  · next h =>
    have hform := isIdentifier_iff.mp h
    rw [upper_of_isIdentifier hform]
    simp [hform, eq_comm]
  · next h => simp [← isIdentifier_iff, h]

theorem identifier?_eq_none_iff {word : String} :
    identifier? word = none ↔ ¬ IsIdentifier word := by
  simp [identifier?, ← isIdentifier_iff]

end Argument

namespace Addressee

theorem unique {first second rest rest' : List String} {mode mode' : Mode}
    {target target' : String} (h : Addressee rules first mode target)
    (h' : Addressee rules second mode' target') (heq : first ++ rest = second ++ rest') :
    first = second := by
  cases h with
  | execute identifier =>
    cases h' with
    | execute _ =>
      obtain ⟨rfl, -⟩ := List.cons.inj heq
      rfl
    | enqueue other _ _ =>
      obtain ⟨rfl, -⟩ := List.cons.inj heq
      exact absurd identifier other
  | enqueue other _ _ =>
    cases h' with
    | execute identifier =>
      obtain ⟨rfl, -⟩ := List.cons.inj heq
      exact absurd identifier other
    | enqueue _ _ _ =>
      obtain ⟨rfl, hrest⟩ := List.cons.inj heq
      obtain ⟨rfl, -⟩ := List.cons.inj hrest
      rfl

theorem reach {words : List String} {mode : Mode} {target : String}
    (h : Addressee rules words mode target) :
    Stage.reach rules .start words = .ok (.addressed ⟨mode, target, []⟩) := by
  cases h with
  | @execute word identifier =>
    have hword := Argument.identifier?_eq_some_iff.mpr ⟨identifier, rfl⟩
    rw [Stage.reach_singleton, Stage.step, hword]
  | @enqueue glyph word other queued identifier =>
    have hglyph := Argument.identifier?_eq_none_iff.mpr other
    have hword := Argument.identifier?_eq_some_iff.mpr ⟨identifier, rfl⟩
    have hstep : Stage.step rules .start glyph = .ok .afterQueueGlyph := by
      simp only [Stage.step, hglyph, queued, if_true]
    rw [Stage.reach_cons_of_ok hstep, Stage.reach_singleton, Stage.step, hword]

end Addressee

/-- The words of a division lead to a stage at which all that they give is understood: there it can
end, and a word that is no flag of the last segment begins a new command. -/
theorem Division.Gives.exists_reach {division : Division} {call : Call}
    (h : division.Gives rules call) :
    ∃ stage, Stage.reach rules .start division.words = .ok stage ∧ stage.finish = call.finish ∧
      ∀ word, division.Ends [word] → stage.step rules word = call.begin rules word := by
  obtain ⟨addressee, segments⟩ := division
  -- By induction from the right: a segment is read from the stage that those before it lead to.
  induction segments using List.reverseRecOn generalizing call with
  | nil =>
    have hcall : call = ⟨call.mode, call.target, []⟩ := by
      cases call
      simpa using h.instructions
    refine ⟨.addressed call, ?_, rfl, fun word _ => rfl⟩
    rw [words, List.flatMap_nil, List.append_nil, hcall]
    exact h.addressee.reach
  | append_singleton segments segment ih =>
    obtain ⟨hsegments, hspelled, hends⟩ := Segment.wellMade_append_singleton.mp h.segments
    let earlier : Call := ⟨call.mode, call.target, segments.map Segment.instruction⟩
    have hcall : call = earlier.add segment.instruction := by
      cases call
      simpa [earlier, Call.add] using h.instructions
    have hearlier : Gives rules ⟨addressee, segments⟩ earlier := ⟨h.addressee, hsegments, rfl⟩
    obtain ⟨stage, hreach, -, hbegin⟩ := ih hearlier
    obtain ⟨word, given, hwords, next, hnext, hgiven⟩ := hspelled.exists_begin earlier
    have hstep : stage.step rules word = .ok next := by
      rw [hbegin word ?_, hnext]
      intro last hlast
      simpa [Segment.Ends, hwords] using hends last hlast
    refine ⟨.flags earlier segment.instruction, ?_, by rw [hcall]; rfl, fun word hword => ?_⟩
    · change Stage.reach rules .start (Division.add ⟨addressee, segments⟩ segment).words = _
      rw [words_add, Stage.reach_append_of_ok hreach, hwords, Stage.reach_cons_of_ok hstep, hgiven]
    · have hends' : segment.Ends [word] := (ends_add ⟨addressee, segments⟩ segment _).mp hword
      have hnone : segment.instruction.command.flag? word = none :=
        Command.flag?_eq_none_iff.mpr (hends' word rfl)
      simp only [hcall, Stage.step, hnone]

namespace Segment

def addFlag (segment : Segment) (word : String) (flag : Flag) : Segment :=
  { segment with
    flagWords := segment.flagWords ++ [word]
    given := segment.given ++ [flag] }

theorem words_addFlag (segment : Segment) (word : String) (flag : Flag) :
    (segment.addFlag word flag).words = segment.words ++ [word] := by
  simp [addFlag, words]

theorem instruction_addFlag (segment : Segment) (word : String) (flag : Flag) :
    (segment.addFlag word flag).instruction = segment.instruction.withFlag flag :=
  (Instruction.withFlag_eraseDups segment.command segment.arguments segment.given flag).symm

theorem Spelled.addFlag {segment : Segment} (h : segment.Spelled rules) {word : String}
    {flag : Flag} (hflag : segment.command.SpellsFlag word flag) :
    (segment.addFlag word flag).Spelled rules where
  opening := h.opening
  flags := List.rel_append h.flags (.cons hflag .nil)

end Segment

def Stage.Describes (rules : ReadingRules) (tokens : List String) : Stage → Prop
  | .start => tokens = []
  | .afterQueueGlyph => ∃ glyph, ¬ IsIdentifier glyph ∧
      glyph.toList.head? = some rules.glyphs.queue ∧ tokens = [glyph]
  | .afterSystemGlyph | .system _ => True
  | .addressed call => ∃ division : Division, division.Gives rules call ∧
      division.segments = [] ∧ tokens = division.words
  | .arguments call command given => ∃ (division : Division) (word : String),
      division.Gives rules call ∧ division.Ends [word] ∧ word ∈ command.spellings ∧
        given.length < command.arity ∧ tokens = division.words ++ word :: given
  | .flags call latest => ∃ (division : Division) (segment : Segment),
      division.Gives rules call ∧ division.Ends segment.words ∧ segment.Spelled rules ∧
        latest = segment.instruction ∧ tokens = division.words ++ segment.words

namespace Division.Gives

variable {division : Division} {call : Call} {command : Command} {stage : Stage} {word : String}

theorem describes_collect (h : division.Gives rules call) (hends : division.Ends [word])
    (hword : word ∈ command.spellings) {given : List String}
    (most : given.length ≤ command.arity) (hstage : call.collect rules command given = .ok stage) :
    stage.Describes rules (division.words ++ word :: given) := by
  rcases Call.collect_eq_ok most hstage with ⟨rfl, hless⟩ | ⟨arguments, rfl, enough, form⟩
  · exact ⟨division, word, h, hends, hword, hless, rfl⟩
  · let segment : Segment := ⟨command, word :: given, arguments, [], []⟩
    have hspelled : segment.Spelled rules := ⟨.spelled hword enough form, .nil⟩
    have hwords : segment.words = word :: given := List.append_nil _
    refine ⟨division, segment, h, fun last hlast => ?_, hspelled, rfl, by rw [hwords]⟩
    simpa [Segment.Ends, hwords] using hends last hlast

theorem describes_begin (h : division.Gives rules call) (hends : division.Ends [word])
    (hstage : call.begin rules word = .ok stage) :
    stage.Describes rules (division.words ++ [word]) := by
  unfold Call.begin at hstage
  cases hcondensed : Call.condensed? rules word with
  | some instruction =>
    rw [hcondensed] at hstage
    cases hstage
    obtain ⟨hopening, hflags⟩ := Call.opening_of_condensed? hcondensed
    let segment : Segment := ⟨instruction.command, [word], instruction.arguments, [], []⟩
    refine ⟨division, segment, h, hends, ⟨hopening, .nil⟩, ?_, rfl⟩
    cases instruction
    cases hflags
    rfl
  | none =>
    rw [hcondensed] at hstage
    cases hcommand : Command.ofWord? word with
    | none => simp [hcommand] at hstage
    | some command =>
      simp only [hcommand] at hstage
      have hword := Command.ofWord?_eq_some_iff.mp hcommand
      exact h.describes_collect hends hword (Nat.zero_le _) hstage

end Division.Gives

theorem Stage.Describes.step {stage next : Stage} {tokens : List String} {word : String}
    (h : stage.Describes rules tokens) (hstep : stage.step rules word = .ok next) :
    next.Describes rules (tokens ++ [word]) := by
  cases stage with
  | start =>
    rw [Describes] at h
    subst h
    unfold Stage.step at hstep
    cases hidentifier : Argument.identifier? word with
    | some target =>
      rw [hidentifier] at hstep
      cases hstep
      obtain ⟨hword, rfl⟩ := Argument.identifier?_eq_some_iff.mp hidentifier
      exact ⟨⟨[word], []⟩, ⟨.execute hword, Segment.wellMade_nil, rfl⟩, rfl, rfl⟩
    | none =>
      simp only [hidentifier] at hstep
      split at hstep
      · next hqueue =>
        cases hstep
        exact ⟨word, Argument.identifier?_eq_none_iff.mp hidentifier, hqueue, rfl⟩
      · split at hstep
        · cases hstep
          trivial
        · cases hstep
  | afterQueueGlyph =>
    obtain ⟨glyph, hother, hqueue, rfl⟩ := h
    unfold Stage.step at hstep
    cases hidentifier : Argument.identifier? word with
    | some target =>
      rw [hidentifier] at hstep
      cases hstep
      obtain ⟨hword, rfl⟩ := Argument.identifier?_eq_some_iff.mp hidentifier
      have haddressee := Addressee.enqueue hother hqueue hword
      exact ⟨⟨[glyph, word], []⟩, ⟨haddressee, Segment.wellMade_nil, rfl⟩, rfl, rfl⟩
    | none => simp [hidentifier] at hstep
  | afterSystemGlyph =>
    unfold Stage.step at hstep
    cases hcommand : SystemCommand.ofWord? word with
    | some command =>
      rw [hcommand] at hstep
      cases hstep
      trivial
    | none => simp [hcommand] at hstep
  | system command => cases hstep
  | addressed call =>
    obtain ⟨division, hgives, hnone, rfl⟩ := h
    refine hgives.describes_begin ?_ hstep
    simp [Division.Ends, hnone]
  | arguments call command given =>
    obtain ⟨division, first, hgives, hends, hfirst, hless, rfl⟩ := h
    rw [List.append_assoc, List.cons_append]
    refine hgives.describes_collect hends hfirst ?_ hstep
    rw [List.length_append]
    exact hless
  | flags call latest =>
    obtain ⟨division, segment, hgives, hends, hspelled, rfl, rfl⟩ := h
    cases hflag : segment.command.flag? word with
    | some flag =>
      have hnext : next = .flags call (segment.instruction.withFlag flag) := by
        have hsame : segment.instruction.command.flag? word = some flag := hflag
        simpa [Stage.step, hsame, eq_comm] using hstep
      subst hnext
      have hmore := hspelled.addFlag (Command.flag?_eq_some_iff.mp hflag)
      refine ⟨division, segment.addFlag word flag, hgives, fun last hlast => ?_, hmore,
        (segment.instruction_addFlag word flag).symm, ?_⟩
      · rw [Segment.Ends, Segment.words_addFlag,
          List.head?_append_of_ne_nil _ hspelled.words_ne_nil]
        exact hends last hlast
      · rw [Segment.words_addFlag, List.append_assoc]
    | none =>
      have hbegin : (call.add segment.instruction).begin rules word = .ok next := by
        have hsame : segment.instruction.command.flag? word = none := hflag
        simpa [Stage.step, hsame] using hstep
      rw [← Division.words_add]
      refine (hgives.add hspelled hends).describes_begin ?_ hbegin
      rw [Division.ends_add]
      rintro _ ⟨⟩
      exact Command.flag?_eq_none_iff.mp hflag

theorem Stage.describes_of_reach {stage : Stage} {tokens : List String}
    (h : Stage.reach rules .start tokens = .ok stage) : stage.Describes rules tokens := by
  induction tokens using List.reverseRecOn generalizing stage with
  | nil =>
    cases h
    rfl
  | append_singleton tokens word ih =>
    obtain ⟨middle, hmiddle, hword⟩ := Stage.reach_append_eq_ok_iff.mp h
    rw [Stage.reach_singleton] at hword
    exact (ih hmiddle).step hword

theorem Command.compatible_iff {commands : List Command} :
    Command.compatible commands = true ↔
      ∃ combination ∈ Command.combinations, commands ⊆ combination := by
  simp only [compatible, List.any_eq_true, List.all_eq_true, List.contains_iff_mem]
  rfl

theorem Call.finish_of_possible {call : Call}
    (h : Possible call.mode (call.instructions.map (·.command))) :
    call.finish = .accepted (.aircraft call.mode call.target call.instructions) := by
  have hsome : (call.instructions.map (·.command)).isEmpty = false := by
    simpa using h.some_given
  have hqueued : ¬ (call.mode = .enqueue ∧ .abort ∈ call.instructions.map (·.command)) :=
    fun hboth => h.abort_not_queued hboth.1 hboth.2
  have htogether : ¬ (1 < (call.instructions.map (·.command)).length ∧
      (!Command.compatible (call.instructions.map (·.command))) = true) := by
    rintro ⟨hmany, hnot⟩
    simp [Command.compatible_iff.mpr (h.together hmany)] at hnot
  simp only [finish, hsome, Bool.false_eq_true, if_false, if_neg hqueued, h.distinct,
    not_true_eq_false, if_neg htogether]

theorem Call.possible_of_finish {call : Call} {transmission : Transmission}
    (h : call.finish = .accepted transmission) :
    transmission = .aircraft call.mode call.target call.instructions ∧
      Possible call.mode (call.instructions.map (·.command)) := by
  simp only [finish] at h
  split at h
  · cases h
  next hsome =>
  split at h
  · cases h
  next hqueued =>
  split at h
  · cases h
  next hdistinct =>
  split at h
  · cases h
  next htogether =>
  cases h
  refine ⟨rfl, ?_, fun hmode hmem => hqueued ⟨hmode, hmem⟩, not_not.mp hdistinct, fun hmany => ?_⟩
  · simpa using hsome
  · rw [← Command.compatible_iff]
    have hlength : 1 < call.instructions.length := by simpa using hmany
    simpa [hlength] using htogether

theorem Division.Gives.unique {first second : Division} {call call' : Call}
    (h : first.Gives rules call) (h' : second.Gives rules call')
    (hwords : first.words = second.words) : first = second := by
  obtain ⟨addressee, segments⟩ := first
  obtain ⟨addressee', segments'⟩ := second
  have haddressee : addressee = addressee' := h.addressee.unique h'.addressee hwords
  subst haddressee
  have hsegments : segments = segments' :=
    h.segments.eq_of_words_eq h'.segments (List.append_cancel_left hwords)
  rw [hsegments]

theorem Stage.outcome_eq_aircraft_iff {tokens : List String} {mode : Mode} {target : String}
    {instructions : List Instruction} :
    Stage.outcome rules .start tokens = .accepted (.aircraft mode target instructions) ↔
      ∃ division : Division, division.words = tokens ∧
        division.Gives rules ⟨mode, target, instructions⟩ ∧
        Possible mode (instructions.map (·.command)) := by
  rw [outcome_eq_accepted_iff]
  constructor
  · rintro ⟨last, hreach, hfinish⟩
    have hdescribes := describes_of_reach hreach
    cases last with
    | start => cases hfinish
    | afterQueueGlyph => cases hfinish
    | afterSystemGlyph => cases hfinish
    | system command => cases hfinish
    | arguments call command given => cases hfinish
    | addressed call =>
      obtain ⟨division, hgives, -, rfl⟩ := hdescribes
      obtain ⟨heq, hpossible⟩ := Call.possible_of_finish hfinish
      cases heq
      exact ⟨division, rfl, hgives, hpossible⟩
    | flags call latest =>
      obtain ⟨division, segment, hgives, hends, hspelled, rfl, rfl⟩ := hdescribes
      obtain ⟨heq, hpossible⟩ := Call.possible_of_finish hfinish
      cases heq
      exact ⟨division.add segment, division.words_add segment, hgives.add hspelled hends,
        hpossible⟩
  · rintro ⟨division, rfl, hgives, hpossible⟩
    obtain ⟨stage, hreach, hfinish, -⟩ := hgives.exists_reach
    exact ⟨stage, hreach, hfinish.trans (Call.finish_of_possible hpossible)⟩

/-- The exact grammar of transmissions to an aircraft: a list of words is accepted if and only if it
can be divided into an addressee and well-made segments whose commands may be given together, and
what is understood is what the division says. A list of words has at most one division. -/
theorem read_eq_accepted_aircraft_iff (rules : ReadingRules) (tokens : List String) (mode : Mode)
    (target : String) (instructions : List Instruction) :
    (((TokenCursor.ofTokens tokens).read rules).1 =
        .accepted (.aircraft mode target instructions) ↔
      ∃ division : Division, division.words = tokens ∧
        division.Gives rules ⟨mode, target, instructions⟩ ∧
        Possible mode (instructions.map (·.command))) ∧
    ∀ (first second : Division) (call call' : Call), first.Gives rules call →
      second.Gives rules call' → first.words = tokens → second.words = tokens →
        first = second := by
  refine ⟨?_, fun first second call call' h h' hfirst hsecond => ?_⟩
  · rw [TokenCursor.fst_read_ofTokens]
    exact Stage.outcome_eq_aircraft_iff
  · exact h.unique h' (hfirst.trans hsecond.symm)

theorem division_of_condensed_heading :
    let heading : Instruction :=
      { command := .heading, arguments := [.number 90], flags := [.longTurn, .expedite] }
    let tokens := [".", "abc1234", "h090", "l", "x", "long"]
    ((TokenCursor.ofTokens tokens).read {}).1 =
        .accepted (.aircraft .enqueue "ABC1234" [heading]) ∧
      ∃ division : Division, division.words = tokens ∧
        division.Gives {} ⟨.enqueue, "ABC1234", [heading]⟩ ∧ Possible .enqueue [.heading] := by
  intro heading tokens
  have hread : ((TokenCursor.ofTokens tokens).read {}).1 =
      .accepted (.aircraft .enqueue "ABC1234" [heading]) := by
    rw [TokenCursor.fst_read_ofTokens]
    decide +kernel
  exact ⟨hread, (read_eq_accepted_aircraft_iff {} tokens .enqueue "ABC1234" [heading]).1.mp hread⟩

end ControlTower
