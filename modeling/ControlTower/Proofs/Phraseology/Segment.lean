import ControlTower.Proofs.Phraseology.Reach
import Mathlib.Data.List.Chain
import Mathlib.Data.List.Forall2

/-!
# The segments of a transmission

What follows the addressee of a transmission falls into segments, one for each instruction. A
segment opens with a spelling of a command and as many words as the command takes arguments, or with
a single condensed word such as `h090`. Spellings of flags of the command end it. This is said here
without reference to the stages of reading, and the stages that the words of a segment lead to are
worked out.
-/

namespace ControlTower

variable {rules : ReadingRules}

namespace Command

def SpellsFlag (command : Command) (word : String) (flag : Flag) : Prop :=
  ∃ spellings, (flag, spellings) ∈ command.flags ∧ word ∈ spellings

theorem flag?_eq_some_iff {command : Command} {word : String} {flag : Flag} :
    command.flag? word = some flag ↔ command.SpellsFlag word flag := by
  constructor
  · intro h
    obtain ⟨entry, hfind, rfl⟩ := Option.map_eq_some_iff.mp h
    refine ⟨entry.2, List.mem_of_find?_eq_some hfind, ?_⟩
    simpa using List.find?_some hfind
  · have distinct : ∀ c ∈ all, ∀ entry ∈ c.flags, ∀ w ∈ entry.2, c.flag? w = some entry.1 := by
      decide
    rintro ⟨spellings, hentry, hword⟩
    exact distinct command (mem_all command) _ hentry _ hword

theorem flag?_eq_none_iff {command : Command} {word : String} :
    command.flag? word = none ↔ ∀ flag, ¬ command.SpellsFlag word flag := by
  simp only [← flag?_eq_some_iff, Option.eq_none_iff_forall_ne_some, ne_eq]

theorem isLower_of_letter?_eq_some {letter : Char} {command : Command}
    (h : command.letter? = some letter) : letter.isLower = true := by
  cases command <;> cases h <;> rfl

/-- No spelling of a command ends with two digits or more behind its first letter. -/
theorem not_digits_of_mem_spellings {command : Command} {word : String} {letter : Char}
    {digits : List Char} (h : word ∈ command.spellings) (hword : word.toList = letter :: digits) :
    ¬ (2 ≤ digits.length ∧ digits.all Char.isDigit = true) := by
  have letters : ∀ c ∈ all, ∀ w ∈ c.spellings,
      ¬ (2 ≤ w.toList.tail.length ∧ w.toList.tail.all Char.isDigit = true) := by decide
  simpa [hword] using letters command (mem_all command) word h

end Command

inductive Opening (rules : ReadingRules) (command : Command) :
    List String → List Argument → Prop where
  /-- A spelling of the command, and behind it a word for each argument. -/
  | spelled {word : String} {given : List String} {arguments : List Argument}
      (spelling : word ∈ command.spellings) (enough : given.length = command.arity)
      (form : command.read? rules given = some arguments) :
      Opening rules command (word :: given) arguments
  /-- The letter of the command, glued to the digits of its argument. -/
  | condensed {letter : Char} {digits : List Char} {arguments : List Argument}
      (stands : command.letter? = some letter) (several : 2 ≤ digits.length)
      (decimal : ∀ c ∈ digits, c.isDigit = true)
      (form : command.read? rules [String.ofList digits] = some arguments) :
      Opening rules command [String.ofList (letter :: digits)] arguments

structure Segment where
  command : Command
  opening : List String
  arguments : List Argument
  flagWords : List String
  /-- What these words mean, one by one. -/
  given : List Flag
deriving DecidableEq

namespace Segment

def words (segment : Segment) : List String := segment.opening ++ segment.flagWords

/-- The instruction that a segment gives. Its flags stand in the order in which they were first
given, and a flag given again adds nothing. -/
def instruction (segment : Segment) : Instruction :=
  { command := segment.command
    arguments := segment.arguments
    flags := segment.given.eraseDups }

structure Spelled (rules : ReadingRules) (segment : Segment) : Prop where
  opening : Opening rules segment.command segment.opening segment.arguments
  flags : List.Forall₂ segment.command.SpellsFlag segment.flagWords segment.given

/-- The words that follow a segment do not go on with one more of its flags. -/
def Ends (segment : Segment) (rest : List String) : Prop :=
  ∀ word ∈ rest.head?, ∀ flag, ¬ segment.command.SpellsFlag word flag

/-- Segments that follow one another are well made when each is spelled out and has taken all the
flags that it can. -/
structure WellMade (rules : ReadingRules) (segments : List Segment) : Prop where
  spelled : ∀ segment ∈ segments, segment.Spelled rules
  greedy : segments.IsChain fun first second => first.Ends second.words

end Segment

namespace Call

theorem exists_collect {command : Command} {given : List String} {arguments : List Argument}
    (call : Call) (taken : List String) (enough : (taken ++ given).length = command.arity)
    (form : command.read? rules (taken ++ given) = some arguments) :
    ∃ stage, call.collect rules command taken = .ok stage ∧
      stage.reach rules given = .ok (.flags call { command, arguments }) := by
  induction given generalizing taken with
  | nil =>
    rw [List.append_nil] at enough form
    refine ⟨.flags call { command, arguments }, ?_, Stage.reach_nil _ _⟩
    simp [collect, enough, form]
  | cons word given ih =>
    have hless : taken.length < command.arity := by
      simp only [List.length_append, List.length_cons] at enough
      omega
    rw [List.append_cons] at enough form
    obtain ⟨stage, hstage, hreach⟩ := ih _ enough form
    have hstep : Stage.step rules (.arguments call command taken) word = .ok stage := hstage
    refine ⟨.arguments call command taken, by simp [collect, hless], ?_⟩
    rw [Stage.reach_cons_of_ok hstep, hreach]

/-- What is collected is either still too little, or enough and of the right form. -/
theorem collect_eq_ok {command : Command} {given : List String} {call : Call} {stage : Stage}
    (most : given.length ≤ command.arity) (h : call.collect rules command given = .ok stage) :
    (stage = .arguments call command given ∧ given.length < command.arity) ∨
      ∃ arguments, stage = .flags call { command, arguments } ∧
        given.length = command.arity ∧ command.read? rules given = some arguments := by
  unfold collect at h
  split at h
  · next hless =>
    cases h
    exact .inl ⟨rfl, hless⟩
  · next hless =>
    cases hread : command.read? rules given with
    | none => simp [hread] at h
    | some arguments =>
      rw [hread] at h
      cases h
      exact .inr ⟨arguments, rfl, by omega, rfl⟩

theorem opening_of_condensed? {word : String} {instruction : Instruction}
    (h : condensed? rules word = some instruction) :
    Opening rules instruction.command [word] instruction.arguments ∧ instruction.flags = [] := by
  unfold condensed? at h
  split at h
  · cases h
  · next letter digits hword =>
    split at h
    · next hform =>
      simp only [Bool.and_eq_true, decide_eq_true_eq, List.all_eq_true] at hform
      obtain ⟨⟨-, several⟩, decimal⟩ := hform
      obtain ⟨command, hletter, h⟩ := Option.bind_eq_some_iff.mp h
      obtain ⟨arguments, form, h⟩ := Option.bind_eq_some_iff.mp h
      cases h
      refine ⟨?_, rfl⟩
      rw [← String.ofList_toList (s := word), hword]
      exact .condensed (Command.ofLetter?_eq_some_iff.mp hletter) several decimal form
    · cases h

theorem condensed?_of_mem_spellings {command : Command} {word : String}
    (h : word ∈ command.spellings) : condensed? rules word = none := by
  unfold condensed?
  split
  · rfl
  · next letter digits hword =>
    have hdigits := Command.not_digits_of_mem_spellings h hword
    split
    · next hform =>
      simp only [Bool.and_eq_true, decide_eq_true_eq] at hform
      exact absurd ⟨hform.1.2, hform.2⟩ hdigits
    · rfl

end Call

theorem Opening.exists_begin {command : Command} {words : List String} {arguments : List Argument}
    (h : Opening rules command words arguments) (call : Call) :
    ∃ word given, words = word :: given ∧ ∃ stage, call.begin rules word = .ok stage ∧
      stage.reach rules given = .ok (.flags call { command, arguments }) := by
  cases h with
  | @spelled word given _ spelling enough form =>
    refine ⟨word, given, rfl, ?_⟩
    obtain ⟨stage, hstage, hreach⟩ := call.exists_collect [] enough form
    refine ⟨stage, ?_, hreach⟩
    rw [Call.begin, Call.condensed?_of_mem_spellings spelling]
    simpa only [Command.ofWord?_eq_some_iff.mpr spelling] using hstage
  | @condensed letter digits _ stands several decimal form =>
    refine ⟨_, [], rfl, _, ?_, Stage.reach_nil _ _⟩
    have hread : Call.condensed? rules (String.ofList (letter :: digits)) =
        some { command, arguments } := by
      have hform : letter.isLower && 2 ≤ digits.length && digits.all Char.isDigit := by
        simpa [Command.isLower_of_letter?_eq_some stands, several] using decimal
      simp [Call.condensed?, hform, Command.ofLetter?_eq_some_iff.mpr stands, form]
    simp only [Call.begin, hread]

theorem Instruction.withFlag_eraseDups (command : Command) (arguments : List Argument)
    (given : List Flag) (flag : Flag) :
    Instruction.withFlag { command, arguments, flags := given.eraseDups } flag =
      { command, arguments, flags := (given ++ [flag]).eraseDups } := by
  rw [List.eraseDups_append]
  by_cases hflag : flag ∈ given <;>
    simp [withFlag, List.mem_eraseDups, List.removeAll, List.eraseDups_cons, hflag]

theorem Stage.reach_flags {command : Command} {words : List String} {more : List Flag}
    (h : List.Forall₂ command.SpellsFlag words more) (call : Call) (arguments : List Argument)
    (given : List Flag) :
    Stage.reach rules (.flags call { command, arguments, flags := given.eraseDups }) words =
      .ok (.flags call { command, arguments, flags := (given ++ more).eraseDups }) := by
  induction h generalizing given with
  | nil => rw [List.append_nil, reach_nil]
  | @cons word flag words more hword _ ih =>
    have hstep : Stage.step rules (.flags call { command, arguments, flags := given.eraseDups })
        word = .ok (.flags call { command, arguments, flags := (given ++ [flag]).eraseDups }) := by
      simp only [Stage.step, Command.flag?_eq_some_iff.mpr hword, Instruction.withFlag_eraseDups]
    rw [reach_cons_of_ok hstep, ih, ← List.append_cons]

namespace Segment

theorem Spelled.exists_begin {segment : Segment} (h : segment.Spelled rules) (call : Call) :
    ∃ word given, segment.words = word :: given ∧ ∃ stage, call.begin rules word = .ok stage ∧
      stage.reach rules given = .ok (.flags call segment.instruction) := by
  obtain ⟨word, given, hopening, stage, hstage, hreach⟩ := h.opening.exists_begin call
  refine ⟨word, given ++ segment.flagWords, ?_, stage, hstage, ?_⟩
  · rw [words, hopening, List.cons_append]
  · rw [Stage.reach_append_of_ok hreach]
    exact Stage.reach_flags h.flags call segment.arguments []

theorem Spelled.words_ne_nil {segment : Segment} (h : segment.Spelled rules) :
    segment.words ≠ [] := by
  obtain ⟨word, given, hwords, -⟩ := h.exists_begin ⟨.execute, "", []⟩
  rw [hwords]
  exact List.cons_ne_nil word given

theorem wellMade_nil : WellMade rules [] := ⟨by simp, .nil⟩

theorem WellMade.of_cons {segment : Segment} {segments : List Segment}
    (h : WellMade rules (segment :: segments)) :
    segment.Spelled rules ∧ segment.Ends (segments.flatMap words) ∧ WellMade rules segments := by
  have hchain := List.isChain_cons.mp h.greedy
  refine ⟨h.spelled segment (by simp), ?_, fun s hs => h.spelled s (by simp [hs]), hchain.2⟩
  cases segments with
  | nil => simp [Ends]
  | cons next segments =>
    have hends : segment.Ends next.words := hchain.1 next rfl
    have hne := (h.spelled next (by simp)).words_ne_nil
    rw [Ends, List.flatMap_cons, List.head?_append_of_ne_nil _ hne]
    exact hends

/-- A segment can be put behind well-made segments of which the last leaves its first word over. -/
theorem wellMade_append_singleton {segment : Segment} {segments : List Segment} :
    WellMade rules (segments ++ [segment]) ↔
      WellMade rules segments ∧ segment.Spelled rules ∧
        ∀ last ∈ segments.getLast?, last.Ends segment.words := by
  constructor
  · intro h
    have hchain := List.isChain_append.mp h.greedy
    refine ⟨⟨fun s hs => h.spelled s (by simp [hs]), hchain.1⟩, h.spelled segment (by simp), ?_⟩
    exact fun last hlast => hchain.2.2 last hlast segment rfl
  · rintro ⟨h, hspelled, hends⟩
    refine ⟨?_, List.isChain_append.mpr ⟨h.greedy, .singleton _, ?_⟩⟩
    · intro s hs
      rcases List.mem_append.mp hs with hs | hs
      · exact h.spelled s hs
      · exact List.mem_singleton.mp hs ▸ hspelled
    · rintro last hlast _ ⟨⟩
      exact hends last hlast

end Segment

theorem Opening.eq_of_append {first second : Command} {words words' rest rest' : List String}
    {arguments arguments' : List Argument} (h : Opening rules first words arguments)
    (h' : Opening rules second words' arguments') (heq : words ++ rest = words' ++ rest') :
    first = second ∧ words = words' ∧ arguments = arguments' := by
  cases h with
  | spelled spelling enough form =>
    cases h' with
    | spelled spelling' enough' form' =>
      obtain ⟨rfl, hgiven⟩ := List.cons.inj heq
      have hcommand : some first = some second :=
        (Command.ofWord?_eq_some_iff.mpr spelling).symm.trans
          (Command.ofWord?_eq_some_iff.mpr spelling')
      obtain rfl := Option.some.inj hcommand
      obtain ⟨rfl, -⟩ := List.append_inj hgiven (enough.trans enough'.symm)
      exact ⟨rfl, rfl, Option.some.inj (form.symm.trans form')⟩
    | condensed _ several decimal _ =>
      obtain ⟨rfl, -⟩ := List.cons.inj heq
      have hno := Command.not_digits_of_mem_spellings spelling String.toList_ofList
      exact absurd ⟨several, List.all_eq_true.mpr decimal⟩ hno
  | condensed stands several decimal form =>
    cases h' with
    | spelled spelling' _ _ =>
      obtain ⟨rfl, -⟩ := List.cons.inj heq
      have hno := Command.not_digits_of_mem_spellings spelling' String.toList_ofList
      exact absurd ⟨several, List.all_eq_true.mpr decimal⟩ hno
    | condensed stands' _ _ form' =>
      obtain ⟨hword, -⟩ := List.cons.inj heq
      obtain ⟨rfl, rfl⟩ := List.cons.inj (String.ofList_injective hword)
      have hcommand : some first = some second :=
        (Command.ofLetter?_eq_some_iff.mpr stands).symm.trans
          (Command.ofLetter?_eq_some_iff.mpr stands')
      obtain rfl := Option.some.inj hcommand
      exact ⟨rfl, rfl, Option.some.inj (form.symm.trans form')⟩

namespace Segment

theorem map_flag?_of_spellsFlag {command : Command} {flagWords : List String} {given : List Flag}
    (h : List.Forall₂ command.SpellsFlag flagWords given) :
    flagWords.map command.flag? = given.map some := by
  induction h with
  | nil => rfl
  | cons hflag _ ih => rw [List.map_cons, List.map_cons, ih, Command.flag?_eq_some_iff.mpr hflag]

/-- The flags of a segment are all the words behind its opening that spell flags of its command. -/
theorem Spelled.takeWhile_flagWords {segment : Segment} (h : segment.Spelled rules)
    {rest : List String} (hrest : segment.Ends rest) :
    (segment.flagWords ++ rest).takeWhile (fun word => (segment.command.flag? word).isSome) =
      segment.flagWords := by
  have hflags : ∀ word ∈ segment.flagWords, (segment.command.flag? word).isSome = true := by
    intro word hword
    have hmem := List.mem_map_of_mem (f := segment.command.flag?) hword
    rw [map_flag?_of_spellsFlag h.flags] at hmem
    obtain ⟨flag, -, hflag⟩ := List.mem_map.mp hmem
    simp [← hflag]
  rw [List.takeWhile_append_of_pos hflags]
  cases rest with
  | nil => simp
  | cons word rest => simp [Command.flag?_eq_none_iff.mpr (hrest word rfl)]

theorem Spelled.eq_of_append {first second : Segment} (h : first.Spelled rules)
    (h' : second.Spelled rules) {rest rest' : List String} (hrest : first.Ends rest)
    (hrest' : second.Ends rest') (heq : first.words ++ rest = second.words ++ rest') :
    first = second ∧ rest = rest' := by
  rw [words, words, List.append_assoc, List.append_assoc] at heq
  obtain ⟨hcommand, hopening, harguments⟩ := h.opening.eq_of_append h'.opening heq
  have hbehind : first.flagWords ++ rest = second.flagWords ++ rest' := by
    rw [hopening] at heq
    exact List.append_cancel_left heq
  have hflagWords : first.flagWords = second.flagWords := by
    rw [← h.takeWhile_flagWords hrest, ← h'.takeWhile_flagWords hrest', hbehind, hcommand]
  have hgiven : first.given = second.given := by
    apply List.map_injective_iff.mpr fun _ _ => Option.some.inj
    rw [← map_flag?_of_spellsFlag h.flags, ← map_flag?_of_spellsFlag h'.flags, hflagWords,
      hcommand]
  constructor
  · cases first
    cases second
    simp only at hcommand hopening harguments hflagWords hgiven
    simp [hcommand, hopening, harguments, hflagWords, hgiven]
  · rw [hflagWords] at hbehind
    exact List.append_cancel_left hbehind

theorem WellMade.eq_of_words_eq {first second : List Segment} (h : WellMade rules first)
    (h' : WellMade rules second) (heq : first.flatMap words = second.flatMap words) :
    first = second := by
  induction first generalizing second with
  | nil =>
    cases second with
    | nil => rfl
    | cons segment segments =>
      rw [List.flatMap_nil, List.flatMap_cons, eq_comm, List.append_eq_nil_iff] at heq
      exact absurd heq.1 h'.of_cons.1.words_ne_nil
  | cons segment segments ih =>
    cases second with
    | nil =>
      rw [List.flatMap_nil, List.flatMap_cons, List.append_eq_nil_iff] at heq
      exact absurd heq.1 h.of_cons.1.words_ne_nil
    | cons segment' segments' =>
      obtain ⟨hspelled, hends, hrest⟩ := h.of_cons
      obtain ⟨hspelled', hends', hrest'⟩ := h'.of_cons
      rw [List.flatMap_cons, List.flatMap_cons] at heq
      obtain ⟨rfl, hwords⟩ := hspelled.eq_of_append hspelled' hends hends' heq
      rw [ih hrest hrest' hwords]

end Segment

end ControlTower
