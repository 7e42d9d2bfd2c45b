import ControlTower.Proofs.Phraseology.Grammar
import ControlTower.Proofs.Text.Ascii

/-!
# The aircraft behind the queue glyph

A transmission is queued when its first token begins with the queue glyph, and the aircraft that it
is queued for is named by the token after that. The glyph is set apart from what is glued to it only
at the very start of a line. It is worked out here for which lines these two rules agree, so that
the aircraft named right behind the glyph is the one that is addressed.

They disagree on a line that begins with a blank and goes on with a word that is glued to the glyph.
Such a word is passed over, whatever it says, and the word after it is taken for the aircraft.
-/

namespace ControlTower

variable {rules : ReadingRules} {line target : String} {instructions : List Instruction}

/-- Without the blanks at its ends, the line is the queue glyph, the target, and the words of the
instructions. Nothing but blanks stands between the glyph and the target, and the case of letters
does not matter. -/
def NamedBehindGlyph (rules : ReadingRules) (line target : String)
    (instructions : List Instruction) : Prop :=
  ∃ (blanks name body : List Char) (segments : List Segment),
    (Text.trim line).toList = rules.glyphs.queue :: (blanks ++ (name ++ body)) ∧
    (∀ c ∈ blanks, Text.isBlank c = true) ∧
    Text.lower (String.ofList name) = Text.lower target ∧
    (∀ c ∈ body.head?, Text.isBlank c = true) ∧
    Segment.WellMade rules segments ∧ segments.map Segment.instruction = instructions ∧
    Text.words (Text.lower (String.ofList body)) = segments.flatMap Segment.words

/-- Glyphs that pass the check are told apart from each other and from the text of commands. -/
theorem ReadingRules.glyphs_of_check (h : rules.check = .ok ()) :
    rules.glyphs.queue ≠ rules.glyphs.system ∧
      ∀ c, rules.glyphs.isControl c = true →
        Text.isAlphanumeric c = false ∧ Text.isBlank c = false := by
  unfold check at h
  split at h
  · cases h
  split at h
  · cases h
  split at h
  · cases h
  next hdifferent =>
  split at h
  · cases h
  next hqueue =>
  split at h
  · cases h
  next hsystem =>
  simp only [inText, Bool.or_eq_true, not_or, Bool.not_eq_true] at hqueue hsystem
  refine ⟨hdifferent, fun c hc => ?_⟩
  simp only [ControlGlyphs.isControl, Bool.or_eq_true, beq_iff_eq] at hc
  rcases hc with rfl | rfl
  · exact hqueue
  · exact hsystem

namespace ControlGlyphs

variable {glyphs : ControlGlyphs} {c : Char}

theorem tokens_eq (glyphs : ControlGlyphs) (line : String) :
    glyphs.tokens line =
      (Text.wordsOf (glyphs.separate line.toList)).map fun word =>
        Text.lower (String.ofList word) := by
  rw [tokens, Text.words_lower, Text.words_eq_map_wordsOf, separated, String.toList_ofList,
    List.map_map]
  rfl

theorem separate_of_not_isControl (h : glyphs.isControl c = false) (rest : List Char) :
    glyphs.separate (c :: rest) = c :: rest := by
  cases rest with
  | nil => rfl
  | cons next rest => simp [separate, h]

theorem wordsOf_separate (h : glyphs.isControl c = true) (hc : Text.isBlank c = false)
    (rest : List Char) :
    Text.wordsOf (glyphs.separate (c :: rest)) = [c] :: Text.wordsOf rest := by
  have hsolid : ∀ d ∈ [c], Text.isBlank d = false := by simpa using hc
  have hne : [c] ≠ [] := List.cons_ne_nil c []
  cases rest with
  | nil => exact Text.wordsOf_of_solid hne hsolid
  | cons next rest =>
    by_cases hnext : Text.isBlank next = true
    · have hkept : glyphs.separate (c :: next :: rest) = [c] ++ next :: rest := by
        simp [separate, hnext]
      rw [hkept]
      exact Text.wordsOf_append_of_apart hne hsolid (by simpa using hnext)
    · have hspace : Text.isBlank ' ' = true := by decide
      have hparted : glyphs.separate (c :: next :: rest) = [c] ++ ' ' :: next :: rest := by
        simp [separate, h, hnext]
      rw [hparted, Text.wordsOf_append_of_apart hne hsolid (by simpa using hspace),
        Text.wordsOf_cons_blank hspace]

/-- A line has no tokens exactly when it has no words: a glyph is told apart from a blank. -/
theorem tokens_eq_nil_iff
    (h : ∀ c, glyphs.isControl c = true → Text.isBlank c = false) {line : String} :
    glyphs.tokens line = [] ↔ ∀ c ∈ line.toList, Text.isBlank c = true := by
  rw [tokens_eq, List.map_eq_nil_iff]
  cases hline : line.toList with
  | nil => simp [separate]
  | cons c rest =>
    by_cases hc : glyphs.isControl c = true
    · simp [wordsOf_separate hc (h c hc), h c hc]
    · rw [separate_of_not_isControl (Bool.eq_false_iff.mpr hc), Text.wordsOf_eq_nil_iff]

end ControlGlyphs

/-- A line says nothing exactly when it has nothing but blanks. -/
theorem ReadingRules.read_eq_empty_iff (h : rules.check = .ok ()) :
    rules.read line = .empty ↔ ∀ c ∈ line.toList, Text.isBlank c = true := by
  rw [read_eq_outcome, Stage.outcome_start_eq_empty_iff, ControlGlyphs.tokens_eq_nil_iff]
  exact fun c hc => ((glyphs_of_check h).2 c hc).2

namespace IsIdentifier

variable {word : String}

theorem not_isBlank (h : IsIdentifier word) : ∀ c ∈ word.toList, Text.isBlank c = false := by
  have hascii : ∀ c : Char, c.toNat < 128 →
      c.isAlpha = true ∨ c.isDigit = true → Text.isBlank c = false :=
    fun c hc => Text.forall_ascii (P := fun c =>
      c.isAlpha = true ∨ c.isDigit = true → Text.isBlank c = false) (by decide +kernel) hc
  have hbelow := h.toNat_lt
  obtain ⟨letters, digits, hword, -, -, hletters, hdigits⟩ := h
  intro c hc
  refine hascii c (hbelow c hc) ?_
  rcases List.mem_append.mp (hword ▸ hc) with hc | hc
  · exact .inl (hletters c hc)
  · exact .inr (hdigits c hc)

/-- An identifier in lower case is what its upper case is in lower case. -/
theorem lower_upper (h : IsIdentifier word) (hlower : ∀ c ∈ word.toList, c.isUpper = false) :
    Text.lower (Text.upper word) = word := by
  have hascii : Text.IsAscii word := h.toNat_lt
  rw [hascii.lower_upper, hascii.lower_eq_self hlower]

end IsIdentifier

theorem Command.not_isSpelled_of_isIdentifier {command : Command} {word : String}
    (h : IsIdentifier word) : command.isSpelled word = false := by
  have hnone : ∀ command ∈ all, ∀ spelling ∈ command.spellings,
      Argument.isIdentifier spelling = false := by
    decide
  apply Bool.eq_false_iff.mpr
  intro hspelled
  have hnot := hnone command (mem_all command) word (List.contains_iff_mem.mp hspelled)
  rw [Argument.isIdentifier_iff.mpr h] at hnot
  cases hnot

/-- No segment begins with a word that could name an aircraft. -/
theorem Segment.Spelled.not_isIdentifier {segment : Segment} (h : segment.Spelled rules)
    {word : String} {others : List String} (hwords : segment.words = word :: others) :
    ¬ IsIdentifier word := by
  intro hword
  have hopening := h.opening
  rw [Segment.words] at hwords
  generalize segment.opening = opening at hwords hopening
  cases hopening with
  | @spelled first given _ spelling enough form =>
    obtain ⟨rfl, -⟩ := List.cons.inj hwords
    have hspelled : segment.command.isSpelled first = true := List.contains_iff_mem.mpr spelling
    rw [Command.not_isSpelled_of_isIdentifier hword] at hspelled
    cases hspelled
  | @condensed letter digits _ stands several decimal form =>
    obtain ⟨rfl, -⟩ := List.cons.inj hwords
    obtain ⟨letters, others', heq, hthree, -, hletters, -⟩ := hword
    rw [String.toList_ofList] at heq
    obtain ⟨a, b, c, rfl⟩ := List.length_eq_three.mp hthree
    have hdigits : digits = b :: c :: others' := (List.cons.inj heq).2
    have hdigit : b.isDigit = true := decimal b (by simp [hdigits])
    have halpha : b.isAlpha = true := hletters b (by simp)
    rw [Text.not_isAlpha_of_isDigit hdigit] at halpha
    cases halpha

theorem ReadingRules.exists_of_read_enqueue
    (h : rules.read line = .accepted (.aircraft .enqueue target instructions)) :
    ∃ (glyph word : String) (segments : List Segment),
      rules.glyphs.tokens line = glyph :: word :: segments.flatMap Segment.words ∧
      glyph.toList.head? = some rules.glyphs.queue ∧ IsIdentifier word ∧
      target = Text.upper word ∧ Segment.WellMade rules segments ∧
      segments.map Segment.instruction = instructions := by
  rw [read_eq_outcome, Stage.outcome_eq_aircraft_iff] at h
  obtain ⟨⟨addressee, segments⟩, hwords, hgives, -⟩ := h
  have haddressee := hgives.addressee
  cases haddressee with
  | @enqueue glyph word other queued identifier =>
    exact ⟨glyph, word, segments, hwords.symm, queued, identifier, rfl, hgives.segments,
      hgives.instructions.symm⟩

/-- What stands behind a word with the glyph: a word that names the target, whatever its case, and
the words of the instructions. -/
structure NamesTarget (rules : ReadingRules) (target : String) (instructions : List Instruction)
    (name : List Char) (others : List (List Char)) (segments : List Segment) : Prop where
  name_eq : Text.lower (String.ofList name) = Text.lower target
  identifier : IsIdentifier (Text.lower target)
  others_eq : (others.map fun word => Text.lower (String.ofList word)) =
    segments.flatMap Segment.words
  wellMade : Segment.WellMade rules segments
  instructions_eq : segments.map Segment.instruction = instructions

/-- The words of a line that is queued, as they stand in the line after the glyph at its start has
been set apart. -/
theorem ReadingRules.exists_words_of_read_enqueue (hcheck : rules.check = .ok ())
    (h : rules.read line = .accepted (.aircraft .enqueue target instructions)) :
    ∃ first name others segments,
      Text.wordsOf (rules.glyphs.separate line.toList) = first :: name :: others ∧
      first.head? = some rules.glyphs.queue ∧
      NamesTarget rules target instructions name others segments := by
  obtain ⟨glyph, word, segments, htokens, hglyph, hword, rfl, hmade, hinstructions⟩ :=
    exists_of_read_enqueue h
  rw [ControlGlyphs.tokens_eq] at htokens
  obtain ⟨first, rest, hwords, rfl, hrest⟩ := List.map_eq_cons_iff.mp htokens
  obtain ⟨name, others, rfl, rfl, hothers⟩ := List.map_eq_cons_iff.mp hrest
  have hqueue := (glyphs_of_check hcheck).2 rules.glyphs.queue (by simp [ControlGlyphs.isControl])
  have hlower : Text.lower (Text.upper (Text.lower (String.ofList name))) =
      Text.lower (String.ofList name) := by
    apply hword.lower_upper
    intro c hc
    rw [Text.lower, String.toList_ofList] at hc
    exact Text.not_isUpper_of_mem_lowerFrom hc
  refine ⟨first, name, others, segments, hwords, ?_, hlower.symm, ?_, hothers, hmade,
    hinstructions⟩
  · rw [Text.lower, String.toList_ofList, String.toList_ofList, List.head?_eq_some_iff] at hglyph
    obtain ⟨tail, htail⟩ := hglyph
    exact Text.head?_of_lowerFrom_eq_cons htail hqueue.1
  · rw [hlower]
    exact hword

section

variable {name : List Char} {others : List (List Char)} {segments : List Segment}

theorem NamesTarget.namedBehindGlyph
    (h : NamesTarget rules target instructions name others segments)
    (hqueue : Text.isBlank rules.glyphs.queue = false) {blanks rest : List Char}
    (hline : line.toList = blanks ++ rules.glyphs.queue :: rest)
    (hblanks : ∀ c ∈ blanks, Text.isBlank c = true)
    (hwords : Text.wordsOf rest = name :: others) :
    NamedBehindGlyph rules line target instructions := by
  have htrim := Text.toList_trim_of_eq hline hblanks hqueue
  rw [← Text.wordsOf_rdropWhile] at hwords
  obtain ⟨between, body, hfirst, hbody⟩ := Text.exists_firstWord hwords
  refine ⟨between, name, body, segments, by rw [htrim, hfirst.eq], hfirst.blank, h.name_eq,
    hfirst.apart, h.wellMade, h.instructions_eq, ?_⟩
  rw [Text.words_lower, Text.words_eq_map_wordsOf, String.toList_ofList, hbody, List.map_map]
  exact h.others_eq

/-- The target is not named behind the glyph when the word with the glyph goes on behind it: this
word names something else, if it names anything. -/
theorem NamesTarget.not_namedBehindGlyph
    (h : NamesTarget rules target instructions name others segments)
    (hqueue : Text.isBlank rules.glyphs.queue = false) {glued : List Char} (hglued : glued ≠ [])
    (hwords : Text.wordsOf line.toList = (rules.glyphs.queue :: glued) :: name :: others) :
    ¬ NamedBehindGlyph rules line target instructions := by
  rintro ⟨blanks, name', body, segments', htrim, hblanks, hname', hbody, hmade, -, hrest⟩
  have hsolid : ∀ c ∈ name', Text.isBlank c = false := by
    intro c hc
    apply Bool.eq_false_iff.mpr
    intro hblank
    have hmem := Text.mem_lowerFrom_of_isBlank hblank hc false
    have hnot := h.identifier.not_isBlank c (by rwa [← hname', Text.lower, String.toList_ofList,
      String.toList_ofList])
    rw [hnot] at hblank
    cases hblank
  rw [← Text.wordsOf_trim, htrim] at hwords
  cases blanks with
  | cons c blanks =>
    have hapart : ∀ d ∈ (c :: blanks ++ (name' ++ body)).head?, Text.isBlank d = true := by
      simpa using hblanks c (by simp)
    have hglyph : ∀ d ∈ [rules.glyphs.queue], Text.isBlank d = false := by simpa using hqueue
    have hfirst := Text.wordsOf_append_of_apart (List.cons_ne_nil _ _) hglyph hapart
    rw [List.singleton_append, hwords] at hfirst
    exact hglued (List.cons.inj (List.cons.inj hfirst).1).2
  | nil =>
    have hword : ∀ d ∈ rules.glyphs.queue :: name', Text.isBlank d = false := by
      simpa [hqueue] using hsolid
    have hfirst := Text.wordsOf_append_of_apart (List.cons_ne_nil _ _) hword hbody
    rw [List.nil_append, ← List.cons_append, hfirst] at hwords
    have hothers : Text.wordsOf body = name :: others := (List.cons.inj hwords).2
    rw [Text.words_lower, Text.words_eq_map_wordsOf, String.toList_ofList, hothers, List.map_cons,
      List.map_cons, h.name_eq] at hrest
    cases segments' with
    | nil => cases hrest
    | cons segment segments' =>
      have hspelled := hmade.of_cons.1
      obtain ⟨word, words, hsegment⟩ := List.exists_cons_of_ne_nil hspelled.words_ne_nil
      rw [List.flatMap_cons, hsegment] at hrest
      obtain ⟨rfl, -⟩ := List.cons.inj hrest
      exact hspelled.not_isIdentifier hsegment h.identifier

end

/-- An aircraft for which a line is queued is the one named behind the queue glyph, with no word
passed over, exactly when the line begins with the glyph or the glyph alone is its first word. -/
theorem namedBehindGlyph_iff (rules : ReadingRules) (line target : String)
    (instructions : List Instruction) (hcheck : rules.check = .ok ())
    (h : rules.read line = .accepted (.aircraft .enqueue target instructions)) :
    NamedBehindGlyph rules line target instructions ↔
      line.toList.head? = some rules.glyphs.queue ∨
        (Text.words line).head? = some (String.ofList [rules.glyphs.queue]) := by
  obtain ⟨first, name, others, segments, hwords, hfirst, hnames⟩ :=
    ReadingRules.exists_words_of_read_enqueue hcheck h
  have hcontrol : rules.glyphs.isControl rules.glyphs.queue = true := by
    simp [ControlGlyphs.isControl]
  have hglyphs := (ReadingRules.glyphs_of_check hcheck).2
  have hqueue := (hglyphs _ hcontrol).2
  cases hline : line.toList with
  | nil =>
    rw [hline] at hwords
    cases hwords
  | cons c rest =>
    by_cases hc : rules.glyphs.isControl c = true
    · rw [hline, ControlGlyphs.wordsOf_separate hc (hglyphs c hc).2] at hwords
      obtain ⟨rfl, hrest⟩ := List.cons.inj hwords
      obtain rfl : c = rules.glyphs.queue := by simpa using hfirst
      have hstart : line.toList = [] ++ rules.glyphs.queue :: rest := hline
      exact iff_of_true (hnames.namedBehindGlyph hqueue hstart (by simp) hrest) (.inl rfl)
    · rw [Bool.not_eq_true] at hc
      rw [hline, ControlGlyphs.separate_of_not_isControl hc, ← hline] at hwords
      obtain ⟨glued, rfl⟩ := List.head?_eq_some_iff.mp hfirst
      by_cases hglued : glued = []
      · subst hglued
        obtain ⟨blanks, after, hword, hafter⟩ := Text.exists_firstWord hwords
        have hnamed := hnames.namedBehindGlyph hqueue hword.eq hword.blank hafter
        refine iff_of_true hnamed (.inr ?_)
        rw [Text.words_eq_map_wordsOf, hwords]
        rfl
      · refine iff_of_false (hnames.not_namedBehindGlyph hqueue hglued hwords) ?_
        rintro (hhead | hhead)
        · obtain rfl : c = rules.glyphs.queue := by simpa using hhead
          rw [hcontrol] at hc
          cases hc
        · rw [Text.words_eq_map_wordsOf, hwords] at hhead
          have hword := String.ofList_injective (Option.some.inj hhead)
          exact hglued (List.cons.inj hword).2

theorem namedBehindGlyph_of_glued :
    ReadingRules.check {} = .ok () ∧
    ReadingRules.read {} ".abc1234 heading 090" = .accepted (.aircraft .enqueue "ABC1234"
      [{ command := .heading, arguments := [.number 90] }]) ∧
    NamedBehindGlyph {} ".abc1234 heading 090" "ABC1234"
      [{ command := .heading, arguments := [.number 90] }] := by
  have hcheck : ReadingRules.check {} = .ok () := by decide +kernel
  have hread : ReadingRules.read {} ".abc1234 heading 090" = .accepted (.aircraft .enqueue "ABC1234"
      [{ command := .heading, arguments := [.number 90] }]) := by
    rw [ReadingRules.read_eq_outcome]
    decide +kernel
  have hstart : ".abc1234 heading 090".toList.head? = some '.' := by decide +kernel
  exact ⟨hcheck, hread, (namedBehindGlyph_iff _ _ _ _ hcheck hread).mpr (.inl hstart)⟩

/-- The same name is passed over when a blank stands before the glyph, and the next word is taken
for the aircraft. -/
theorem not_namedBehindGlyph_of_blank :
    ReadingRules.check {} = .ok () ∧
    ReadingRules.read {} " .abc1234 def5678 heading 090" = .accepted (.aircraft .enqueue "DEF5678"
      [{ command := .heading, arguments := [.number 90] }]) ∧
    ¬ NamedBehindGlyph {} " .abc1234 def5678 heading 090" "DEF5678"
      [{ command := .heading, arguments := [.number 90] }] := by
  have hcheck : ReadingRules.check {} = .ok () := by decide +kernel
  have hread : ReadingRules.read {} " .abc1234 def5678 heading 090" =
      .accepted (.aircraft .enqueue "DEF5678"
        [{ command := .heading, arguments := [.number 90] }]) := by
    rw [ReadingRules.read_eq_outcome]
    decide +kernel
  obtain ⟨first, name, others, segments, hwords, -, hnames⟩ :=
    ReadingRules.exists_words_of_read_enqueue hcheck hread
  have hline : Text.wordsOf (ControlGlyphs.separate {} " .abc1234 def5678 heading 090".toList) =
      ('.' :: "abc1234".toList) :: "def5678".toList :: ["heading".toList, "090".toList] := by
    decide +kernel
  rw [hline] at hwords
  obtain ⟨rfl, hrest⟩ := List.cons.inj hwords
  obtain ⟨rfl, rfl⟩ := List.cons.inj hrest
  exact ⟨hcheck, hread, hnames.not_namedBehindGlyph (by decide) (by decide) hline⟩

end ControlTower
