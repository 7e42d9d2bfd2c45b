import ControlTower.Proofs.Phraseology.Addressing
import Mathlib.Logic.Relation

/-!
# Case and spacing

A line can be typed in many ways without saying anything else: in capitals or in small letters, with
any blanks between its words and behind them, and with or without blanks behind a control glyph at
its start. All of these have the same tokens, and so they are read alike, down to the text of an
error.

The glyph is set apart before the case is changed, and the words are told apart after that. The case
of a character may depend on those around it, and a glyph might have been a part of a word. That
neither does harm is due to what the tables say of blanks, of ASCII letters, and of the characters
that may be glyphs.
-/

namespace ControlTower

variable {rules : ReadingRules} {glyphs : ControlGlyphs}

inductive ControlGlyphs.Retyped (glyphs : ControlGlyphs) : List Char → List Char → Prop where
  /-- Some ASCII letters are typed in the other case. -/
  | recased {line other : List Char}
      (case_eq : List.Forall₂ (fun c d => c.toLower = d.toLower) line other) :
      Retyped glyphs line other
  /-- Other blanks are typed between words, or more or fewer of them. -/
  | respaced (before after : List Char) {blanks others : List Char}
      (some_blank : blanks ≠ []) (blank : ∀ c ∈ blanks, Text.isBlank c = true)
      (some_other : others ≠ []) (other_blank : ∀ c ∈ others, Text.isBlank c = true) :
      Retyped glyphs (before ++ blanks ++ after) (before ++ others ++ after)
  /-- Blanks are typed at the end. -/
  | extended (line : List Char) {blanks : List Char}
      (blank : ∀ c ∈ blanks, Text.isBlank c = true) : Retyped glyphs line (line ++ blanks)
  /-- Blanks are typed behind a glyph at the start. -/
  | parted {glyph : Char} (control : glyphs.isControl glyph = true) (rest : List Char)
      {blanks : List Char} (blank : ∀ c ∈ blanks, Text.isBlank c = true) :
      Retyped glyphs (glyph :: rest) (glyph :: (blanks ++ rest))

namespace Text

variable {c d : Char} {text other : List Char}

theorem eq_or_isAlpha_of_toLower_eq (h : c.toLower = d.toLower) :
    c = d ∨ c.isAlpha = true ∧ d.isAlpha = true := by
  have hletter : ∀ e : Char, e.toLower.isAlpha = e.isAlpha := by
    intro e
    cases he : e.isAlpha with
    | false => rw [toLower_of_not_isAlpha he, he]
    | true =>
      exact forall_ascii (P := fun e => e.isAlpha = true → e.toLower.isAlpha = true)
        (by decide +kernel) (toNat_lt_of_isAlpha he) he
  have halpha : c.isAlpha = d.isAlpha := by rw [← hletter c, h, hletter d]
  cases hc : c.isAlpha with
  | true => exact .inr ⟨rfl, halpha.symm.trans hc⟩
  | false =>
    left
    rwa [toLower_of_not_isAlpha hc, toLower_of_not_isAlpha (halpha.symm.trans hc)] at h

/-- What is the same for all ASCII letters does not depend on their case. -/
theorem eq_of_toLower_eq {α : Type} {f : Char → α} {a : α} (hf : ∀ e, e.isAlpha = true → f e = a)
    (h : c.toLower = d.toLower) : f c = f d := by
  rcases eq_or_isAlpha_of_toLower_eq h with rfl | ⟨hc, hd⟩
  · rfl
  · rw [hf c hc, hf d hd]

theorem isCased_of_isAlpha (h : c.isAlpha = true) : isCased c = true :=
  forall_ascii (P := fun c => c.isAlpha = true → isCased c = true) (by decide +kernel)
    (toNat_lt_of_isAlpha h) h

theorem not_isCaseIgnorable_of_isAlpha (h : c.isAlpha = true) : isCaseIgnorable c = false := by
  have hletter : Ranges.has [(0x41, 0x5A), (0x61, 0x7A)] c = true :=
    forall_ascii (P := fun c => c.isAlpha = true → Ranges.has [(0x41, 0x5A), (0x61, 0x7A)] c = true)
      (by decide +kernel) (toNat_lt_of_isAlpha h) h
  exact Ranges.not_has_of_disjoint (by decide +kernel) hletter

theorem isAlphanumeric_of_isAlpha (h : c.isAlpha = true) : isAlphanumeric c = true :=
  forall_ascii (P := fun c => c.isAlpha = true → isAlphanumeric c = true) (by decide +kernel)
    (toNat_lt_of_isAlpha h) h

theorem not_isBlank_of_isAlpha (h : c.isAlpha = true) : isBlank c = false := by
  apply Bool.eq_false_iff.mpr
  intro hblank
  have hnot := not_isAlphanumeric_of_isBlank hblank
  rw [isAlphanumeric_of_isAlpha h] at hnot
  cases hnot

theorem startsCased_eq_of_toLower_eq
    (h : List.Forall₂ (fun c d => c.toLower = d.toLower) text other) :
    startsCased text = startsCased other := by
  induction h with
  | nil => rfl
  | @cons c d text other hcd _ ih =>
    have hignorable : isCaseIgnorable c = isCaseIgnorable d :=
      eq_of_toLower_eq (fun _ => not_isCaseIgnorable_of_isAlpha) hcd
    by_cases hc : isCaseIgnorable c = true
    · simpa [startsCased, hc, ← hignorable] using ih
    · have hcased : isCased c = isCased d := eq_of_toLower_eq (fun _ => isCased_of_isAlpha) hcd
      simp [startsCased, hc, ← hignorable, hcased]

/-- The lower case of a text does not depend on the case of its ASCII letters. -/
theorem lowerFrom_eq_of_toLower_eq
    (h : List.Forall₂ (fun c d => c.toLower = d.toLower) text other) (casedBefore : Bool) :
    lowerFrom casedBefore text = lowerFrom casedBefore other := by
  induction h generalizing casedBefore with
  | nil => rfl
  | @cons c d text other hcd hrest ih =>
    have hignorable : isCaseIgnorable c = isCaseIgnorable d :=
      eq_of_toLower_eq (fun _ => not_isCaseIgnorable_of_isAlpha) hcd
    have hcased : isCased c = isCased d := eq_of_toLower_eq (fun _ => isCased_of_isAlpha) hcd
    have hbetween : lowerBetween casedBefore c text = lowerBetween casedBefore d other := by
      rw [lowerBetween, lowerBetween, startsCased_eq_of_toLower_eq hrest]
      rcases eq_or_isAlpha_of_toLower_eq hcd with rfl | ⟨hc, hd⟩
      · rfl
      · have hsigma : ∀ e : Char, e.isAlpha = true → e ≠ 'Σ' := by
          rintro e he rfl
          revert he
          decide
        rw [if_neg (hsigma c hc), if_neg (hsigma d hd),
          lowerChar_of_ascii (toNat_lt_of_isAlpha hc), lowerChar_of_ascii (toNat_lt_of_isAlpha hd),
          hcd]
    rw [lowerFrom, lowerFrom, hbetween, hignorable, hcased, ih]

theorem wordsOf_append_blanks {blanks : List Char} (hne : blanks ≠ [])
    (h : ∀ c ∈ blanks, isBlank c = true) (before after : List Char) :
    wordsOf (before ++ (blanks ++ after)) = wordsOf before ++ wordsOf after := by
  obtain ⟨c, others, rfl⟩ := List.exists_cons_of_ne_nil hne
  obtain ⟨hc, hothers⟩ := List.forall_mem_cons.mp h
  rw [List.cons_append, wordsOf_append_blank hc, wordsOf_append_of_blank hothers]

theorem wordsOf_append_of_all_blank {blanks : List Char} (h : ∀ c ∈ blanks, isBlank c = true)
    (before : List Char) : wordsOf (before ++ blanks) = wordsOf before := by
  by_cases hne : blanks = []
  · rw [hne, List.append_nil]
  · simpa using wordsOf_append_blanks hne h before []

end Text

namespace ControlGlyphs

/-- Neither glyph is a letter, a number or a blank. -/
def Apart (glyphs : ControlGlyphs) : Prop :=
  ∀ c, glyphs.isControl c = true → Text.isAlphanumeric c = false ∧ Text.isBlank c = false

theorem Apart.not_isControl_of_isBlank (h : glyphs.Apart) {c : Char}
    (hc : Text.isBlank c = true) : glyphs.isControl c = false := by
  apply Bool.eq_false_iff.mpr
  intro hcontrol
  rw [(h c hcontrol).2] at hc
  cases hc

theorem Apart.not_isControl_of_isAlpha (h : glyphs.Apart) {c : Char}
    (hc : c.isAlpha = true) : glyphs.isControl c = false := by
  apply Bool.eq_false_iff.mpr
  intro hcontrol
  have halpha := Text.isAlphanumeric_of_isAlpha hc
  rw [(h c hcontrol).1] at halpha
  cases halpha

theorem Apart.lower_glyph (h : glyphs.Apart) {c : Char} (hc : glyphs.isControl c = true) :
    Text.lower (String.ofList [c]) = String.ofList [c] := by
  rw [Text.lower, String.toList_ofList, Text.lowerFrom,
    Text.lowerBetween_of_not_isAlphanumeric (h c hc).1]
  rfl

theorem separate_of_head? {line : List Char} (h : ∀ c ∈ line.head?, glyphs.isControl c = false) :
    glyphs.separate line = line := by
  cases line with
  | nil => rfl
  | cons c rest => exact separate_of_not_isControl (h c rfl) rest

/-- What follows the first character may be replaced by anything that has the same words wherever it
stands. -/
theorem Apart.wordsOf_separate_congr (h : glyphs.Apart) {first second : List Char}
    (hfirst : ∀ c ∈ first.head?, Text.isBlank c = true)
    (hsecond : ∀ c ∈ second.head?, Text.isBlank c = true)
    (hwords : ∀ before, Text.wordsOf (before ++ first) = Text.wordsOf (before ++ second))
    (before : List Char) :
    Text.wordsOf (glyphs.separate (before ++ first)) =
      Text.wordsOf (glyphs.separate (before ++ second)) := by
  cases before with
  | nil =>
    rw [List.nil_append, List.nil_append,
      separate_of_head? fun c hc => h.not_isControl_of_isBlank (hfirst c hc),
      separate_of_head? fun c hc => h.not_isControl_of_isBlank (hsecond c hc)]
    exact hwords []
  | cons c rest =>
    rw [List.cons_append, List.cons_append]
    by_cases hc : glyphs.isControl c = true
    · rw [wordsOf_separate hc (h c hc).2, wordsOf_separate hc (h c hc).2, hwords]
    · rw [Bool.not_eq_true] at hc
      rw [separate_of_not_isControl hc, separate_of_not_isControl hc]
      exact hwords (c :: rest)

theorem Apart.separate_recased (h : glyphs.Apart) {line other : List Char}
    (hcase : List.Forall₂ (fun c d => c.toLower = d.toLower) line other) :
    List.Forall₂ (fun c d => c.toLower = d.toLower) (glyphs.separate line)
      (glyphs.separate other) := by
  cases hcase with
  | nil => exact .nil
  | @cons c d line other hcd hrest =>
    cases hrest with
    | nil => exact .cons hcd .nil
    | @cons c' d' line other hcd' hrest =>
      have hcontrol : glyphs.isControl c = glyphs.isControl d :=
        Text.eq_of_toLower_eq (fun _ => h.not_isControl_of_isAlpha) hcd
      have hblank : Text.isBlank c' = Text.isBlank d' :=
        Text.eq_of_toLower_eq (fun _ => Text.not_isBlank_of_isAlpha) hcd'
      rw [separate, separate, hcontrol, hblank]
      split
      · exact .cons hcd (.cons rfl (.cons hcd' hrest))
      · exact .cons hcd (.cons hcd' hrest)

theorem Apart.tokens_eq_of_retyped (h : glyphs.Apart) {line other : List Char}
    (hretyped : glyphs.Retyped line other) :
    glyphs.tokens (String.ofList line) = glyphs.tokens (String.ofList other) := by
  cases hretyped with
  | recased case_eq =>
    have hlower := Text.lowerFrom_eq_of_toLower_eq (h.separate_recased case_eq) false
    simp only [tokens, separated, Text.lower, String.toList_ofList, hlower]
  | @respaced before after blanks others some_blank blank some_other other_blank =>
    have hwords : Text.wordsOf (glyphs.separate (before ++ (blanks ++ after))) =
        Text.wordsOf (glyphs.separate (before ++ (others ++ after))) := by
      refine h.wordsOf_separate_congr ?_ ?_ (fun before => ?_) before
      · rw [List.head?_append_of_ne_nil _ some_blank]
        exact fun c hc => blank c (List.mem_of_mem_head? hc)
      · rw [List.head?_append_of_ne_nil _ some_other]
        exact fun c hc => other_blank c (List.mem_of_mem_head? hc)
      · rw [Text.wordsOf_append_blanks some_blank blank,
          Text.wordsOf_append_blanks some_other other_blank]
    rw [tokens_eq, tokens_eq, String.toList_ofList, String.toList_ofList, List.append_assoc,
      List.append_assoc, hwords]
  | @extended _ blanks blank =>
    have hwords : Text.wordsOf (glyphs.separate (line ++ [])) =
        Text.wordsOf (glyphs.separate (line ++ blanks)) := by
      refine h.wordsOf_separate_congr (by simp) ?_ (fun before => ?_) line
      · exact fun c hc => blank c (List.mem_of_mem_head? hc)
      · rw [Text.wordsOf_append_of_all_blank blank, List.append_nil]
    rw [List.append_nil] at hwords
    rw [tokens_eq, tokens_eq, String.toList_ofList, String.toList_ofList, hwords]
  | @parted glyph control rest blanks blank =>
    rw [tokens_eq, tokens_eq, String.toList_ofList, String.toList_ofList,
      wordsOf_separate control (h glyph control).2, wordsOf_separate control (h glyph control).2,
      Text.wordsOf_append_of_blank blank]

theorem Apart.tokens_eq_of_eqvGen (h : glyphs.Apart) {line other : List Char}
    (hretyped : Relation.EqvGen glyphs.Retyped line other) :
    glyphs.tokens (String.ofList line) = glyphs.tokens (String.ofList other) := by
  induction hretyped with
  | rel line other hretyped => exact h.tokens_eq_of_retyped hretyped
  | refl line => rfl
  | symm line other _ ih => exact ih.symm
  | trans line middle other _ _ ih ih' => exact ih.trans ih'

/-- A glyph at the start of a line is a token of its own. -/
theorem Apart.tokens_cons (h : glyphs.Apart) {glyph : Char} (hglyph : glyphs.isControl glyph = true)
    (rest : List Char) :
    glyphs.tokens (String.ofList (glyph :: rest)) =
      String.ofList [glyph] :: Text.words (Text.lower (String.ofList rest)) := by
  rw [tokens_eq, String.toList_ofList, wordsOf_separate hglyph (h glyph hglyph).2, List.map_cons,
    h.lower_glyph hglyph, Text.words_lower, Text.words_eq_map_wordsOf, String.toList_ofList,
    List.map_map]
  rfl

end ControlGlyphs

/-- Case and spacing do not matter. By rules that pass their check a line is read as any other that
differs from it in the case of ASCII letters, in the blanks between its words, in the blanks at its
end, or in the blanks behind a glyph at its start. A glyph at the start of a line is always a token
of its own. -/
theorem read_eq_of_retyped (rules : ReadingRules) (check : rules.check = .ok ()) :
    (∀ line other : String, Relation.EqvGen rules.glyphs.Retyped line.toList other.toList →
      rules.read line = rules.read other) ∧
    ∀ (line : String) (glyph : Char) (rest : List Char), line.toList = glyph :: rest →
      rules.glyphs.isControl glyph = true →
      rules.glyphs.tokens line =
        String.ofList [glyph] :: Text.words (Text.lower (String.ofList rest)) := by
  have hapart : rules.glyphs.Apart := (ReadingRules.glyphs_of_check check).2
  constructor
  · intro line other hretyped
    have htokens := hapart.tokens_eq_of_eqvGen hretyped
    rw [String.ofList_toList, String.ofList_toList] at htokens
    rw [ReadingRules.read_eq_outcome, ReadingRules.read_eq_outcome, htokens]
  · intro line glyph rest hline hglyph
    have htokens := hapart.tokens_cons hglyph rest
    rwa [← hline, String.ofList_toList] at htokens

/-- A word in Greek is no command however the line is typed, and the error quotes it alike: in lower
case its last letter has the form that ends a word. -/
theorem read_eq_of_retyped_greek :
    let line := ".abc1234 ΟΔΟΣ"
    let other := ". ABC1234\u3000ΟΔΟΣ\n"
    ReadingRules.check {} = .ok () ∧
      Relation.EqvGen (ControlGlyphs.Retyped {}) line.toList other.toList ∧
      ReadingRules.read {} line = .rejected (.notCommand "ΟΔΟΣ") ∧
      ReadingRules.read {} other = .rejected (.notCommand "ΟΔΟΣ") ∧
      ControlGlyphs.tokens {} other = "." :: Text.words (Text.lower " ABC1234\u3000ΟΔΟΣ\n") := by
  intro line other
  have hcheck : ReadingRules.check {} = .ok () := by decide +kernel
  have hread : ReadingRules.read {} line = .rejected (.notCommand "ΟΔΟΣ") := by
    rw [ReadingRules.read_eq_outcome]
    decide +kernel
  let retyped := ControlGlyphs.Retyped {}
  let named := ". ABC1234".toList
  let word := "ΟΔΟΣ".toList
  have blank : ∀ c, Text.isBlank c = true → ∀ d ∈ [c], Text.isBlank d = true :=
    fun c hc => List.forall_mem_singleton.mpr hc
  have hparted : retyped ('.' :: "abc1234 ΟΔΟΣ".toList) ('.' :: ([' '] ++ "abc1234 ΟΔΟΣ".toList)) :=
    .parted rfl _ (blank ' ' rfl)
  have hrecased : retyped ('.' :: ([' '] ++ "abc1234 ΟΔΟΣ".toList)) (named ++ [' '] ++ word) :=
    .recased (by decide +kernel)
  have hrespaced : retyped (named ++ [' '] ++ word) (named ++ ['\u3000'] ++ word) :=
    .respaced _ _ (by simp) (blank ' ' rfl) (by simp) (blank '\u3000' rfl)
  have hextended : retyped (named ++ ['\u3000'] ++ word) (named ++ ['\u3000'] ++ word ++ ['\n']) :=
    .extended _ (blank '\n' rfl)
  have hline : line.toList = '.' :: "abc1234 ΟΔΟΣ".toList := by decide +kernel
  have hother : other.toList = named ++ ['\u3000'] ++ word ++ ['\n'] := by decide +kernel
  have hretyped : Relation.EqvGen retyped line.toList other.toList := by
    rw [hline, hother]
    exact .trans _ _ _ (.rel _ _ hparted) <| .trans _ _ _ (.rel _ _ hrecased) <|
      .trans _ _ _ (.rel _ _ hrespaced) (.rel _ _ hextended)
  have hsame := read_eq_of_retyped {} hcheck
  refine ⟨hcheck, hretyped, hread, ?_, ?_⟩
  · rw [← hsame.1 line other hretyped, hread]
  · exact hsame.2 other '.' " ABC1234\u3000ΟΔΟΣ\n".toList (by decide +kernel) (by decide)

end ControlTower
