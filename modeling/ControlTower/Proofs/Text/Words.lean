import ControlTower.Proofs.Text.Case
import Mathlib.Data.List.DropRight

/-!
# Words, trimming and lower case

A text falls into blanks, its first word and what follows, and what follows begins with a blank
unless it is empty. All that is needed about words is proved along this division. The main result is
that lower case is taken word by word: the blanks stay, and although a capital sigma looks to both
sides, it does not look past a blank.
-/

namespace ControlTower.Text

def wordsOf (text : List Char) : List (List Char) :=
  (text.splitOnP isBlank).filter (!·.isEmpty)

theorem words_eq_map_wordsOf (text : String) :
    words text = (wordsOf text.toList).map String.ofList := rfl

structure FirstWord (text blanks word after : List Char) : Prop where
  eq : text = blanks ++ (word ++ after)
  blank : ∀ c ∈ blanks, isBlank c = true
  nonempty : word ≠ []
  solid : ∀ c ∈ word, isBlank c = false
  apart : ∀ c ∈ after.head?, isBlank c = true

theorem wordsOf_append_blank {c : Char} (hc : isBlank c = true) (before after : List Char) :
    wordsOf (before ++ c :: after) = wordsOf before ++ wordsOf after := by
  rw [wordsOf, List.splitOnP_append_cons _ _ hc, List.filter_append]
  rfl

@[simp] theorem wordsOf_nil : wordsOf [] = [] := rfl

theorem wordsOf_cons_blank {c : Char} (hc : isBlank c = true) (text : List Char) :
    wordsOf (c :: text) = wordsOf text := by
  simpa using wordsOf_append_blank hc [] text

theorem wordsOf_append_of_blank {blanks : List Char} (h : ∀ c ∈ blanks, isBlank c = true)
    (text : List Char) : wordsOf (blanks ++ text) = wordsOf text := by
  induction blanks with
  | nil => rfl
  | cons c blanks ih =>
    rw [List.cons_append, wordsOf_cons_blank (h c (by simp))]
    exact ih fun d hd => h d (by simp [hd])

theorem wordsOf_of_solid {word : List Char} (hne : word ≠ [])
    (h : ∀ c ∈ word, isBlank c = false) : wordsOf word = [word] := by
  simp [wordsOf, List.splitOnP_eq_singleton h, hne]

theorem wordsOf_append_of_apart {word after : List Char} (hne : word ≠ [])
    (h : ∀ c ∈ word, isBlank c = false) (hafter : ∀ c ∈ after.head?, isBlank c = true) :
    wordsOf (word ++ after) = word :: wordsOf after := by
  cases after with
  | nil => rw [List.append_nil, wordsOf_of_solid hne h, wordsOf_nil]
  | cons c after =>
    have hc := hafter c rfl
    rw [wordsOf_append_blank hc, wordsOf_of_solid hne h, wordsOf_cons_blank hc]
    rfl

theorem FirstWord.wordsOf_eq {text blanks word after : List Char}
    (h : FirstWord text blanks word after) : wordsOf text = word :: wordsOf after := by
  rw [h.eq, wordsOf_append_of_blank h.blank, wordsOf_append_of_apart h.nonempty h.solid h.apart]

theorem FirstWord.length_lt {text blanks word after : List Char}
    (h : FirstWord text blanks word after) : after.length < text.length := by
  have hpos := List.length_pos_iff.mpr h.nonempty
  rw [h.eq, List.length_append, List.length_append]
  omega

theorem blank_or_firstWord (text : List Char) :
    (∀ c ∈ text, isBlank c = true) ∨ ∃ blanks word after, FirstWord text blanks word after := by
  by_cases hblank : ∀ c ∈ text, isBlank c = true
  · exact .inl hblank
  · let solid : Char → Bool := fun c => !isBlank c
    refine .inr ⟨text.takeWhile isBlank, (text.dropWhile isBlank).takeWhile solid,
      (text.dropWhile isBlank).dropWhile solid, ?_, ?_, ?_, ?_, ?_⟩
    · rw [List.takeWhile_append_dropWhile, List.takeWhile_append_dropWhile]
    · exact fun c hc => List.mem_takeWhile_imp hc
    · have hrest : text.dropWhile isBlank ≠ [] := by
        rwa [ne_eq, List.dropWhile_eq_nil_iff]
      obtain ⟨c, rest, hcons⟩ := List.exists_cons_of_ne_nil hrest
      have hc := List.head_dropWhile_not isBlank hrest
      simp only [hcons, List.head_cons] at hc
      simp [hcons, solid, hc]
    · intro c hc
      simpa [solid] using List.mem_takeWhile_imp hc
    · intro c hc
      have hc' := List.head?_dropWhile_not solid (text.dropWhile isBlank)
      rw [Option.mem_def.mp hc] at hc'
      simpa [solid] using hc'

theorem wordsOf_eq_nil_iff {text : List Char} :
    wordsOf text = [] ↔ ∀ c ∈ text, isBlank c = true := by
  constructor
  · intro h
    rcases blank_or_firstWord text with hblank | ⟨blanks, word, after, hfirst⟩
    · exact hblank
    · rw [hfirst.wordsOf_eq] at h
      cases h
  · intro hblank
    have hnone := wordsOf_append_of_blank hblank []
    rwa [List.append_nil] at hnone

/-- A text has a first word as soon as it has any word. -/
theorem exists_firstWord {text word : List Char} {others : List (List Char)}
    (h : wordsOf text = word :: others) :
    ∃ blanks after, FirstWord text blanks word after ∧ wordsOf after = others := by
  rcases blank_or_firstWord text with hblank | ⟨blanks, first, after, hfirst⟩
  · rw [wordsOf_eq_nil_iff.mpr hblank] at h
    cases h
  · rw [hfirst.wordsOf_eq] at h
    obtain ⟨rfl, rfl⟩ := List.cons.inj h
    exact ⟨blanks, after, hfirst, rfl⟩

/-- What is glued to the front of a text becomes a part of its first word. -/
theorem exists_wordsOf_glued {glyph c : Char} (hglyph : isBlank glyph = false) {text : List Char}
    (hc : text.head? = some c) (hsolid : isBlank c = false) :
    ∃ word others, wordsOf text = word :: others ∧
      wordsOf (glyph :: text) = (glyph :: word) :: others := by
  obtain ⟨rest, rfl⟩ := List.head?_eq_some_iff.mp hc
  rcases blank_or_firstWord (c :: rest) with hblank | ⟨blanks, word, after, hfirst⟩
  · rw [hblank c (by simp)] at hsolid
    cases hsolid
  · refine ⟨word, wordsOf after, hfirst.wordsOf_eq, ?_⟩
    cases blanks with
    | cons d blanks =>
      obtain ⟨rfl, -⟩ := List.cons.inj hfirst.eq
      rw [hfirst.blank c (by simp)] at hsolid
      cases hsolid
    | nil =>
      have hword : ∀ d ∈ glyph :: word, isBlank d = false :=
        List.forall_mem_cons.mpr ⟨hglyph, hfirst.solid⟩
      rw [hfirst.eq, List.nil_append, ← List.cons_append,
        wordsOf_append_of_apart (List.cons_ne_nil _ _) hword hfirst.apart]

theorem toList_trim (text : String) :
    (trim text).toList = (text.toList.dropWhile isBlank).rdropWhile isBlank := by
  rw [trim, String.toList_ofList]
  rfl

theorem wordsOf_rdropWhile (text : List Char) :
    wordsOf (text.rdropWhile isBlank) = wordsOf text := by
  have hblank : ∀ c ∈ text.rtakeWhile isBlank, isBlank c = true := fun _ => List.mem_rtakeWhile_imp
  conv_rhs => rw [← List.rdropWhile_append_rtakeWhile (p := isBlank) (l := text)]
  cases h : text.rtakeWhile isBlank with
  | nil => rw [List.append_nil]
  | cons c blanks =>
    rw [h] at hblank
    have hrest := wordsOf_append_of_blank (fun d hd => hblank d (List.mem_cons_of_mem c hd)) []
    rw [List.append_nil] at hrest
    rw [wordsOf_append_blank (hblank c (by simp)), hrest, wordsOf_nil, List.append_nil]

theorem wordsOf_trim (text : String) : wordsOf (trim text).toList = wordsOf text.toList := by
  have hblank : ∀ c ∈ text.toList.takeWhile isBlank, isBlank c = true :=
    fun _ hc => List.mem_takeWhile_imp hc
  rw [toList_trim, wordsOf_rdropWhile, ← wordsOf_append_of_blank hblank,
    List.takeWhile_append_dropWhile]

/-- The blanks in front of a text go, and the first character behind them stays. -/
theorem toList_trim_of_eq {text : String} {blanks rest : List Char} {c : Char}
    (h : text.toList = blanks ++ c :: rest) (hblank : ∀ d ∈ blanks, isBlank d = true)
    (hc : isBlank c = false) : (trim text).toList = c :: rest.rdropWhile isBlank := by
  have hdrop : text.toList.dropWhile isBlank = c :: rest := by
    rw [h, List.dropWhile_append_of_pos hblank]
    simp [hc]
  rw [toList_trim, hdrop]
  clear h hdrop
  induction rest using List.reverseRecOn with
  | nil => simp [List.rdropWhile_singleton, hc]
  | append_singleton rest d ih =>
    rw [← List.cons_append, List.rdropWhile_concat, List.rdropWhile_concat]
    split
    · exact ih
    · rfl

theorem startsCased_append_of_apart {after : List Char} (word : List Char)
    (h : ∀ c ∈ after.head?, isBlank c = true) : startsCased (word ++ after) = startsCased word := by
  cases after with
  | nil => rw [List.append_nil]
  | cons c after =>
    have hc := h c rfl
    induction word with
    | nil => simp [startsCased, not_isCaseIgnorable_of_isBlank hc, not_isCased_of_isBlank hc]
    | cons d word ih =>
      by_cases hd : isCaseIgnorable d = true
      · simpa [startsCased, hd] using ih
      · simp [startsCased, hd]

theorem lowerBetween_of_isBlank {c : Char} (hc : isBlank c = true) (casedBefore : Bool)
    (after : List Char) : lowerBetween casedBefore c after = [c] := by
  have hsigma : c ≠ 'Σ' := by
    rintro rfl
    revert hc
    decide
  rw [lowerBetween, if_neg hsigma, lowerChar_of_isBlank hc]

theorem lowerFrom_cons_blank {c : Char} (hc : isBlank c = true) (casedBefore : Bool)
    (text : List Char) : lowerFrom casedBefore (c :: text) = c :: lowerFrom false text := by
  rw [lowerFrom, lowerBetween_of_isBlank hc, not_isCaseIgnorable_of_isBlank hc,
    not_isCased_of_isBlank hc]
  rfl

theorem lowerFrom_append_of_blank {blanks : List Char} (h : ∀ c ∈ blanks, isBlank c = true)
    (text : List Char) : lowerFrom false (blanks ++ text) = blanks ++ lowerFrom false text := by
  induction blanks with
  | nil => rfl
  | cons c blanks ih =>
    rw [List.cons_append, lowerFrom_cons_blank (h c (by simp)), ih fun d hd => h d (by simp [hd])]
    rfl

/-- What stands before a blank does not matter for what stands behind it. -/
theorem lowerFrom_append_of_apart {after : List Char} (h : ∀ c ∈ after.head?, isBlank c = true)
    (casedBefore : Bool) (word : List Char) :
    lowerFrom casedBefore (word ++ after) =
      lowerFrom casedBefore word ++ lowerFrom false after := by
  induction word generalizing casedBefore with
  | nil =>
    cases after with
    | nil => rfl
    | cons c after =>
      rw [List.nil_append, lowerFrom_cons_blank (h c rfl), lowerFrom_cons_blank (h c rfl)]
      rfl
  | cons c word ih =>
    have hbetween : lowerBetween casedBefore c (word ++ after) =
        lowerBetween casedBefore c word := by
      rw [lowerBetween, lowerBetween, startsCased_append_of_apart word h]
    rw [List.cons_append, lowerFrom, lowerFrom, hbetween, ih, List.append_assoc]

/-- Only a capital sigma is not mapped as it would be alone. -/
theorem lowerBetween_cases (casedBefore : Bool) (c : Char) (after : List Char) :
    lowerBetween casedBefore c after = ['ς'] ∨ lowerBetween casedBefore c after = ['σ'] ∨
      lowerBetween casedBefore c after = lowerChar c := by
  unfold lowerBetween
  split
  · split <;> simp
  · exact .inr (.inr rfl)

theorem not_isBlank_of_mem_lowerBetween {casedBefore : Bool} {c d : Char} {after : List Char}
    (hc : isBlank c = false) (hd : d ∈ lowerBetween casedBefore c after) : isBlank d = false := by
  rcases lowerBetween_cases casedBefore c after with h | h | h <;> rw [h] at hd
  · rw [List.mem_singleton.mp hd]
    decide
  · rw [List.mem_singleton.mp hd]
    decide
  · exact not_isBlank_of_mem_lowerChar hc hd

theorem lowerBetween_ne_nil (casedBefore : Bool) (c : Char) (after : List Char) :
    lowerBetween casedBefore c after ≠ [] := by
  rcases lowerBetween_cases casedBefore c after with h | h | h
  · simp [h]
  · simp [h]
  · rw [h]
    exact lowerChar_ne_nil c

theorem lowerFrom_solid {word : List Char} (h : ∀ c ∈ word, isBlank c = false)
    (casedBefore : Bool) : ∀ c ∈ lowerFrom casedBefore word, isBlank c = false := by
  induction word generalizing casedBefore with
  | nil => simp [lowerFrom]
  | cons c word ih =>
    intro d hd
    rcases List.mem_append.mp hd with hd | hd
    · exact not_isBlank_of_mem_lowerBetween (h c (by simp)) hd
    · exact ih (fun e he => h e (by simp [he])) _ d hd

theorem lowerFrom_ne_nil {word : List Char} (h : word ≠ []) (casedBefore : Bool) :
    lowerFrom casedBefore word ≠ [] := by
  cases word with
  | nil => exact absurd rfl h
  | cons c word => simp [lowerFrom, lowerBetween_ne_nil]

theorem mem_lowerFrom_of_isBlank {c : Char} (hc : isBlank c = true) {text : List Char}
    (h : c ∈ text) (casedBefore : Bool) : c ∈ lowerFrom casedBefore text := by
  induction text generalizing casedBefore with
  | nil => cases h
  | cons d text ih =>
    rw [lowerFrom, List.mem_append]
    rcases List.mem_cons.mp h with rfl | h
    · exact .inl (by rw [lowerBetween_of_isBlank hc]; exact List.mem_singleton_self c)
    · exact .inr (ih h _)

/-- Lower case begins with a character that is no letter and no number only where the text does. -/
theorem head?_of_lowerFrom_eq_cons {text rest : List Char} {casedBefore : Bool} {d : Char}
    (h : lowerFrom casedBefore text = d :: rest) (hd : isAlphanumeric d = false) :
    text.head? = some d := by
  have hsigmas : isAlphanumeric 'ς' = true ∧ isAlphanumeric 'σ' = true := by decide +kernel
  cases text with
  | nil => cases h
  | cons c text =>
    obtain ⟨e, image, himage⟩ :=
      List.exists_cons_of_ne_nil (lowerBetween_ne_nil casedBefore c text)
    rw [lowerFrom, himage, List.cons_append] at h
    obtain ⟨rfl, -⟩ := List.cons.inj h
    rcases lowerBetween_cases casedBefore c text with hc | hc | hc <;> rw [himage] at hc
    · obtain ⟨rfl, -⟩ := List.cons.inj hc
      rw [hsigmas.1] at hd
      cases hd
    · obtain ⟨rfl, -⟩ := List.cons.inj hc
      rw [hsigmas.2] at hd
      cases hd
    · rw [eq_of_lowerChar_eq_cons hc.symm hd]
      rfl

/-- A character that is no letter and no number stays as it is, whatever stands around it. -/
theorem lowerBetween_of_not_isAlphanumeric {c : Char} (h : isAlphanumeric c = false)
    (casedBefore : Bool) (after : List Char) : lowerBetween casedBefore c after = [c] := by
  have hsigma : c ≠ 'Σ' := by
    rintro rfl
    revert h
    decide +kernel
  rw [lowerBetween, if_neg hsigma, lowerChar_of_not_isAlphanumeric h]

theorem head?_lowerFrom_eq_some_iff {text : List Char} {casedBefore : Bool} {d : Char}
    (hd : isAlphanumeric d = false) :
    (lowerFrom casedBefore text).head? = some d ↔ text.head? = some d := by
  constructor
  · intro h
    obtain ⟨rest, hrest⟩ := List.head?_eq_some_iff.mp h
    exact head?_of_lowerFrom_eq_cons hrest hd
  · intro h
    obtain ⟨rest, rfl⟩ := List.head?_eq_some_iff.mp h
    rw [lowerFrom, lowerBetween_of_not_isAlphanumeric hd]
    rfl

theorem head?_lower_eq_some_iff {text : String} {d : Char} (hd : isAlphanumeric d = false) :
    (lower text).toList.head? = some d ↔ text.toList.head? = some d := by
  rw [lower, String.toList_ofList]
  exact head?_lowerFrom_eq_some_iff hd

theorem lowerFrom_of_ascii {text : List Char} (h : ∀ c ∈ text, c.toNat < 128)
    (casedBefore : Bool) : lowerFrom casedBefore text = text.map Char.toLower := by
  induction text generalizing casedBefore with
  | nil => rfl
  | cons c text ih =>
    have hc := h c (by simp)
    have hsigma : c ≠ 'Σ' := by
      rintro rfl
      revert hc
      decide
    rw [lowerFrom, lowerBetween, if_neg hsigma, lowerChar_of_ascii hc,
      ih fun d hd => h d (by simp [hd])]
    rfl

theorem not_isUpper_of_mem_lowerFrom {text : List Char} {casedBefore : Bool} {d : Char}
    (h : d ∈ lowerFrom casedBefore text) : d.isUpper = false := by
  induction text generalizing casedBefore with
  | nil => cases h
  | cons c text ih =>
    rcases List.mem_append.mp h with h | h
    · rcases lowerBetween_cases casedBefore c text with hc | hc | hc <;> rw [hc] at h
      · rw [List.mem_singleton.mp h]
        decide
      · rw [List.mem_singleton.mp h]
        decide
      · exact not_isUpper_of_mem_lowerChar h
    · exact ih h

/-- Lower case is taken word by word. -/
theorem wordsOf_lowerFrom (text : List Char) :
    wordsOf (lowerFrom false text) = (wordsOf text).map (lowerFrom false) := by
  rcases blank_or_firstWord text with hblank | ⟨blanks, word, after, hfirst⟩
  · have hlower := lowerFrom_append_of_blank hblank []
    have hnone := wordsOf_append_of_blank hblank []
    rw [lowerFrom, List.append_nil] at hlower
    rw [List.append_nil, wordsOf_nil] at hnone
    rw [hlower, hnone, List.map_nil]
  · have hafter : ∀ c ∈ (lowerFrom false after).head?, isBlank c = true := by
      cases after with
      | nil => simp [lowerFrom]
      | cons c after =>
        have hc := hfirst.apart c rfl
        simpa [lowerFrom_cons_blank hc] using hc
    have hsolid := lowerFrom_solid hfirst.solid false
    have hne := lowerFrom_ne_nil hfirst.nonempty false
    have ih := wordsOf_lowerFrom after
    rw [hfirst.wordsOf_eq, List.map_cons, ← ih, hfirst.eq, lowerFrom_append_of_blank hfirst.blank,
      lowerFrom_append_of_apart hfirst.apart, wordsOf_append_of_blank hfirst.blank,
      wordsOf_append_of_apart hne hsolid hafter]
termination_by text.length
decreasing_by exact hfirst.length_lt

theorem words_lower (text : String) : words (lower text) = (words text).map lower := by
  rw [words_eq_map_wordsOf, words_eq_map_wordsOf, lower, String.toList_ofList, wordsOf_lowerFrom,
    List.map_map, List.map_map]
  congr 1
  funext word
  simp [lower]

theorem words_lower_ofList (text : List Char) :
    words (lower (String.ofList text)) =
      (wordsOf text).map fun word => lower (String.ofList word) := by
  rw [words_lower, words_eq_map_wordsOf, String.toList_ofList, List.map_map]
  rfl

/-- The word at the end of a text. It is empty when the text is empty or ends with a blank. -/
def lastWord (text : List Char) : List Char := text.rtakeWhile fun c => !isBlank c

/-- How a text ends: it is one word, or its last word stands behind a blank. -/
inductive EndsWith : List Char → List Char → Prop where
  | only {word : List Char} (solid : ∀ c ∈ word, isBlank c = false) : EndsWith word word
  | behind (before : List Char) {c : Char} {word : List Char} (blank : isBlank c = true)
      (solid : ∀ c ∈ word, isBlank c = false) : EndsWith (before ++ c :: word) word

theorem EndsWith.lastWord_eq {text word : List Char} (h : EndsWith text word) :
    lastWord text = word := by
  cases h with
  | only solid => exact List.rtakeWhile_eq_self_iff.mpr fun c hc => by simpa using solid c hc
  | @behind before c _ blank solid =>
    induction word using List.reverseRecOn with
    | nil => exact List.rtakeWhile_concat_neg _ _ _ (by simpa using blank)
    | append_singleton word d ih =>
      have hword := ih fun e he => solid e (List.mem_append_left _ he)
      have hd : isBlank d = false := solid d (by simp)
      rw [← List.cons_append, ← List.append_assoc, lastWord,
        List.rtakeWhile_concat_pos _ _ _ (by simpa using hd)]
      exact congrArg (· ++ [d]) hword

theorem endsWith_lastWord (text : List Char) : EndsWith text (lastWord text) := by
  have hsolid : ∀ c ∈ lastWord text, isBlank c = false :=
    fun c hc => by simpa using List.mem_rtakeWhile_imp hc
  have happend : text.rdropWhile (fun c => !isBlank c) ++ lastWord text = text :=
    List.rdropWhile_append_rtakeWhile
  rcases List.eq_nil_or_concat (text.rdropWhile fun c => !isBlank c) with h | ⟨before, c, h⟩
  · rw [h, List.nil_append] at happend
    rw [happend] at hsolid ⊢
    exact .only hsolid
  · have hblank : isBlank c = true := by
      have hlast := List.rdropWhile_last_not (fun c => !isBlank c) text (by simp [h])
      simpa [h] using hlast
    have hbehind := EndsWith.behind before hblank hsolid
    rwa [List.append_cons, ← List.concat_eq_append, ← h, happend] at hbehind

/-- The last word in lower case is the last word of the lower case. -/
theorem lastWord_lowerFrom (text : List Char) :
    lastWord (lowerFrom false text) = lowerFrom false (lastWord text) := by
  have hends := endsWith_lastWord text
  generalize lastWord text = word at hends ⊢
  cases hends with
  | only solid => exact (EndsWith.only (lowerFrom_solid solid false)).lastWord_eq
  | behind before blank solid =>
    rw [lowerFrom_append_of_apart (by simpa using blank), lowerFrom_cons_blank blank]
    exact (EndsWith.behind _ blank (lowerFrom_solid solid false)).lastWord_eq

/-- A last word that is not empty is the last of the words. -/
theorem exists_wordsOf_eq_append {text : List Char} (h : lastWord text ≠ []) :
    ∃ others, wordsOf text = others ++ [lastWord text] := by
  have hends := endsWith_lastWord text
  generalize lastWord text = word at hends h ⊢
  cases hends with
  | only solid => exact ⟨[], wordsOf_of_solid h solid⟩
  | behind before blank solid =>
    exact ⟨wordsOf before, by rw [wordsOf_append_blank blank, wordsOf_of_solid h solid]⟩

theorem lastWord_eq_nil_iff {text : List Char} :
    lastWord text = [] ↔ text.getLast?.all isBlank = true := by
  cases h : text.getLast? with
  | none => simp [List.getLast?_eq_none_iff.mp h, lastWord]
  | some c =>
    obtain ⟨before, rfl⟩ := List.getLast?_eq_some_iff.mp h
    by_cases hc : isBlank c = true <;> simp [lastWord, hc]

end ControlTower.Text
