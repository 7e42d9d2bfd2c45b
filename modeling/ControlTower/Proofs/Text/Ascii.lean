import ControlTower.Proofs.Text.Words

/-!
# Texts of ASCII

Among the characters of ASCII case is simple: each has one upper and one lower case, both of them in
ASCII, and the one can be had from the other. So texts of ASCII keep their length in either case,
and it does not matter through which of the two they are compared.
-/

namespace ControlTower.Text

def IsAscii (text : String) : Prop := ∀ c ∈ text.toList, c.toNat < 128

instance (text : String) : Decidable (IsAscii text) :=
  List.decidableBAll (fun c : Char => c.toNat < 128) text.toList

/-- A text begins with a word, whatever the case of either. -/
def BeginsWith (text word : String) : Prop := (lower word).toList <+: (lower text).toList

instance (text word : String) : Decidable (BeginsWith text word) :=
  inferInstanceAs (Decidable ((lower word).toList <+: (lower text).toList))

theorem toLower_of_ascii {c : Char} (h : c.toNat < 128) :
    c.toLower.toNat < 128 ∧ c.toLower.toUpper = c.toUpper ∧ (c.isUpper = false → c.toLower = c) :=
  forall_ascii (P := fun c => c.toLower.toNat < 128 ∧ c.toLower.toUpper = c.toUpper ∧
    (c.isUpper = false → c.toLower = c)) (by decide +kernel) h

theorem toUpper_of_ascii {c : Char} (h : c.toNat < 128) :
    c.toUpper.toNat < 128 ∧ c.toUpper.toLower = c.toLower :=
  forall_ascii (P := fun c => c.toUpper.toNat < 128 ∧ c.toUpper.toLower = c.toLower)
    (by decide +kernel) h

theorem toLower_of_not_isAlpha {c : Char} (h : c.isAlpha = false) : c.toLower = c := by
  refine dif_neg fun hupper => ?_
  have hletter : c.isUpper = true := decide_eq_true hupper
  exact Bool.noConfusion (hletter.symm.trans (Bool.or_eq_false_iff.mp h).1)

theorem toUpper_of_not_isAlpha {c : Char} (h : c.isAlpha = false) : c.toUpper = c := by
  refine dif_neg fun hlower => ?_
  have hletter : c.isLower = true :=
    Bool.and_eq_true_iff.mpr ⟨decide_eq_true hlower.1, decide_eq_true hlower.2⟩
  exact Bool.noConfusion (hletter.symm.trans (Bool.or_eq_false_iff.mp h).2)

theorem toLower_toUpper (c : Char) : c.toUpper.toLower = c.toLower := by
  cases hc : c.isAlpha with
  | false => rw [toUpper_of_not_isAlpha hc]
  | true => exact (toUpper_of_ascii (toNat_lt_of_isAlpha hc)).2

variable {text : String}

namespace IsAscii

theorem toList_lower (h : IsAscii text) : (lower text).toList = text.toList.map Char.toLower := by
  rw [Text.lower, String.toList_ofList, lowerFrom_of_ascii h]

theorem toList_upper (h : IsAscii text) : (upper text).toList = text.toList.map Char.toUpper := by
  rw [Text.upper, String.toList_ofList,
    List.flatMap_congr fun c hc => upperChar_of_ascii (h c hc)]
  exact List.flatMap_pure_eq_map _ _

protected theorem lower (h : IsAscii text) : IsAscii (lower text) := by
  rw [IsAscii, h.toList_lower, List.forall_mem_map]
  exact fun c hc => (toLower_of_ascii (h c hc)).1

protected theorem upper (h : IsAscii text) : IsAscii (upper text) := by
  rw [IsAscii, h.toList_upper, List.forall_mem_map]
  exact fun c hc => (toUpper_of_ascii (h c hc)).1

theorem lower_upper (h : IsAscii text) : lower (upper text) = lower text := by
  apply String.toList_injective
  rw [h.upper.toList_lower, h.toList_upper, h.toList_lower, List.map_map]
  exact List.map_congr_left fun c hc => (toUpper_of_ascii (h c hc)).2

theorem upper_lower (h : IsAscii text) : upper (lower text) = upper text := by
  apply String.toList_injective
  rw [h.lower.toList_upper, h.toList_lower, h.toList_upper, List.map_map]
  exact List.map_congr_left fun c hc => (toLower_of_ascii (h c hc)).2.1

theorem lower_lower (h : IsAscii text) : lower (lower text) = lower text := by
  rw [← h.lower.lower_upper, h.upper_lower, h.lower_upper]

theorem lower_eq_self (h : IsAscii text) (hlower : ∀ c ∈ text.toList, c.isUpper = false) :
    lower text = text := by
  apply String.toList_injective
  rw [h.toList_lower]
  exact (List.map_congr_left fun c hc => (toLower_of_ascii (h c hc)).2.2 (hlower c hc)).trans
    (List.map_id _)

theorem length_toList_lower (h : IsAscii text) :
    (lower text).toList.length = text.toList.length := by
  rw [h.toList_lower, List.length_map]

theorem length_toList_upper (h : IsAscii text) :
    (upper text).toList.length = text.toList.length := by
  rw [h.toList_upper, List.length_map]

section

variable {word : String} (h : IsAscii text) (hstart : word.toList <+: text.toList)

include h hstart

theorem of_isPrefix : IsAscii word := fun c hc => h c (hstart.subset hc)

theorem lower_isPrefix : (lower word).toList <+: (lower text).toList := by
  rw [(h.of_isPrefix hstart).toList_lower, h.toList_lower]
  exact hstart.map _

theorem upper_isPrefix : (upper word).toList <+: (upper text).toList := by
  rw [(h.of_isPrefix hstart).toList_upper, h.toList_upper]
  exact hstart.map _

end

end IsAscii

/-- What is added to a word in ASCII does not change the lower case of what stands there. -/
theorem lowerFrom_append_of_ascii {word addition : List Char} {casedBefore : Bool}
    (hword : ∀ c ∈ lowerFrom casedBefore word, c.toNat < 128)
    (haddition : ∀ c ∈ addition, c.toNat < 128) :
    lowerFrom casedBefore (word ++ addition) =
      lowerFrom casedBefore word ++ addition.map Char.toLower := by
  induction word generalizing casedBefore with
  | nil => exact lowerFrom_of_ascii haddition casedBefore
  | cons c word ih =>
    obtain ⟨hc, hrest⟩ := List.forall_mem_append.mp hword
    have hsigma : c ≠ 'Σ' := by
      rintro rfl
      rw [lowerBetween, if_pos rfl] at hc
      split at hc <;> simp at hc
    rw [List.cons_append, lowerFrom, lowerFrom, ih hrest, lowerBetween, lowerBetween,
      if_neg hsigma, if_neg hsigma, List.append_assoc]

theorem lower_append_of_ascii {word addition : String} (hword : IsAscii (lower word))
    (haddition : IsAscii addition) : lower (word ++ addition) = lower word ++ lower addition := by
  rw [IsAscii, lower, String.toList_ofList] at hword
  apply String.toList_injective
  rw [String.toList_append, haddition.toList_lower, lower, lower, String.toList_ofList,
    String.toList_ofList, String.toList_append, lowerFrom_append_of_ascii hword haddition]

theorem length_le_length_lowerFrom (text : List Char) (casedBefore : Bool) :
    text.length ≤ (lowerFrom casedBefore text).length := by
  induction text generalizing casedBefore with
  | nil => exact Nat.le_refl _
  | cons c text ih =>
    have hpos := List.length_pos_iff.mpr (lowerBetween_ne_nil casedBefore c text)
    have hrest := ih (if isCaseIgnorable c then casedBefore else isCased c)
    rw [lowerFrom, List.length_append, List.length_cons]
    omega

end ControlTower.Text
