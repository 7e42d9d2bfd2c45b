import ControlTower.Text.CommonPrefix

/-!
# The greatest common beginning

Texts are ordered by beginning one with another, and what several texts have in common is their
greatest lower bound in this order. It is determined by the set of the texts, therefore: in which
order they stand and how often does not matter, and a list may be taken in parts.
-/

namespace ControlTower.Text

variable {texts others : List String}

/-- A text is determined by what it begins with. -/
theorem eq_of_isPrefix_iff {first second : String}
    (h : ∀ word, word <+: first.toList ↔ word <+: second.toList) : first = second := by
  have hfirst : first.toList <+: second.toList := (h _).mp List.prefix_rfl
  have hsecond : second.toList <+: first.toList := (h _).mpr List.prefix_rfl
  exact String.toList_inj.mp (hfirst.eq_of_length_le hsecond.length_le)

theorem commonPrefix_isPrefix (hne : texts ≠ []) {text : String} (h : text ∈ texts) :
    (commonPrefix texts).toList <+: text.toList :=
  (isPrefix_commonPrefix_iff hne).mp List.prefix_rfl text h

/-- Lists of the same texts have the same beginning in common. -/
theorem commonPrefix_eq_of_mem_iff (hne : texts ≠ [])
    (hsame : ∀ text, text ∈ others ↔ text ∈ texts) : commonPrefix others = commonPrefix texts := by
  obtain ⟨text, htext⟩ := List.exists_mem_of_ne_nil texts hne
  have hothers : others ≠ [] := List.ne_nil_of_mem ((hsame text).mpr htext)
  refine eq_of_isPrefix_iff fun word => ?_
  rw [isPrefix_commonPrefix_iff hothers, isPrefix_commonPrefix_iff hne]
  exact forall_congr' fun text => imp_congr_left (hsame text)

/-- What all texts of two lists have in common is what the common beginnings of the lists have in
common. -/
theorem commonPrefix_append (hne : texts ≠ []) (hothers : others ≠ []) :
    commonPrefix (texts ++ others) = commonPrefix [commonPrefix texts, commonPrefix others] := by
  refine eq_of_isPrefix_iff fun word => ?_
  rw [isPrefix_commonPrefix_iff (List.append_ne_nil_of_left_ne_nil hne others),
    isPrefix_commonPrefix_iff (List.cons_ne_nil _ _), List.forall_mem_append,
    List.forall_mem_cons, List.forall_mem_singleton, isPrefix_commonPrefix_iff hne,
    isPrefix_commonPrefix_iff hothers]

/-- What several texts have in common is the greatest text with which all of them begin. It is the
same for any list of the same texts, in whatever order and however often each of them stands there,
and when the list is parted in two, it is what the two parts have in common, each taken by itself. -/
theorem commonPrefix_is_greatest (texts : List String) (hne : texts ≠ []) :
    (∀ text ∈ texts, (commonPrefix texts).toList <+: text.toList) ∧
      (∀ word : String, (∀ text ∈ texts, word.toList <+: text.toList) →
        word.toList <+: (commonPrefix texts).toList) ∧
      (∀ others, (∀ text, text ∈ others ↔ text ∈ texts) →
        commonPrefix others = commonPrefix texts) ∧
      ∀ front back, texts = front ++ back → front ≠ [] → back ≠ [] →
        commonPrefix texts = commonPrefix [commonPrefix front, commonPrefix back] := by
  refine ⟨fun text htext => commonPrefix_isPrefix hne htext,
    fun word hword => (isPrefix_commonPrefix_iff hne).mpr hword,
    fun others hsame => commonPrefix_eq_of_mem_iff hne hsame, ?_⟩
  rintro front back rfl hfront hback
  exact commonPrefix_append hfront hback

theorem commonPrefix_is_greatest_of_three_aircraft :
    let texts := ["BAW1234", "BAW1299", "BAW7"]
    texts ≠ [] ∧ commonPrefix texts = "BAW" ∧
      commonPrefix ["BAW7", "BAW1234", "BAW7", "BAW1299"] = "BAW" ∧
      commonPrefix texts = commonPrefix [commonPrefix ["BAW1234", "BAW1299"], "BAW7"] := by
  intro texts
  have hne : texts ≠ [] := List.cons_ne_nil _ _
  have hcommon : commonPrefix texts = "BAW" := by decide +kernel
  obtain ⟨-, -, hsame, hparts⟩ := commonPrefix_is_greatest texts hne
  refine ⟨hne, hcommon, (hsame _ fun text => ?_).trans hcommon, ?_⟩
  · simp only [texts, List.mem_cons, List.not_mem_nil, or_false]
    grind
  · exact hparts ["BAW1234", "BAW1299"] ["BAW7"] rfl (List.cons_ne_nil _ _) (List.cons_ne_nil _ _)

end ControlTower.Text
