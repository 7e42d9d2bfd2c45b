/-!
# The longest common beginning of several texts
-/

namespace ControlTower.Text

def sharedStart : List Char → List Char → List Char
  | a :: as, b :: bs => if a = b then a :: sharedStart as bs else []
  | _, _ => []

/-- The longest text with which every one of the given texts begins; empty when there is none. -/
def commonPrefix : List String → String
  | [] => ""
  | first :: others =>
    String.ofList (others.foldl (fun shared text => sharedStart shared text.toList) first.toList)

@[simp] theorem sharedStart_nil_left (b : List Char) : sharedStart [] b = [] := by
  simp [sharedStart]

@[simp] theorem sharedStart_nil_right (a : List Char) : sharedStart a [] = [] := by
  simp [sharedStart]

/-- Two texts begin with a word in common exactly when their longest common beginning does. -/
theorem isPrefix_sharedStart_iff {word a b : List Char} :
    word <+: sharedStart a b ↔ word <+: a ∧ word <+: b := by
  induction a generalizing word b with
  | nil =>
    rw [sharedStart_nil_left, List.prefix_nil, iff_self_and]
    rintro rfl
    exact List.nil_prefix
  | cons c cs ih =>
    cases b with
    | nil =>
      rw [sharedStart_nil_right, List.prefix_nil, iff_and_self]
      rintro rfl
      exact List.nil_prefix
    | cons d ds =>
      cases word with
      | nil => simp
      | cons e es =>
        rw [sharedStart]
        split
        · next heq =>
          rw [← heq, List.cons_prefix_cons, List.cons_prefix_cons, List.cons_prefix_cons, ih,
            and_and_left]
        · next hne =>
          rw [List.prefix_nil, List.cons_prefix_cons, List.cons_prefix_cons]
          constructor
          · rintro ⟨⟩
          · rintro ⟨⟨rfl, -⟩, ⟨rfl, -⟩⟩
            exact absurd rfl hne

/-- All texts begin with a word exactly when their longest common beginning does. -/
theorem isPrefix_commonPrefix_iff {word : List Char} {texts : List String} (h : texts ≠ []) :
    word <+: (commonPrefix texts).toList ↔ ∀ text ∈ texts, word <+: text.toList := by
  have hfold : ∀ (others : List String) (start : List Char),
      word <+: others.foldl (fun shared text => sharedStart shared text.toList) start ↔
        word <+: start ∧ ∀ text ∈ others, word <+: text.toList := by
    intro others
    induction others with
    | nil => simp
    | cons text others ih =>
      intro start
      rw [List.foldl_cons, ih, isPrefix_sharedStart_iff, List.forall_mem_cons, and_assoc]
  cases texts with
  | nil => exact absurd rfl h
  | cons first others =>
    rw [commonPrefix, String.toList_ofList, hfold, List.forall_mem_cons]

end ControlTower.Text
