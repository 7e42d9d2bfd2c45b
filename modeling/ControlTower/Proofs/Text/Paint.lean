import ControlTower.Text.Paint
import Mathlib.Data.List.Basic
import Mathlib.Data.List.TakeWhile

/-!
# Taking the colours off a text

A sequence that chooses a colour is the escape character, a bracket, digits and semicolons, and the
letter `m`. A text without its sequences is read from front to back: a sequence is passed over as a
whole, and any other character is kept. In a text whose characters other than those of its sequences
are no escape characters, the sequences cannot overlap, and each stands where it was put.
-/

namespace ControlTower.Text

def escape : Char := '\x1b'

def isParameter (c : Char) : Bool := c.isDigit || c == ';'

def IsCode (code : String) : Prop := ∀ c ∈ code.toList, isParameter c = true

instance (code : String) : Decidable (IsCode code) :=
  List.decidableBAll (fun c : Char => isParameter c = true) code.toList

def behindSequence? (text : List Char) : Option (List Char) := do
  let rest ← text.dropPrefix? [escape, '[']
  (rest.dropWhile isParameter).dropPrefix? ['m']

variable {code : String} {text : List Char} {c : Char}

theorem toList_rendition_append (code : String) (text : List Char) :
    (rendition code).toList ++ text = escape :: '[' :: (code.toList ++ 'm' :: text) := by
  rw [rendition, String.toList_append, String.toList_append, List.append_assoc, List.append_assoc]
  rfl

theorem toList_paint (code text : String) :
    (paint code text).toList =
      (rendition code).toList ++ (text.toList ++ (rendition "0").toList) := by
  rw [paint, String.toList_append, String.toList_append, List.append_assoc]

theorem isParameter_escape : isParameter escape = false := by decide

theorem isParameter_m : isParameter 'm' = false := by decide

theorem IsCode.not_mem (h : IsCode code) (hc : isParameter c = false) : c ∉ code.toList := by
  intro hmem
  rw [h c hmem] at hc
  cases hc

theorem behindSequence?_eq_some_iff {behind : List Char} :
    behindSequence? text = some behind ↔
      ∃ code, IsCode code ∧ text = (rendition code).toList ++ behind := by
  simp only [behindSequence?, Option.bind_eq_bind, Option.bind_eq_some_iff,
    List.dropPrefix?_eq_some_iff, beq_iff_eq, exists_eq_right]
  constructor
  · rintro ⟨rest, rfl, hdrop⟩
    have hrest : rest.takeWhile isParameter ++ 'm' :: behind = rest := by
      rw [← List.singleton_append, ← hdrop, List.takeWhile_append_dropWhile]
    refine ⟨String.ofList (rest.takeWhile isParameter), ?_, ?_⟩
    · rw [IsCode, String.toList_ofList]
      exact fun c hc => List.mem_takeWhile_imp hc
    · rw [toList_rendition_append, String.toList_ofList, hrest]
      rfl
  · rintro ⟨code, hcode, rfl⟩
    refine ⟨code.toList ++ 'm' :: behind, toList_rendition_append code behind, ?_⟩
    rw [List.dropWhile_append_of_pos hcode]
    simp [isParameter_m]

theorem behindSequence?_rendition_append (h : IsCode code) (text : List Char) :
    behindSequence? ((rendition code).toList ++ text) = some text :=
  behindSequence?_eq_some_iff.mpr ⟨code, h, rfl⟩

theorem behindSequence?_cons_of_ne (h : c ≠ escape) (text : List Char) :
    behindSequence? (c :: text) = none := by
  simp [behindSequence?, List.dropPrefix?, h]

theorem length_lt_of_behindSequence? {behind : List Char} (h : behindSequence? text = some behind) :
    behind.length < text.length := by
  obtain ⟨code, -, rfl⟩ := behindSequence?_eq_some_iff.mp h
  rw [toList_rendition_append]
  simp only [List.length_cons, List.length_append]
  omega

def uncoloured (text : List Char) : List Char :=
  match _h : behindSequence? text with
  | some behind => uncoloured behind
  | none =>
    match text with
    | [] => []
    | c :: rest => c :: uncoloured rest
termination_by text.length
decreasing_by
  · exact length_lt_of_behindSequence? _h
  · exact Nat.lt_add_one _

@[simp] theorem uncoloured_nil : uncoloured [] = [] := by
  rw [uncoloured]
  split
  · next behind hbehind => cases hbehind
  · rfl

theorem uncoloured_rendition_append (h : IsCode code) (text : List Char) :
    uncoloured ((rendition code).toList ++ text) = uncoloured text := by
  rw [uncoloured]
  split
  · next behind hbehind =>
    rw [behindSequence?_rendition_append h] at hbehind
    rw [Option.some.inj hbehind]
  · next hnone =>
    rw [behindSequence?_rendition_append h] at hnone
    cases hnone

theorem uncoloured_cons (h : c ≠ escape) (text : List Char) :
    uncoloured (c :: text) = c :: uncoloured text := by
  rw [uncoloured]
  split
  · next behind hbehind =>
    rw [behindSequence?_cons_of_ne h] at hbehind
    cases hbehind
  · rfl

theorem uncoloured_append {word : List Char} (h : escape ∉ word) (text : List Char) :
    uncoloured (word ++ text) = word ++ uncoloured text := by
  induction word with
  | nil => rfl
  | cons c word ih =>
    rw [List.mem_cons, not_or] at h
    rw [List.cons_append, uncoloured_cons (Ne.symm h.1), ih h.2, List.cons_append]

theorem isCode_reset : IsCode "0" := by decide

theorem uncoloured_paint_append (hcode : IsCode code) {word : List Char} (hword : escape ∉ word)
    (text : List Char) :
    uncoloured ((paint code (String.ofList word)).toList ++ text) = word ++ uncoloured text := by
  rw [toList_paint, String.toList_ofList, List.append_assoc, List.append_assoc,
    uncoloured_rendition_append hcode, uncoloured_append hword,
    uncoloured_rendition_append isCode_reset]

variable {code' : String} {before after : List Char}

/-- A character stands behind the part of a text that does not have it. -/
theorem exists_append_of_not_mem {word : List Char} (hc : c ∉ word)
    (h : word ++ text = before ++ c :: after) :
    ∃ middle, before = word ++ middle ∧ text = middle ++ c :: after := by
  rcases List.append_eq_append_iff.mp h with ⟨middle, hbefore, htext⟩ | ⟨middle, hword, hafter⟩
  · exact ⟨middle, hbefore, htext⟩
  · cases middle with
    | nil => exact ⟨[], by simpa using hword.symm, hafter.symm⟩
    | cons d middle =>
      obtain ⟨rfl, -⟩ := List.cons.inj hafter
      exact absurd (by simp [hword]) hc

/-- Where a text begins with a sequence, any sequence in it is this one, or stands behind it. -/
theorem eq_or_behind_of_rendition_append (hcode : IsCode code) (hcode' : IsCode code')
    (h : (rendition code).toList ++ text = before ++ ((rendition code').toList ++ after)) :
    (before = [] ∧ code' = code ∧ after = text) ∨
      ∃ middle, before = (rendition code).toList ++ middle ∧
        text = middle ++ ((rendition code').toList ++ after) := by
  rw [toList_rendition_append, toList_rendition_append] at h
  cases before with
  | nil =>
    simp only [List.nil_append, List.cons.injEq, true_and] at h
    obtain ⟨middle, hlist, htext⟩ := exists_append_of_not_mem (hcode.not_mem isParameter_m) h
    cases middle with
    | nil =>
      rw [List.append_nil] at hlist
      exact .inl ⟨rfl, String.toList_inj.mp hlist, (List.cons.inj htext).2.symm⟩
    | cons d middle =>
      obtain ⟨rfl, -⟩ := List.cons.inj htext
      exact absurd (by simp [hlist]) (hcode'.not_mem isParameter_m)
  | cons d before =>
    obtain ⟨rfl, htail⟩ := List.cons.inj h
    have hsplit : '[' :: (code.toList ++ 'm' :: text) =
        '[' :: (code.toList ++ ['m']) ++ text := by simp
    have hvisible : escape ∉ '[' :: (code.toList ++ ['m']) := by
      have hletters : escape ≠ '[' ∧ escape ≠ 'm' := by decide
      simp [hletters, hcode.not_mem isParameter_escape]
    obtain ⟨middle, hbefore, htext⟩ := exists_append_of_not_mem hvisible (hsplit ▸ htail)
    refine .inr ⟨middle, ?_, ?_⟩
    · rw [toList_rendition_append, hbefore]
      simp
    · rw [toList_rendition_append, htext]

/-- Where a text begins with a word in colour, a sequence in it begins the colour or ends it, or
stands behind it. -/
theorem begins_or_ends_or_behind_of_paint_append (hcode : IsCode code) (hcode' : IsCode code')
    {word : List Char} (hword : escape ∉ word)
    (h : (paint code (String.ofList word)).toList ++ text =
      before ++ ((rendition code').toList ++ after)) :
    (before = [] ∧ after = word ++ ((rendition "0").toList ++ text)) ∨
      (before = (rendition code).toList ++ word ∧ code' = "0" ∧ after = text) ∨
      ∃ middle, before = (paint code (String.ofList word)).toList ++ middle ∧
        text = middle ++ ((rendition code').toList ++ after) := by
  rw [toList_paint, String.toList_ofList, List.append_assoc, List.append_assoc] at h
  rcases eq_or_behind_of_rendition_append hcode hcode' h with
    ⟨hbefore, -, hafter⟩ | ⟨middle, hbefore, htext⟩
  · exact .inl ⟨hbefore, hafter⟩
  have hescape := toList_rendition_append code' after
  rw [hescape] at htext
  obtain ⟨rest, hmiddle, hreset⟩ := exists_append_of_not_mem hword htext
  rw [← hescape] at hreset
  refine .inr ?_
  rcases eq_or_behind_of_rendition_append isCode_reset hcode' hreset with
    ⟨rfl, hzero, hafter⟩ | ⟨last, rfl, htext⟩
  · rw [List.append_nil] at hmiddle
    exact .inl ⟨hmiddle ▸ hbefore, hzero, hafter⟩
  · refine .inr ⟨last, ?_, htext⟩
    rw [hbefore, hmiddle, toList_paint, String.toList_ofList]
    simp only [List.append_assoc]

end ControlTower.Text
