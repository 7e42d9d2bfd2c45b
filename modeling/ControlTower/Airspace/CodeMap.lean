/-!
# Tables of things that have a code

Airports and aircraft are listed by their codes. A `CodeMap` keeps its entries in the order of the
codes, so that two maps with the same contents are the same map.
-/

namespace ControlTower

/-- A table from codes to values, in ascending order of the codes. -/
structure CodeMap (α : Type) where
  entries : List (String × α)
  ascending : (entries.map (·.1)).Pairwise (· < ·) := by simp
deriving Repr, DecidableEq

namespace CodeMap

variable {α β : Type}

def empty : CodeMap α := { entries := [] }

instance : Inhabited (CodeMap α) := ⟨empty⟩

def codes (map : CodeMap α) : List String := map.entries.map (·.1)

def values (map : CodeMap α) : List α := map.entries.map (·.2)

def find? (map : CodeMap α) (code : String) : Option α := map.entries.lookup code

/-- Entries in ascending order with one more, which takes the place of an entry of the same code. -/
def insertEntry (code : String) (value : α) : List (String × α) → List (String × α)
  | [] => [(code, value)]
  | entry :: rest =>
    if code < entry.1 then (code, value) :: entry :: rest
    else if code = entry.1 then (code, value) :: rest
    else entry :: insertEntry code value rest

theorem mem_codes_insertEntry {code other : String} {value : α} {entries : List (String × α)}
    (h : other ∈ (insertEntry code value entries).map (·.1)) :
    other = code ∨ other ∈ entries.map (·.1) := by
  induction entries with
  | nil => simpa [insertEntry] using h
  | cons entry rest ih =>
    unfold insertEntry at h
    split at h
    · simpa using h
    · split at h
      · simp only [List.map_cons, List.mem_cons] at h ⊢
        exact h.imp id Or.inr
      · simp only [List.map_cons, List.mem_cons] at h ⊢
        rcases h with h | h
        · exact Or.inr (Or.inl h)
        · exact (ih h).imp id Or.inr

theorem ascending_insertEntry (code : String) (value : α) {entries : List (String × α)}
    (h : (entries.map (·.1)).Pairwise (· < ·)) :
    ((insertEntry code value entries).map (·.1)).Pairwise (· < ·) := by
  induction entries with
  | nil => simp [insertEntry]
  | cons entry rest ih =>
    rw [List.map_cons, List.pairwise_cons] at h
    unfold insertEntry
    split
    · next hlt =>
      simp only [List.map_cons, List.pairwise_cons, List.mem_cons]
      refine ⟨?_, h⟩
      rintro other (rfl | hmem)
      · exact hlt
      · exact String.lt_trans hlt (h.1 other hmem)
    · next hlt =>
      split
      · next heq =>
        rw [List.map_cons, List.pairwise_cons, heq]
        exact h
      · next hne =>
        rw [List.map_cons, List.pairwise_cons]
        refine ⟨fun other hmem => ?_, ih h.2⟩
        rcases mem_codes_insertEntry hmem with rfl | hmem
        · rcases String.le_total other entry.1 with hle | hle
          · exact absurd (String.le_antisymm hle (String.not_lt.mp hlt)) hne
          · exact String.not_le.mp fun hge => hne (String.le_antisymm hge hle)
        · exact h.1 other hmem

def insert (map : CodeMap α) (code : String) (value : α) : CodeMap α where
  entries := insertEntry code value map.entries
  ascending := ascending_insertEntry code value map.ascending

/-- The table of the given entries, of which a later one takes the place of an earlier one. -/
def ofList (entries : List (String × α)) : CodeMap α :=
  entries.foldl (fun map entry => map.insert entry.1 entry.2) empty

def mapValues (f : String → α → β) (map : CodeMap α) : CodeMap β where
  entries := map.entries.map fun entry => (entry.1, f entry.1 entry.2)
  ascending := by simpa [Function.comp_def] using map.ascending

def filterValues (keep : α → Bool) (map : CodeMap α) : CodeMap α where
  entries := map.entries.filter fun entry => keep entry.2
  ascending := map.ascending.sublist (List.filter_sublist.map _)

/-- The table with the value of one code replaced by its image; the same table when that code has no
value. -/
def modify (map : CodeMap α) (code : String) (f : α → α) : CodeMap α :=
  map.mapValues fun other value => if other = code then f value else value

@[ext] theorem ext {first second : CodeMap α} (h : first.entries = second.entries) :
    first = second := by
  cases first
  cases second
  cases h
  rfl

theorem lookup_cons (entry : String × α) (entries : List (String × α)) (code : String) :
    (entry :: entries).lookup code =
      if code = entry.1 then some entry.2 else entries.lookup code := by
  rw [List.lookup_cons]
  split
  · next heq => rw [if_pos (beq_iff_eq.mp heq)]
  · next hne => rw [if_neg (beq_eq_false_iff_ne.mp hne)]

theorem lookup_insertEntry (code other : String) (value : α) (entries : List (String × α)) :
    (insertEntry code value entries).lookup other =
      if other = code then some value else entries.lookup other := by
  induction entries with
  | nil => exact lookup_cons (code, value) [] other
  | cons entry rest ih =>
    unfold insertEntry
    split
    · exact lookup_cons (code, value) (entry :: rest) other
    · split
      · next heq =>
        rw [lookup_cons, lookup_cons, heq]
        split <;> rfl
      · next hne =>
        rw [lookup_cons, lookup_cons, ih]
        by_cases h : other = entry.1
        · have hcode : other ≠ code := fun hc => hne (hc.symm.trans h)
          rw [if_pos h, if_neg hcode, if_pos h]
        · rw [if_neg h, if_neg h]

theorem lookup_map (f : String → α → β) (entries : List (String × α)) (code : String) :
    (entries.map fun entry => (entry.1, f entry.1 entry.2)).lookup code =
      (entries.lookup code).map (f code) := by
  induction entries with
  | nil => rfl
  | cons entry rest ih =>
    rw [List.map_cons, lookup_cons, lookup_cons, ih]
    split
    · next heq => rw [heq, Option.map_some]
    · rfl

theorem lookup_eq_none_of_lt {code : String} {entries : List (String × α)}
    (h : ∀ other ∈ entries.map (·.1), code < other) : entries.lookup code = none := by
  rw [List.lookup_eq_none_iff]
  intro entry hentry
  exact bne_iff_ne.mpr (String.ne_of_lt (h entry.1 (List.mem_map_of_mem hentry)))

/-- A code has one value at most: what is left of the entries holds no other one. -/
theorem lookup_filter (keep : α → Bool) {entries : List (String × α)}
    (h : (entries.map (·.1)).Pairwise (· < ·)) (code : String) :
    (entries.filter fun entry => keep entry.2).lookup code =
      (entries.lookup code).filter keep := by
  induction entries with
  | nil => rfl
  | cons entry rest ih =>
    rw [List.map_cons, List.pairwise_cons] at h
    rw [List.filter_cons, lookup_cons]
    by_cases hcode : code = entry.1
    · rw [if_pos hcode, Option.filter_some]
      split
      · rw [lookup_cons, if_pos hcode]
      · rw [ih h.2]
        rw [lookup_eq_none_of_lt (hcode ▸ h.1), Option.filter_none]
    · rw [if_neg hcode, ← ih h.2]
      split
      · rw [lookup_cons, if_neg hcode]
      · rfl

theorem not_lt_of_lookup_eq {entry other : String × α} {entries others : List (String × α)}
    (h : ((other :: others).map (·.1)).Pairwise (· < ·))
    (hsame : (entry :: entries).lookup entry.1 = (other :: others).lookup entry.1) :
    ¬ entry.1 < other.1 := by
  intro hlt
  rw [List.map_cons, List.pairwise_cons] at h
  have hless : ∀ code ∈ (other :: others).map (·.1), entry.1 < code := by
    rw [List.map_cons, List.forall_mem_cons]
    exact ⟨hlt, fun code hcode => String.lt_trans hlt (h.1 code hcode)⟩
  rw [lookup_eq_none_of_lt hless, lookup_cons, if_pos rfl] at hsame
  cases hsame

/-- Entries in ascending order are determined by what is found under each code. -/
theorem eq_of_lookup_eq {first second : List (String × α)}
    (h : (first.map (·.1)).Pairwise (· < ·)) (h' : (second.map (·.1)).Pairwise (· < ·))
    (hsame : ∀ code, first.lookup code = second.lookup code) : first = second := by
  induction first generalizing second with
  | nil =>
    cases second with
    | nil => rfl
    | cons other others =>
      have hnone := hsame other.1
      rw [lookup_cons, if_pos rfl] at hnone
      cases hnone
  | cons entry entries ih =>
    cases second with
    | nil =>
      have hnone := hsame entry.1
      rw [lookup_cons, if_pos rfl] at hnone
      cases hnone
    | cons other others =>
      have hcode : entry.1 = other.1 :=
        String.le_antisymm (String.not_lt.mp (not_lt_of_lookup_eq h (hsame other.1).symm))
          (String.not_lt.mp (not_lt_of_lookup_eq h' (hsame entry.1)))
      have hvalue := hsame entry.1
      rw [lookup_cons, lookup_cons, if_pos rfl, if_pos hcode] at hvalue
      rw [List.map_cons, List.pairwise_cons] at h h'
      have hentries : entries = others := by
        refine ih h.2 h'.2 fun code => ?_
        by_cases heq : code = entry.1
        · rw [heq, lookup_eq_none_of_lt h.1, hcode, lookup_eq_none_of_lt h'.1]
        · have hrest := hsame code
          rwa [lookup_cons, lookup_cons, if_neg heq, if_neg (hcode ▸ heq)] at hrest
      rw [hentries, Prod.ext hcode (Option.some.inj hvalue)]

theorem find?_insert (map : CodeMap α) (code other : String) (value : α) :
    (map.insert code value).find? other = if other = code then some value else map.find? other :=
  lookup_insertEntry code other value map.entries

theorem find?_mapValues (f : String → α → β) (map : CodeMap α) (code : String) :
    (map.mapValues f).find? code = (map.find? code).map (f code) :=
  lookup_map f map.entries code

theorem find?_filterValues (keep : α → Bool) (map : CodeMap α) (code : String) :
    (map.filterValues keep).find? code = (map.find? code).filter keep :=
  lookup_filter keep map.ascending code

theorem find?_modify (map : CodeMap α) (code other : String) (f : α → α) :
    (map.modify code f).find? other =
      (map.find? other).map fun value => if other = code then f value else value :=
  find?_mapValues _ map other

theorem find?_eq_none_iff {map : CodeMap α} {code : String} :
    map.find? code = none ↔ code ∉ map.codes := by
  rw [find?, List.lookup_eq_none_iff, codes, List.mem_map]
  constructor
  · rintro h ⟨entry, hentry, heq⟩
    exact bne_iff_ne.mp (h entry hentry) heq.symm
  · intro h entry hentry
    exact bne_iff_ne.mpr fun heq => h ⟨entry, hentry, heq.symm⟩

theorem find?_of_mem_entries {map : CodeMap α} {entry : String × α} (h : entry ∈ map.entries) :
    map.find? entry.1 = some entry.2 := by
  obtain ⟨before, after, hsplit⟩ := List.append_of_mem h
  have hascending := map.ascending
  rw [hsplit, List.map_append, List.pairwise_append] at hascending
  refine List.lookup_eq_some_iff.mpr ⟨before, after, hsplit, fun other hother => ?_⟩
  have hlt : other.1 < entry.1 :=
    hascending.2.2 other.1 (List.mem_map_of_mem hother) entry.1 (by simp)
  exact bne_iff_ne.mpr (String.ne_of_lt hlt).symm

/-- Tables in which the same is found under every code are the same table. -/
theorem ext_find? {first second : CodeMap α} (h : ∀ code, first.find? code = second.find? code) :
    first = second :=
  ext (eq_of_lookup_eq first.ascending second.ascending h)

theorem mem_values_of_find? {map : CodeMap α} {code : String} {value : α}
    (h : map.find? code = some value) : value ∈ map.values := by
  obtain ⟨before, after, hentries, -⟩ := List.lookup_eq_some_iff.mp h
  rw [values, hentries]
  simp

theorem insertEntry_of_forall_lt {code : String} (value : α) {entries : List (String × α)}
    (h : ∀ other ∈ entries.map (·.1), other < code) :
    insertEntry code value entries = entries ++ [(code, value)] := by
  induction entries with
  | nil => rfl
  | cons entry rest ih =>
    rw [List.map_cons, List.forall_mem_cons] at h
    have hne : code ≠ entry.1 := (String.ne_of_lt h.1).symm
    have hnot : ¬ code < entry.1 := String.lt_asymm h.1
    rw [insertEntry, if_neg hnot, if_neg hne, ih h.2, List.cons_append]

/-- Entries that come in ascending order behind those of a table are added at its end. -/
theorem entries_foldl_insert (map : CodeMap α) {entries : List (String × α)}
    (h : (map.codes ++ entries.map (·.1)).Pairwise (· < ·)) :
    (entries.foldl (fun map entry => map.insert entry.1 entry.2) map).entries =
      map.entries ++ entries := by
  induction entries generalizing map with
  | nil => rw [List.append_nil]; rfl
  | cons entry rest ih =>
    have hinsert : (map.insert entry.1 entry.2).entries = map.entries ++ [entry] :=
      insertEntry_of_forall_lt entry.2 fun other hother =>
        (List.pairwise_append.mp h).2.2 other hother entry.1 (by simp)
    rw [List.foldl_cons, ih, hinsert, List.append_assoc, List.singleton_append]
    rw [codes, hinsert]
    simpa [codes] using h

theorem ofList_entries (map : CodeMap α) : ofList map.entries = map :=
  ext (entries_foldl_insert empty map.ascending)

end CodeMap

end ControlTower
