import ControlTower.Proofs.Text.Case
import Mathlib.Data.List.Basic

/-!
# Capitals stay capitals

A text that is written in capitals is not changed by writing it in capitals once more, and no blank
comes into it. These are properties of the tables: what a character is mapped to is itself mapped to
nothing else, and is no blank. The code points that are mapped to and those that are mapped or blank
are compared as two sets, each of them made into the bits of one number, so that a single operation
on two numbers shows that they do not meet.
-/

namespace ControlTower.Text

def bitsAt : List Nat → Nat
  | [] => 0
  | place :: places => 1 <<< place ||| bitsAt places

theorem testBit_bitsAt (places : List Nat) (n : Nat) :
    (bitsAt places).testBit n = true ↔ n ∈ places := by
  induction places with
  | nil => simp [bitsAt]
  | cons place places ih =>
    rw [bitsAt, Nat.testBit_or, Bool.or_eq_true, ih, Nat.one_shiftLeft, Nat.testBit_two_pow,
      decide_eq_true_eq, List.mem_cons, eq_comm]

/-- Lists of numbers have none in common when no bit is set for both. -/
theorem not_mem_of_bitsAt {first second : List Nat} (h : bitsAt first &&& bitsAt second = 0)
    {n : Nat} (hn : n ∈ first) : n ∉ second := by
  intro hn'
  have hbit : (bitsAt first &&& bitsAt second).testBit n = true := by
    rw [Nat.testBit_and, (testBit_bitsAt first n).mpr hn, (testBit_bitsAt second n).mpr hn']
    rfl
  rw [h, Nat.zero_testBit] at hbit
  cases hbit

section

variable {runs : List CaseRun} {sequences : List (Nat × List Nat)} {c d : Char}

def mappedCodes (runs : List CaseRun) (sequences : List (Nat × List Nat)) : List Nat :=
  runs.flatMap CaseRun.members ++ sequences.map (·.1)

def imageCodes (runs : List CaseRun) (sequences : List (Nat × List Nat)) : List Nat :=
  (runs.flatMap fun run => run.members.map run.map) ++ sequences.flatMap (·.2)

theorem mapCase_of_not_mem (h : c.toNat ∉ mappedCodes runs sequences) :
    mapCase runs sequences c = [c] := by
  simp only [mappedCodes, List.mem_append, List.mem_flatMap, List.mem_map, not_or, not_exists,
    not_and] at h
  have hfind : runs.find? (·.has c.toNat) = none := by
    rw [List.find?_eq_none]
    exact fun run hrun hhas => h.1 run hrun (CaseRun.mem_members hhas)
  have hlookup : sequences.lookup c.toNat = none := by
    rw [List.lookup_eq_none_iff]
    exact fun entry hentry => bne_iff_ne.mpr fun heq => h.2 entry hentry heq.symm
  rw [mapCase, hfind, hlookup]

/-- Characters come from an image, or they are mapped to themselves. -/
theorem mem_mapCase (h : d ∈ mapCase runs sequences c) :
    (∃ code ∈ imageCodes runs sequences, d = Char.ofNat code) ∨
      mapCase runs sequences c = [c] ∧ d = c := by
  unfold mapCase at h ⊢
  unfold imageCodes
  split at h
  · next run hrun =>
    have hhas : run.has c.toNat = true := by simpa using List.find?_some hrun
    have hcode : run.map c.toNat ∈ runs.flatMap fun run => run.members.map run.map :=
      List.mem_flatMap.mpr ⟨run, List.mem_of_find?_eq_some hrun,
        List.mem_map_of_mem (CaseRun.mem_members hhas)⟩
    exact .inl ⟨_, List.mem_append_left _ hcode, List.mem_singleton.mp h⟩
  · split at h
    · next image himage =>
      obtain ⟨code, hcode, rfl⟩ := List.mem_map.mp h
      obtain ⟨before, after, hsplit, -⟩ := List.lookup_eq_some_iff.mp himage
      have hlisted : code ∈ sequences.flatMap (·.2) :=
        List.mem_flatMap.mpr ⟨(c.toNat, image), by simp [hsplit], hcode⟩
      exact .inl ⟨code, List.mem_append_right _ hlisted, rfl⟩
    · exact .inr ⟨rfl, List.mem_singleton.mp h⟩

end

theorem mapCase_ne_nil {runs : List CaseRun} {sequences : List (Nat × List Nat)}
    (h : ∀ entry ∈ sequences, entry.2 ≠ []) (c : Char) : mapCase runs sequences c ≠ [] := by
  unfold mapCase
  split
  · exact List.cons_ne_nil _ _
  · split
    · next image himage =>
      obtain ⟨before, after, hsplit, -⟩ := List.lookup_eq_some_iff.mp himage
      have himage_ne := h (c.toNat, image) (by simp [hsplit])
      exact mt List.map_eq_nil_iff.mp himage_ne
    · exact List.cons_ne_nil _ _

def Ranges.codes (ranges : Ranges) : List Nat :=
  ranges.flatMap fun range => List.range' range.1 (range.2 + 1 - range.1)

theorem Ranges.mem_codes {ranges : Ranges} {c : Char} (h : ranges.has c = true) :
    c.toNat ∈ ranges.codes := by
  obtain ⟨range, hrange, hends⟩ := List.any_eq_true.mp h
  simp only [Bool.and_eq_true, decide_eq_true_eq] at hends
  refine List.mem_flatMap.mpr ⟨range, hrange, List.mem_range'_1.mpr ?_⟩
  omega

/-- What has to be looked up in the tables: nothing is mapped to a character that is itself mapped,
nor to a blank. -/
private theorem upperImages_checked :
    bitsAt ((imageCodes upperRuns upperSequences).map fun code => (Char.ofNat code).toNat) &&&
      bitsAt (mappedCodes upperRuns upperSequences ++ blankRanges.codes) = 0 := by
  decide +kernel

private theorem upperImage_not_mem {code : Nat}
    (h : code ∈ imageCodes upperRuns upperSequences) :
    (Char.ofNat code).toNat ∉ mappedCodes upperRuns upperSequences ∧
      (Char.ofNat code).toNat ∉ blankRanges.codes := by
  rw [← not_or, ← List.mem_append]
  exact not_mem_of_bitsAt upperImages_checked
    (List.mem_map_of_mem (f := fun code => (Char.ofNat code).toNat) h)

variable {c d : Char}

theorem upperChar_of_mem_upperChar (h : d ∈ upperChar c) : upperChar d = [d] := by
  rcases mem_mapCase h with ⟨code, hcode, rfl⟩ | ⟨hself, rfl⟩
  · exact mapCase_of_not_mem (upperImage_not_mem hcode).1
  · exact hself

theorem not_isBlank_of_mem_upperChar (hc : isBlank c = false) (hd : d ∈ upperChar c) :
    isBlank d = false := by
  rcases mem_mapCase hd with ⟨code, hcode, rfl⟩ | ⟨-, rfl⟩
  · apply Bool.eq_false_iff.mpr
    exact fun hblank => (upperImage_not_mem hcode).2 (Ranges.mem_codes hblank)
  · exact hc

/-- The small letters of ASCII are mapped to others, so that none of them is left. -/
theorem not_isLower_of_mem_upperChar (hd : d ∈ upperChar c) : d.isLower = false := by
  have hself := upperChar_of_mem_upperChar hd
  apply Bool.eq_false_iff.mpr
  intro hlower
  have hascii : d.toNat < 128 := toNat_lt_of_isAlpha (Bool.or_eq_true_iff.mpr (.inr hlower))
  have hno : d.toUpper.isLower = false :=
    forall_ascii (P := fun d => d.toUpper.isLower = false) (by decide +kernel) hascii
  rw [upperChar_of_ascii hascii, List.cons.injEq] at hself
  rw [hself.1, hlower] at hno
  cases hno

theorem upperChar_ne_nil (c : Char) : upperChar c ≠ [] := mapCase_ne_nil (by decide +kernel) c

/-- Writing a text in capitals twice is writing it in capitals once. -/
theorem upper_upper (text : String) : upper (upper text) = upper text := by
  have hfixed : ∀ c, (upperChar c).flatMap upperChar = upperChar c := by
    intro c
    rw [List.flatMap_congr fun d hd => upperChar_of_mem_upperChar hd]
    exact List.flatMap_singleton' _
  simp only [upper, String.toList_ofList, List.flatMap_assoc, hfixed]

end ControlTower.Text
