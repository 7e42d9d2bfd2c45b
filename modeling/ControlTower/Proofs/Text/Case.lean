import ControlTower.Text.Alphanumeric
import ControlTower.Text.Blank
import ControlTower.Text.Casing

/-!
# What becomes of single characters in lower case

The tables of case are large, but little of what they say matters for the reading of a line: ASCII
is mapped as the core library maps it, blanks and the characters that may be control glyphs are left
alone, and nothing else is mapped to one of them. Each of these facts is a property of the tables
that is checked range by range, and is lifted from there to all characters.
-/

namespace ControlTower.Text

namespace Ranges

/-- Whether one of the ranges holds all code points from `first` to `last`. It is computed for whole
tables, and so by the comparison of numbers that the kernel evaluates at once. -/
def covers (ranges : Ranges) (first last : Nat) : Bool :=
  ranges.any fun range => range.1.ble first && last.ble range.2

theorem has_of_covers {ranges : Ranges} {first last : Nat} {c : Char}
    (h : ranges.covers first last = true) (hfirst : first ≤ c.toNat) (hlast : c.toNat ≤ last) :
    ranges.has c = true := by
  obtain ⟨range, hrange, hends⟩ := List.any_eq_true.mp h
  simp only [Bool.and_eq_true, Nat.ble_eq] at hends
  refine List.any_eq_true.mpr ⟨range, hrange, ?_⟩
  simp only [Bool.and_eq_true, decide_eq_true_eq]
  omega

/-- Whether each of the spans is held by one of the ranges. It is looked for from where the last one
was found, so that spans in ascending order take a single walk through the table. -/
def coversAll (ranges : Ranges) : Ranges → List (Nat × Nat) → Bool
  | _, [] => true
  | rest, (first, last) :: spans =>
    let ahead := rest.dropWhile fun range => range.2.blt first
    if covers (ahead.take 1) first last then ranges.coversAll ahead spans
    else ranges.covers first last && ranges.coversAll ranges spans

theorem covers_of_coversAll {ranges rest : Ranges} {spans : List (Nat × Nat)}
    (hrest : rest ⊆ ranges) (h : ranges.coversAll rest spans = true) :
    ∀ span ∈ spans, ranges.covers span.1 span.2 = true := by
  induction spans generalizing rest with
  | nil => exact List.forall_mem_nil _
  | cons span spans ih =>
    rw [coversAll] at h
    have hahead : (rest.dropWhile fun range => range.2.blt span.1) ⊆ ranges :=
      fun range hrange => hrest ((List.dropWhile_sublist _).subset hrange)
    rw [List.forall_mem_cons]
    split at h
    · next hfound =>
      obtain ⟨range, hrange, hends⟩ := List.any_eq_true.mp hfound
      have hspan : ranges.covers span.1 span.2 = true :=
        List.any_eq_true.mpr ⟨range, hahead (List.mem_of_mem_take hrange), hends⟩
      exact ⟨hspan, ih hahead h⟩
    · obtain ⟨hspan, hspans⟩ := Bool.and_eq_true_iff.mp h
      exact ⟨hspan, ih (List.Subset.refl _) hspans⟩

def disjoint (ranges others : Ranges) : Bool :=
  ranges.all fun range => others.all fun other => range.2.blt other.1 || other.2.blt range.1

theorem not_has_of_disjoint {ranges others : Ranges} {c : Char}
    (h : ranges.disjoint others = true) (hc : ranges.has c = true) : others.has c = false := by
  obtain ⟨range, hrange, hin⟩ := List.any_eq_true.mp hc
  apply Bool.eq_false_iff.mpr
  intro hother
  obtain ⟨other, hmem, hin'⟩ := List.any_eq_true.mp hother
  have hapart := List.all_eq_true.mp (List.all_eq_true.mp h range hrange) other hmem
  simp only [Bool.and_eq_true, Bool.or_eq_true, decide_eq_true_eq, Nat.blt_eq] at hin hin' hapart
  omega

end Ranges

namespace CaseRun

def members (run : CaseRun) : List Nat :=
  List.range' run.first ((run.last - run.first) / run.step + 1) run.step

theorem mem_members {run : CaseRun} {n : Nat} (h : run.has n = true) : n ∈ run.members := by
  simp only [has, Bool.and_eq_true, decide_eq_true_eq, beq_iff_eq] at h
  obtain ⟨⟨hfirst, hlast⟩, hstep⟩ := h
  rw [members, List.mem_range']
  refine ⟨(n - run.first) / run.step, ?_, ?_⟩
  · have := Nat.div_le_div_right (c := run.step) (Nat.sub_le_sub_right hlast run.first)
    omega
  · have := Nat.div_add_mod (n - run.first) run.step
    omega

end CaseRun

/-- A character is mapped by a run, is the one that the sequences list, or stays as it is. -/
theorem lowerChar_cases (c : Char) :
    (∃ run ∈ lowerRuns, run.has c.toNat = true ∧
      lowerChar c = [Char.ofNat (run.map c.toNat)]) ∨
    lowerChar c = ['i', '\u0307'] ∧ isAlphanumeric c = true ∨ lowerChar c = [c] := by
  unfold lowerChar mapCase
  split
  · next run hrun =>
    exact .inl ⟨run, List.mem_of_find?_eq_some hrun, by simpa using List.find?_some hrun, rfl⟩
  · split
    · next image himage =>
      obtain ⟨before, after, hsplit, -⟩ := List.lookup_eq_some_iff.mp himage
      have hentry : (c.toNat, image) ∈ lowerSequences := by simp [hsplit]
      obtain ⟨hcode, rfl⟩ : c.toNat = 304 ∧ image = [105, 775] := by
        simpa [lowerSequences] using hentry
      have hc : c = Char.ofNat 304 := by rw [← hcode, Char.ofNat_toNat]
      exact .inr (.inl ⟨rfl, by rw [hc]; decide⟩)
    · exact .inr (.inr rfl)

/-- What has to be looked up in the tables: runs lead from letters and numbers to letters and numbers,
and to none among the capitals of ASCII. -/
private theorem lowerRuns_checked :
    (alphanumericRanges.coversAll alphanumericRanges
      (lowerRuns.flatMap fun run => run.members.map fun n => (n, n)) = true ∧
    alphanumericRanges.coversAll alphanumericRanges
      (lowerRuns.map fun run => (run.image, run.map run.last)) = true) ∧
    ∀ run ∈ lowerRuns, 0x5A < run.image ∧
      (run.map run.last < 0xD800 ∨ 0xDFFF < run.image ∧ run.map run.last < 0x110000) := by
  decide +kernel

private theorem isAlphanumeric_of_has {run : CaseRun} (hrun : run ∈ lowerRuns) {c : Char}
    (h : run.has c.toNat = true) : isAlphanumeric c = true := by
  have hspan : (c.toNat, c.toNat) ∈
      lowerRuns.flatMap fun run => run.members.map fun n => (n, n) :=
    List.mem_flatMap.mpr ⟨run, hrun, List.mem_map_of_mem (CaseRun.mem_members h)⟩
  have hcovers :=
    Ranges.covers_of_coversAll (List.Subset.refl _) lowerRuns_checked.1.1 _ hspan
  exact Ranges.has_of_covers hcovers (Nat.le_refl _) (Nat.le_refl _)

private theorem toNat_image {run : CaseRun} (hrun : run ∈ lowerRuns) {n : Nat}
    (h : run.has n = true) :
    (Char.ofNat (run.map n)).toNat = run.map n ∧ run.image ≤ run.map n ∧
      run.map n ≤ run.map run.last := by
  obtain ⟨-, hvalid⟩ := lowerRuns_checked.2 run hrun
  simp only [CaseRun.has, Bool.and_eq_true, decide_eq_true_eq] at h
  simp only [CaseRun.map] at hvalid ⊢
  have hchar : (run.image + (n - run.first)).isValidChar := by
    unfold Nat.isValidChar
    omega
  refine ⟨?_, by omega, by omega⟩
  rw [Char.ofNat, dif_pos hchar]
  rfl

private theorem isAlphanumeric_image {run : CaseRun} (hrun : run ∈ lowerRuns) {n : Nat}
    (h : run.has n = true) : isAlphanumeric (Char.ofNat (run.map n)) = true := by
  have hspan : (run.image, run.map run.last) ∈
      lowerRuns.map fun run => (run.image, run.map run.last) :=
    List.mem_map_of_mem (f := fun run => (run.image, run.map run.last)) hrun
  have hcovers :=
    Ranges.covers_of_coversAll (List.Subset.refl _) lowerRuns_checked.1.2 _ hspan
  obtain ⟨hcode, hfirst, hlast⟩ := toNat_image hrun h
  exact Ranges.has_of_covers hcovers (by omega) (by omega)

theorem lowerChar_of_not_isAlphanumeric {c : Char} (h : isAlphanumeric c = false) :
    lowerChar c = [c] := by
  rcases lowerChar_cases c with ⟨run, hrun, hhas, -⟩ | ⟨-, hc⟩ | hc
  · rw [isAlphanumeric_of_has hrun hhas] at h
    cases h
  · rw [hc] at h
    cases h
  · exact hc

/-- Lower case begins with a character that is no letter and no number only where that character
itself stands. -/
theorem eq_of_lowerChar_eq_cons {c d : Char} {rest : List Char} (h : lowerChar c = d :: rest)
    (hd : isAlphanumeric d = false) : c = d := by
  rcases lowerChar_cases c with ⟨run, hrun, hhas, hc⟩ | ⟨hc, -⟩ | hc
  · rw [hc] at h
    cases h
    rw [isAlphanumeric_image hrun hhas] at hd
    cases hd
  · rw [hc] at h
    cases h
    have hi : isAlphanumeric 'i' = true := by decide
    rw [hi] at hd
    cases hd
  · rw [hc] at h
    cases h
    rfl

private theorem blankRanges_disjoint :
    blankRanges.disjoint alphanumericRanges = true ∧ blankRanges.disjoint casedRanges = true ∧
      blankRanges.disjoint caseIgnorableRanges = true := by
  decide +kernel

theorem not_isAlphanumeric_of_isBlank {c : Char} (h : isBlank c = true) :
    isAlphanumeric c = false :=
  Ranges.not_has_of_disjoint blankRanges_disjoint.1 h

theorem not_isCased_of_isBlank {c : Char} (h : isBlank c = true) : isCased c = false :=
  Ranges.not_has_of_disjoint blankRanges_disjoint.2.1 h

theorem not_isCaseIgnorable_of_isBlank {c : Char} (h : isBlank c = true) :
    isCaseIgnorable c = false :=
  Ranges.not_has_of_disjoint blankRanges_disjoint.2.2 h

theorem lowerChar_of_isBlank {c : Char} (h : isBlank c = true) : lowerChar c = [c] :=
  lowerChar_of_not_isAlphanumeric (not_isAlphanumeric_of_isBlank h)

theorem not_isBlank_of_mem_lowerChar {c d : Char} (hc : isBlank c = false)
    (hd : d ∈ lowerChar c) : isBlank d = false := by
  rcases lowerChar_cases c with ⟨run, hrun, hhas, h⟩ | ⟨h, -⟩ | h
  · rw [h, List.mem_singleton] at hd
    have himage := isAlphanumeric_image hrun hhas
    apply Bool.eq_false_iff.mpr
    intro hblank
    rw [← hd, not_isAlphanumeric_of_isBlank hblank] at himage
    cases himage
  · rw [h] at hd
    have hboth : d = 'i' ∨ d = '\u0307' := by simpa using hd
    rcases hboth with rfl | rfl <;> decide
  · rw [h, List.mem_singleton] at hd
    rwa [hd]

theorem lowerChar_ne_nil (c : Char) : lowerChar c ≠ [] := by
  rcases lowerChar_cases c with ⟨run, -, -, h⟩ | ⟨h, -⟩ | h <;> simp [h]

theorem forall_ascii {P : Char → Prop} (h : ∀ n < 128, P (Char.ofNat n)) {c : Char}
    (hc : c.toNat < 128) : P c := by
  have hn := h c.toNat hc
  rwa [Char.ofNat_toNat] at hn

/-- When only the first run reaches into ASCII, it alone decides what becomes of ASCII. -/
theorem mapCase_of_ascii {letters : CaseRun} {runs : List CaseRun}
    {sequences : List (Nat × List Nat)} (hruns : ∀ run ∈ runs, 128 ≤ run.first)
    (hsequences : ∀ entry ∈ sequences, 128 ≤ entry.1) {c : Char} (hc : c.toNat < 128) :
    mapCase (letters :: runs) sequences c =
      if letters.has c.toNat then [Char.ofNat (letters.map c.toNat)] else [c] := by
  have hfind : runs.find? (·.has c.toNat) = none := by
    apply List.find?_eq_none.mpr
    intro run hrun hhas
    have hfirst := hruns run hrun
    simp only [CaseRun.has, Bool.and_eq_true, decide_eq_true_eq] at hhas
    omega
  have hlookup : sequences.lookup c.toNat = none := by
    apply List.lookup_eq_none_iff.mpr
    intro entry hentry
    have hcode := hsequences entry hentry
    simp only [bne_iff_ne, ne_eq]
    omega
  unfold mapCase
  by_cases h : letters.has c.toNat = true
  · simp [h]
  · simp [h, hfind, hlookup]

theorem lowerChar_of_ascii {c : Char} (h : c.toNat < 128) : lowerChar c = [c.toLower] := by
  have hmap : lowerChar c = _ := mapCase_of_ascii (by decide +kernel) (by decide +kernel) h
  rw [hmap]
  exact forall_ascii (P := fun c => (if CaseRun.has ⟨0x41, 0x5A, 1, 0x61⟩ c.toNat then
    [Char.ofNat (CaseRun.map ⟨0x41, 0x5A, 1, 0x61⟩ c.toNat)] else [c]) = [c.toLower])
    (by decide +kernel) h

theorem upperChar_of_ascii {c : Char} (h : c.toNat < 128) : upperChar c = [c.toUpper] := by
  have hmap : upperChar c = _ := mapCase_of_ascii (by decide +kernel) (by decide +kernel) h
  rw [hmap]
  exact forall_ascii (P := fun c => (if CaseRun.has ⟨0x61, 0x7A, 1, 0x41⟩ c.toNat then
    [Char.ofNat (CaseRun.map ⟨0x61, 0x7A, 1, 0x41⟩ c.toNat)] else [c]) = [c.toUpper])
    (by decide +kernel) h

theorem toNat_le_of_isUpper {c : Char} (h : c.isUpper = true) : c.toNat ≤ 0x5A := by
  have hlast : c.val ≤ 90 := (of_decide_eq_true h).2
  exact UInt32.le_iff_toNat_le.mp hlast

theorem toNat_lt_of_isAlpha {c : Char} (h : c.isAlpha = true) : c.toNat < 128 := by
  rcases Bool.or_eq_true_iff.mp h with hupper | hlower
  · exact Nat.lt_of_le_of_lt (toNat_le_of_isUpper hupper) (by decide)
  · have hlast : c.val ≤ 122 := of_decide_eq_true (Bool.and_eq_true_iff.mp hlower).2
    exact Nat.lt_of_le_of_lt (UInt32.le_iff_toNat_le.mp hlast) (by decide)

theorem toNat_lt_of_isDigit {c : Char} (h : c.isDigit = true) : c.toNat < 128 := by
  have hlast : c.toNat ≤ 57 := (Char.isDigit_iff_toNat.mp h).2
  omega

theorem not_isAlpha_of_isDigit {c : Char} (h : c.isDigit = true) : c.isAlpha = false :=
  forall_ascii (P := fun c => c.isDigit = true → c.isAlpha = false) (by decide +kernel)
    (toNat_lt_of_isDigit h) h

theorem not_isUpper_of_mem_lowerChar {c d : Char} (hd : d ∈ lowerChar c) : d.isUpper = false := by
  rcases lowerChar_cases c with ⟨run, hrun, hhas, h⟩ | ⟨h, -⟩ | h
  · rw [h, List.mem_singleton] at hd
    rw [hd]
    obtain ⟨hcode, hfirst, -⟩ := toNat_image hrun hhas
    have habove := (lowerRuns_checked.2 run hrun).1
    apply Bool.eq_false_iff.mpr
    intro hupper
    have hcapital := toNat_le_of_isUpper hupper
    omega
  · rw [h] at hd
    have hboth : d = 'i' ∨ d = '\u0307' := by simpa using hd
    rcases hboth with rfl | rfl <;> decide
  · have hself : d = c := by rwa [h, List.mem_singleton] at hd
    rw [hself]
    apply Bool.eq_false_iff.mpr
    intro hupper
    have hascii : c.toNat < 128 := toNat_lt_of_isAlpha (Bool.or_eq_true_iff.mpr (.inl hupper))
    rw [lowerChar_of_ascii hascii, List.cons.injEq] at h
    have hno : c.toLower.isUpper = false :=
      forall_ascii (P := fun c => c.toLower.isUpper = false) (by decide +kernel) hascii
    rw [h.1, hupper] at hno
    cases hno

end ControlTower.Text
