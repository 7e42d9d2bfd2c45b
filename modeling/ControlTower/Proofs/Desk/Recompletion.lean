import ControlTower.Proofs.Desk.Completion
import ControlTower.Proofs.Desk.Context

/-!
# Completing once more

When a word is completed without being finished, the line with the addition is a line to complete
again. Nothing comes of that: the word is still taken for one of the same kind, the same candidates
go with it, and all that they have in common stands there already.
-/

namespace ControlTower

def Text.IsSolid (text : String) : Prop := ∀ c ∈ text.toList, isBlank c = false

instance (text : String) : Decidable (Text.IsSolid text) :=
  List.decidableBAll (fun c : Char => Text.isBlank c = false) text.toList

/-- All codes that a directory lists are of ASCII and without blanks, and no aircraft is called by a
word with a control glyph in front. -/
structure Directory.IsPlain {World : Type} [Directory World] (glyphs : ControlGlyphs)
    (world : World) : Prop extends Directory.IsAscii world where
  aircraft_solid : ∀ code ∈ Directory.aircraft world, Text.IsSolid code
  airports_solid : ∀ code ∈ Directory.airports world, Text.IsSolid code
  runways_solid : ∀ airport, ∀ code ∈ Directory.runways world airport, Text.IsSolid code
  beacons_solid : ∀ code ∈ Directory.beacons world, Text.IsSolid code
  aircraft_uncontrolled : ∀ code ∈ Directory.aircraft world,
    code.toList.head?.any glyphs.isControl = false

namespace Text

protected theorem IsSolid.upper {text : String} (h : IsSolid text) : IsSolid (upper text) := by
  intro d hd
  rw [Text.upper, String.toList_ofList] at hd
  obtain ⟨c, hc, hd⟩ := List.mem_flatMap.mp hd
  exact not_isBlank_of_mem_upperChar (h c hc) hd

/-- In capitals a text of ASCII begins with a character that is no letter and no number only where
it did before. -/
theorem IsAscii.head?_upper {text : String} (h : IsAscii text) {c : Char}
    (hc : isAlphanumeric c = false) (hhead : (upper text).toList.head? = some c) :
    text.toList.head? = some c := by
  rw [h.toList_upper, List.head?_map] at hhead
  obtain ⟨d, hd, rfl⟩ := Option.map_eq_some_iff.mp hhead
  have hletter : d.toUpper = d ∨ d.toUpper.isAlpha = true :=
    forall_ascii (P := fun d => d.toUpper = d ∨ d.toUpper.isAlpha = true) (by decide +kernel)
      (h d (List.mem_of_head? hd))
  rcases hletter with hkept | halpha
  · rwa [hkept]
  · rw [isAlphanumeric_of_isAlpha halpha] at hc
    cases hc

end Text

namespace Completion

variable {World : Type} [Directory World] {world : World} {glyphs : ControlGlyphs}
  {line addition : String} {fragment : Fragment}

theorem isSolid_of_mem_candidates (h : Directory.IsPlain glyphs world) {pool : Pool} {code : String}
    (hcode : code ∈ candidates world pool) : Text.IsSolid code := by
  have hnames : (∀ name ∈ SystemCommand.all.map SystemCommand.name, Text.IsSolid name) ∧
      ∀ name ∈ Command.all.map Command.name, Text.IsSolid name := by
    decide +kernel
  cases pool with
  | systemCommands => exact hnames.1 code hcode
  | commands => exact hnames.2 code hcode
  | aircraft => exact h.aircraft_solid code hcode
  | airports => exact h.airports_solid code hcode
  | beacons => exact h.beacons_solid code hcode
  | runways airport => exact h.runways_solid airport code hcode

theorem isSolid_of_mem_matching (h : Directory.IsPlain glyphs world) {entry : String}
    (hentry : entry ∈ matching world fragment) : Text.IsSolid entry := by
  obtain ⟨⟨code, hcode, rfl⟩, -⟩ := mem_matching_iff.mp hentry
  exact (isSolid_of_mem_candidates h hcode).upper

def extended (world : World) (fragment : Fragment) : Fragment :=
  { fragment with typed := Text.lower (Text.commonPrefix (matching world fragment)) }

/-- The same entries go with the longer word. -/
theorem matching_extended (hascii : Directory.IsAscii world) (hne : matching world fragment ≠ []) :
    matching world (extended world fragment) = matching world fragment := by
  have hgoes : ∀ entry ∈ matching world fragment, GoesWith fragment.typed entry :=
    fun entry => goesWith_of_mem_matching hascii
  refine List.filter_congr fun entry hentry => decide_eq_decide.mpr ⟨fun hlonger => ?_, fun h => ?_⟩
  · exact (typed_isPrefix_lower_commonPrefix hgoes hne).trans hlonger
  · have hmem : entry ∈ matching world fragment := List.mem_filter.mpr ⟨hentry, decide_eq_true h⟩
    exact (hgoes entry hmem).ascii.lower_isPrefix
      ((Text.isPrefix_commonPrefix_iff hne).mp List.prefix_rfl entry hmem)

theorem complete?_of_extended (hascii : Directory.IsAscii world)
    (hseveral : 2 ≤ (matching world fragment).length)
    (h : fragment? glyphs line = some (extended world fragment)) :
    complete? glyphs line world = none := by
  have hne : matching world fragment ≠ [] := List.ne_nil_of_length_pos (by omega)
  have hgoes : ∀ entry ∈ matching world fragment, GoesWith fragment.typed entry :=
    fun entry => goesWith_of_mem_matching hascii
  have hlength : (extended world fragment).typed.length =
      (Text.commonPrefix (matching world fragment)).toList.length := by
    rw [extended, ← String.length_toList, (isAscii_commonPrefix hgoes hne).length_toList_lower]
  rw [complete?_of_fragment? h, matching_extended hascii hne, certain?_of_two_le hseveral,
    Option.bind_some, hlength, List.drop_length]
  rfl

/-- What is added to a word without finishing it: several entries go with the word, and it is
completed by what they have in common. -/
structure Unfinished (world : World) (fragment : Fragment) (addition : String) : Prop where
  several : 2 ≤ (matching world fragment).length
  eq : addition = String.ofList
    ((Text.commonPrefix (matching world fragment)).toList.drop fragment.typed.length)

theorem exists_unfinished (hascii : Directory.IsAscii world)
    (h : complete? glyphs line world = some addition)
    (hpartial : addition.toList.getLast? ≠ some ' ') :
    ∃ fragment, fragment? glyphs line = some fragment ∧ Unfinished world fragment addition := by
  cases hfragment : fragment? glyphs line with
  | none =>
    rw [complete?, hfragment] at h
    cases h
  | some fragment =>
    refine ⟨fragment, rfl, ?_⟩
    rcases hmatching : matching world fragment with _ | ⟨only, _ | ⟨second, others⟩⟩
    · rw [complete?_of_fragment? hfragment, hmatching] at h
      cases h
    · rw [complete?_of_matching_singleton hascii hfragment hmatching] at h
      obtain rfl := Option.some.inj h
      simp at hpartial
    · have hseveral : 2 ≤ (matching world fragment).length := by simp [hmatching]
      have heq := getD_complete?_of_matching hfragment hseveral
      rw [h, Option.getD_some] at heq
      exact ⟨hseveral, heq⟩

namespace Unfinished

variable (h : Unfinished world fragment addition)

include h

theorem matching_ne_nil : matching world fragment ≠ [] :=
  List.ne_nil_of_length_pos (Nat.lt_of_lt_of_le Nat.zero_lt_two h.several)

theorem mem_commonPrefix {c : Char} (hc : c ∈ addition.toList) :
    ∀ entry ∈ matching world fragment, c ∈ entry.toList := by
  intro entry hentry
  rw [h.eq, String.toList_ofList] at hc
  have hstart := (Text.isPrefix_commonPrefix_iff h.matching_ne_nil).mp List.prefix_rfl entry hentry
  exact hstart.subset (List.mem_of_mem_drop hc)

theorem isAscii (hascii : Directory.IsAscii world) : Text.IsAscii addition := by
  obtain ⟨entry, hentry⟩ := List.exists_mem_of_ne_nil _ h.matching_ne_nil
  exact fun c hc => (goesWith_of_mem_matching hascii hentry).ascii c
    (h.mem_commonPrefix hc entry hentry)

theorem isSolid (hplain : Directory.IsPlain glyphs world) : Text.IsSolid addition := by
  obtain ⟨entry, hentry⟩ := List.exists_mem_of_ne_nil _ h.matching_ne_nil
  exact fun c hc => isSolid_of_mem_matching hplain hentry c (h.mem_commonPrefix hc entry hentry)

/-- The word with what has been added to it is what all entries have in common. -/
theorem lower_append (hascii : Directory.IsAscii world) {word : String}
    (hword : fragment.typed = Text.lower word) :
    Text.lower (word ++ addition) = Text.lower (Text.commonPrefix (matching world fragment)) := by
  have hgoes : ∀ entry ∈ matching world fragment, GoesWith fragment.typed entry :=
    fun entry => goesWith_of_mem_matching hascii
  obtain ⟨entry, hentry⟩ := List.exists_mem_of_ne_nil _ h.matching_ne_nil
  have htyped := (hgoes entry hentry).isAscii_typed
  have hkept := (hgoes entry hentry).lower_typed
  calc Text.lower (word ++ addition)
      = fragment.typed ++ Text.lower addition := by
        rw [Text.lower_append_of_ascii (hword ▸ htyped) (h.isAscii hascii), hword]
    _ = Text.lower (fragment.typed ++ addition) := by
        rw [Text.lower_append_of_ascii (by rwa [hkept]) (h.isAscii hascii), hkept]
    _ = Text.lower (Text.commonPrefix (matching world fragment)) := by
        rw [h.eq, lower_extended hgoes h.matching_ne_nil]

theorem head?_ne_system (hglyphs : glyphs.Apart) (hplain : Directory.IsPlain glyphs world)
    (hpool : fragment.pool = .aircraft) (htyped : fragment.typed = "") :
    addition.toList.head? ≠ some glyphs.system := by
  intro hhead
  have hsystem : glyphs.isControl glyphs.system = true := by simp [ControlGlyphs.isControl]
  obtain ⟨entry, hentry⟩ := List.exists_mem_of_ne_nil _ h.matching_ne_nil
  obtain ⟨⟨code, hcode, rfl⟩, -⟩ := mem_matching_iff.mp hentry
  have hstart := (Text.isPrefix_commonPrefix_iff h.matching_ne_nil).mp List.prefix_rfl _ hentry
  have hwhole : (Text.commonPrefix (matching world fragment)).toList = addition.toList := by
    rw [h.eq, htyped]
    simp
  rw [hpool] at hcode
  rw [hwhole] at hstart
  obtain ⟨rest, hrest⟩ := List.head?_eq_some_iff.mp hhead
  obtain ⟨after, hafter⟩ := hstart
  have hupper : (Text.upper code).toList.head? = some glyphs.system := by
    rw [← hafter, hrest]
    rfl
  have hfirst := (hplain.aircraft code hcode).head?_upper (hglyphs _ hsystem).1 hupper
  have hnot := hplain.aircraft_uncontrolled code hcode
  rw [hfirst, Option.any_some, hsystem] at hnot
  cases hnot

theorem poolAlone_append (hglyphs : glyphs.Apart) (hplain : Directory.IsPlain glyphs world)
    (hpool : fragment.pool = poolAlone glyphs line.toList.head?)
    (htyped : fragment.typed = Text.lower line) :
    poolAlone glyphs (line ++ addition).toList.head? = poolAlone glyphs line.toList.head? := by
  rw [String.toList_append]
  by_cases hempty : line.toList = []
  · rw [hempty] at hpool ⊢
    rw [String.toList_eq_nil_iff.mp hempty] at htyped
    have hnot := h.head?_ne_system hglyphs hplain hpool htyped
    rw [List.nil_append, poolAlone, if_neg hnot]
    rfl
  · rw [List.head?_append_of_ne_nil _ hempty]

/-- A word is still taken for one of the same kind when something has been added to it. -/
theorem fragment?_append (hglyphs : glyphs.Apart) (hplain : Directory.IsPlain glyphs world)
    (hfragment : fragment? glyphs line = some fragment) :
    fragment? glyphs (line ++ addition) = some (extended world fragment) := by
  have hends := Text.endsWith_lastWord line.toList
  generalize Text.lastWord line.toList = word at hends
  generalize htext : line.toList = text at hends
  cases hends with
  | only solid =>
    have hsolid : Text.IsSolid (line ++ addition) := by
      rw [Text.IsSolid, String.toList_append, htext, List.forall_mem_append]
      exact ⟨solid, h.isSolid hplain⟩
    have hline := hfragment.symm.trans (fragment?_of_solid hglyphs (htext ▸ solid))
    obtain rfl := Option.some.inj hline
    rw [fragment?_of_solid hglyphs hsolid, extended, h.lower_append hplain.toIsAscii rfl,
      h.poolAlone_append hglyphs hplain rfl rfl]
  | @behind before c word blank solid =>
    have hlonger : (line ++ addition).toList = before ++ c :: (word ++ addition.toList) := by
      rw [String.toList_append, htext, List.append_assoc, List.cons_append]
    have hsolid : ∀ d ∈ word ++ addition.toList, Text.isBlank d = false :=
      List.forall_mem_append.mpr ⟨solid, h.isSolid hplain⟩
    have hhead : (line ++ addition).toList.head? = line.toList.head? := by
      rw [String.toList_append, List.head?_append_of_ne_nil _ (by simp [htext])]
    have hline := hfragment.symm.trans (fragment?_of_behind hglyphs htext blank solid)
    obtain ⟨pool, hpool, rfl⟩ := Option.map_eq_some_iff.mp hline.symm
    have hjoined : String.ofList (word ++ addition.toList) = String.ofList word ++ addition := by
      rw [String.ofList_append, String.ofList_toList]
    rw [fragment?_of_behind hglyphs hlonger blank hsolid, hhead, hpool, hjoined,
      h.lower_append hplain.toIsAscii rfl]
    rfl

end Unfinished

/-- A word that has been completed without being finished is taken for one of the same kind, and
cannot be completed any further. -/
theorem completion_settles (rules : ReadingRules) (check : rules.check = .ok ()) (world : World)
    (hplain : Directory.IsPlain rules.glyphs world) (line addition : String)
    (h : complete? rules.glyphs line world = some addition)
    (hpartial : addition.toList.getLast? ≠ some ' ') :
    (fragment? rules.glyphs (line ++ addition)).map Fragment.pool =
        (fragment? rules.glyphs line).map Fragment.pool ∧
      complete? rules.glyphs (line ++ addition) world = none := by
  have hglyphs : rules.glyphs.Apart := (ReadingRules.glyphs_of_check check).2
  obtain ⟨fragment, hfragment, hunfinished⟩ := exists_unfinished hplain.toIsAscii h hpartial
  have hagain := hunfinished.fragment?_append hglyphs hplain hfragment
  refine ⟨?_, complete?_of_extended hplain.toIsAscii hunfinished.several hagain⟩
  rw [hagain, hfragment]
  rfl

theorem completion_settles_two_aircraft :
    let world : Gazetteer := { aircraft := ["baw1234", "BAW1299", "AFR7731"] }
    Directory.IsPlain ({} : ReadingRules).glyphs world ∧
      complete? {} ". B" world = some "AW12" ∧
      fragment? {} ". BAW12" = some { pool := .aircraft, typed := "baw12" } ∧
      complete? {} ". BAW12" world = none := by
  intro world
  have hplain : Directory.IsPlain ({} : ReadingRules).glyphs world := {
    aircraft := by decide
    airports := List.forall_mem_nil _
    runways := fun _ => List.forall_mem_nil _
    beacons := List.forall_mem_nil _
    aircraft_solid := by decide +kernel
    airports_solid := List.forall_mem_nil _
    runways_solid := fun _ => List.forall_mem_nil _
    beacons_solid := List.forall_mem_nil _
    aircraft_uncontrolled := by decide }
  have hcomplete : complete? {} ". B" world = some "AW12" := by decide +kernel
  have hfragment : fragment? {} ". BAW12" = some { pool := .aircraft, typed := "baw12" } := by
    decide +kernel
  obtain ⟨-, hnone⟩ := completion_settles {} (by decide +kernel) world hplain ". B" "AW12" hcomplete
    (by decide)
  exact ⟨hplain, hcomplete, hfragment, hnone⟩

end Completion

end ControlTower
