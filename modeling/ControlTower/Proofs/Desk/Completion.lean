import ControlTower.Desk.Completion
import ControlTower.Proofs.Text.Ascii
import ControlTower.Proofs.Text.Capitals

/-!
# What a completion adds

A word is completed as far as it is certain: by the rest of the only candidate that goes with what
has been typed, or by what all such candidates have in common. Candidates are picked out in lower
case, what they have in common is found in upper case, and the part that has been typed is counted
off in the case of the line. For candidates of ASCII the three agree, so that a completion keeps
every candidate, brings in no other, and cannot be longer.
-/

namespace ControlTower

structure Directory.IsAscii {World : Type} [Directory World] (world : World) : Prop where
  aircraft : ∀ code ∈ Directory.aircraft world, Text.IsAscii code
  airports : ∀ code ∈ Directory.airports world, Text.IsAscii code
  /-- Whatever text is given for the airport. -/
  runways : ∀ airport, ∀ code ∈ Directory.runways world airport, Text.IsAscii code
  beacons : ∀ code ∈ Directory.beacons world, Text.IsAscii code

namespace Completion

def wordInProgress (line : String) : String := String.ofList (Text.lastWord line.toList)

theorem getLast?_typedWords (text : String) :
    (typedWords text).getLast? = some (String.ofList (Text.lastWord text.toList)) := by
  rw [typedWords]
  by_cases hword : Text.lastWord text.toList = []
  · rw [if_pos (Text.lastWord_eq_nil_iff.mp hword), hword, List.getLast?_append]
    rfl
  · obtain ⟨others, hothers⟩ := Text.exists_wordsOf_eq_append hword
    rw [if_neg (mt Text.lastWord_eq_nil_iff.mpr hword), List.append_nil, Text.words_eq_map_wordsOf,
      hothers, List.map_append, List.getLast?_append]
    rfl

variable {glyphs : ControlGlyphs} {line : String} {fragment : Fragment}

theorem typed_of_fragment? (h : fragment? glyphs line = some fragment) :
    fragment.typed = Text.lower (wordInProgress line) := by
  have hlast := getLast?_typedWords (Text.lower line)
  rw [List.getLast?_eq_head?_reverse] at hlast
  unfold fragment? at h
  dsimp only at h
  split at h
  · cases h
  · next typed before hwords =>
    rw [hwords] at hlast
    obtain ⟨pool, -, rfl⟩ := Option.map_eq_some_iff.mp h
    have htyped : typed = _ := Option.some.inj hlast
    rw [htyped, wordInProgress, Text.lower, Text.lower, String.toList_ofList, String.toList_ofList,
      Text.lastWord_lowerFrom]

section

variable {World : Type} [Directory World] {world : World}

theorem isAscii_of_mem_candidates (h : Directory.IsAscii world) {pool : Pool} {code : String}
    (hcode : code ∈ candidates world pool) : Text.IsAscii code := by
  have hnames : (∀ name ∈ SystemCommand.all.map SystemCommand.name, Text.IsAscii name) ∧
      ∀ name ∈ Command.all.map Command.name, Text.IsAscii name := by
    decide +kernel
  cases pool with
  | systemCommands => exact hnames.1 code hcode
  | commands => exact hnames.2 code hcode
  | aircraft => exact h.aircraft code hcode
  | airports => exact h.airports code hcode
  | beacons => exact h.beacons code hcode
  | runways airport => exact h.runways airport code hcode

/-- The candidates that go with what has been typed, in capitals. -/
def matching (world : World) (fragment : Fragment) : List String :=
  ((candidates world fragment.pool).map Text.upper).filter fun entry =>
    fragment.typed.toList <+: (Text.lower entry).toList

theorem possible_eq_matching (world : World) (fragment : Fragment) :
    possible world fragment = matching world fragment :=
  List.filter_congr fun entry _ => by
    rw [Bool.eq_iff_iff, List.isPrefixOf_iff_prefix, decide_eq_true_eq]

theorem mem_matching_iff {entry : String} :
    entry ∈ matching world fragment ↔
      (∃ code ∈ candidates world fragment.pool, Text.upper code = entry) ∧
        fragment.typed.toList <+: (Text.lower entry).toList := by
  rw [matching, List.mem_filter, List.mem_map, decide_eq_true_eq]

theorem upper_mem_matching_iff (h : Directory.IsAscii world) {code : String}
    (hcode : code ∈ candidates world fragment.pool) :
    Text.upper code ∈ matching world fragment ↔
      fragment.typed.toList <+: (Text.lower code).toList := by
  rw [mem_matching_iff, (isAscii_of_mem_candidates h hcode).lower_upper]
  exact and_iff_right ⟨code, hcode, rfl⟩

end

structure GoesWith (typed entry : String) : Prop where
  ascii : Text.IsAscii entry
  capitals : Text.upper entry = entry
  begins : typed.toList <+: (Text.lower entry).toList

theorem goesWith_of_mem_matching {World : Type} [Directory World] {world : World}
    (h : Directory.IsAscii world) {entry : String} (hentry : entry ∈ matching world fragment) :
    GoesWith fragment.typed entry := by
  obtain ⟨⟨code, hcode, rfl⟩, hbegins⟩ := mem_matching_iff.mp hentry
  exact ⟨(isAscii_of_mem_candidates h hcode).upper, Text.upper_upper code, hbegins⟩

namespace GoesWith

variable {typed entry : String}

theorem isAscii_typed (h : GoesWith typed entry) : Text.IsAscii typed :=
  h.ascii.lower.of_isPrefix h.begins

theorem lower_typed (h : GoesWith typed entry) : Text.lower typed = typed := by
  have hstart := h.ascii.lower.lower_isPrefix h.begins
  rw [h.ascii.lower_lower] at hstart
  have hlength := h.isAscii_typed.length_toList_lower
  exact String.toList_injective
    ((List.prefix_of_prefix_length_le hstart h.begins hlength.le).eq_of_length hlength)

/-- The entry itself begins with what has been typed once that is in capitals. -/
theorem upper_typed (h : GoesWith typed entry) : (Text.upper typed).toList <+: entry.toList := by
  have hstart := h.ascii.lower.upper_isPrefix h.begins
  rwa [h.ascii.upper_lower, h.capitals] at hstart

theorem length_le (h : GoesWith typed entry) : typed.toList.length ≤ entry.toList.length := by
  rw [← h.isAscii_typed.length_toList_upper]
  exact h.upper_typed.length_le

end GoesWith

section

variable {typed : String} {entries : List String} (h : ∀ entry ∈ entries, GoesWith typed entry)
  (hne : entries ≠ [])

include h hne

theorem upper_typed_isPrefix_commonPrefix :
    (Text.upper typed).toList <+: (Text.commonPrefix entries).toList :=
  (Text.isPrefix_commonPrefix_iff hne).mpr fun entry hentry => (h entry hentry).upper_typed

theorem isAscii_commonPrefix : Text.IsAscii (Text.commonPrefix entries) := by
  obtain ⟨entry, hentry⟩ := List.exists_mem_of_ne_nil entries hne
  have hstart := (Text.isPrefix_commonPrefix_iff hne).mp List.prefix_rfl entry hentry
  exact (h entry hentry).ascii.of_isPrefix hstart

theorem typed_isPrefix_lower_commonPrefix :
    typed.toList <+: (Text.lower (Text.commonPrefix entries)).toList := by
  obtain ⟨entry, hentry⟩ := List.exists_mem_of_ne_nil entries hne
  have hgoes := h entry hentry
  have hstart := (isAscii_commonPrefix h hne).lower_isPrefix
    (upper_typed_isPrefix_commonPrefix h hne)
  rwa [hgoes.isAscii_typed.lower_upper, hgoes.lower_typed] at hstart

theorem length_le_length_commonPrefix :
    typed.length ≤ (Text.commonPrefix entries).length := by
  obtain ⟨entry, hentry⟩ := List.exists_mem_of_ne_nil entries hne
  have hlength := (h entry hentry).isAscii_typed.length_toList_upper
  rw [← String.length_toList, ← String.length_toList, ← hlength]
  exact (upper_typed_isPrefix_commonPrefix h hne).length_le

/-- What has been typed and what is added to it are together what all entries begin with, but for
case. -/
theorem lower_extended :
    Text.lower (typed ++ String.ofList ((Text.commonPrefix entries).toList.drop typed.length)) =
      Text.lower (Text.commonPrefix entries) := by
  obtain ⟨entry, hentry⟩ := List.exists_mem_of_ne_nil entries hne
  have htyped := (h entry hentry).isAscii_typed
  have hcommon := isAscii_commonPrefix h hne
  have hsplit : (Text.upper typed).toList ++ (Text.commonPrefix entries).toList.drop typed.length =
      (Text.commonPrefix entries).toList := by
    rw [← String.length_toList, ← htyped.length_toList_upper]
    exact List.prefix_iff_eq_append.mp (upper_typed_isPrefix_commonPrefix h hne)
  generalize (Text.commonPrefix entries).toList.drop typed.length = rest at hsplit
  have hextended : Text.IsAscii (typed ++ String.ofList rest) := by
    intro c hc
    rw [String.toList_append, String.toList_ofList, List.mem_append] at hc
    rcases hc with hc | hc
    · exact htyped c hc
    · exact hcommon c (hsplit ▸ List.mem_append_right _ hc)
  apply String.toList_injective
  rw [hextended.toList_lower, hcommon.toList_lower, ← hsplit, String.toList_append,
    String.toList_ofList, List.map_append, List.map_append, ← htyped.toList_lower,
    ← htyped.upper.toList_lower, htyped.lower_upper]

theorem length_extended :
    (typed ++ String.ofList ((Text.commonPrefix entries).toList.drop typed.length)).length =
      (Text.commonPrefix entries).length := by
  have hle := length_le_length_commonPrefix h hne
  rw [String.length_append, String.length_ofList, List.length_drop, String.length_toList]
  exact Nat.add_sub_of_le hle

/-- No word with which all entries begin is longer than what they have in common. -/
theorem length_le_of_beginsWith {word : String}
    (hword : ∀ entry ∈ entries, Text.BeginsWith entry word) :
    word.length ≤ (Text.commonPrefix entries).length := by
  have hcommon : (Text.upper (Text.lower word)).toList <+: (Text.commonPrefix entries).toList := by
    refine (Text.isPrefix_commonPrefix_iff hne).mpr fun entry hentry => ?_
    have hgoes := h entry hentry
    have hstart := hgoes.ascii.lower.upper_isPrefix (hword entry hentry)
    rwa [hgoes.ascii.upper_lower, hgoes.capitals] at hstart
  obtain ⟨entry, hentry⟩ := List.exists_mem_of_ne_nil entries hne
  have hlower := (h entry hentry).ascii.lower.of_isPrefix (hword entry hentry)
  rw [← String.length_toList, ← String.length_toList]
  calc word.toList.length ≤ (Text.lower word).toList.length := by
        rw [Text.lower, String.toList_ofList]
        exact Text.length_le_length_lowerFrom _ _
    _ = (Text.upper (Text.lower word)).toList.length := hlower.length_toList_upper.symm
    _ ≤ (Text.commonPrefix entries).toList.length := hcommon.length_le

end

section

variable {World : Type} [Directory World] {world : World}

theorem complete?_of_fragment? (h : fragment? glyphs line = some fragment) :
    complete? glyphs line world = (certain? (matching world fragment)).bind fun word =>
      let addition := word.toList.drop fragment.typed.length
      if addition.isEmpty then none else some (String.ofList addition) := by
  rw [complete?, h, ← possible_eq_matching]
  rfl

theorem complete?_of_matching_singleton (hascii : Directory.IsAscii world)
    (h : fragment? glyphs line = some fragment) {only : String}
    (hmatching : matching world fragment = [only]) :
    complete? glyphs line world =
      some (String.ofList (only.toList.drop fragment.typed.length) ++ " ") := by
  have hgoes : GoesWith fragment.typed only := goesWith_of_mem_matching hascii (by simp [hmatching])
  have hlength := hgoes.length_le
  rw [String.length_toList] at hlength
  rw [complete?_of_fragment? h, hmatching, certain?, Option.bind_some]
  simp [String.toList_append, List.drop_append_of_le_length hlength, String.ofList_append]

theorem certain?_of_two_le {entries : List String} (h : 2 ≤ entries.length) :
    certain? entries = some (Text.commonPrefix entries) := by
  match entries, h with
  | _ :: _ :: _, _ => rfl

theorem getD_complete?_of_matching (h : fragment? glyphs line = some fragment)
    (hseveral : 2 ≤ (matching world fragment).length) :
    (complete? glyphs line world).getD "" = String.ofList
      ((Text.commonPrefix (matching world fragment)).toList.drop fragment.typed.length) := by
  rw [complete?_of_fragment? h, certain?_of_two_le hseveral, Option.bind_some]
  dsimp only
  split
  · next hempty => simp [List.isEmpty_iff.mp hempty]
  · rfl

/-- What is added to a word is sound and as much as can be: nothing, when it cannot be told what is
being typed or no candidate goes with it; the rest of the only candidate and a blank; and of several
candidates so much that all of them still go with the word, that no other does, and that no longer
word would go with all of them. -/
theorem completion_keeps_candidates (world : World) (hascii : Directory.IsAscii world)
    (glyphs : ControlGlyphs) (line : String) :
    (fragment? glyphs line = none → complete? glyphs line world = none) ∧
    ∀ fragment, fragment? glyphs line = some fragment →
      fragment.typed = Text.lower (wordInProgress line) ∧
      (matching world fragment = [] → complete? glyphs line world = none) ∧
      (∀ only, matching world fragment = [only] →
        complete? glyphs line world =
          some (String.ofList (only.toList.drop fragment.typed.length) ++ " ")) ∧
      (2 ≤ (matching world fragment).length →
        let extended := fragment.typed ++ (complete? glyphs line world).getD ""
        (∀ entry ∈ matching world fragment, Text.BeginsWith entry extended) ∧
        (∀ code ∈ candidates world fragment.pool, Text.BeginsWith code extended →
          Text.upper code ∈ matching world fragment) ∧
        ∀ word, (∀ entry ∈ matching world fragment, Text.BeginsWith entry word) →
          word.length ≤ extended.length) := by
  constructor
  · intro hnone
    rw [complete?, hnone]
    rfl
  intro fragment hfragment
  refine ⟨typed_of_fragment? hfragment, fun hempty => ?_,
    fun only => complete?_of_matching_singleton hascii hfragment, ?_⟩
  · rw [complete?_of_fragment? hfragment, hempty]
    rfl
  intro hseveral extended
  have hgoes : ∀ entry ∈ matching world fragment, GoesWith fragment.typed entry :=
    fun entry => goesWith_of_mem_matching hascii
  have hne : matching world fragment ≠ [] := List.ne_nil_of_length_pos (by omega)
  have hlower : Text.lower extended = Text.lower (Text.commonPrefix (matching world fragment)) := by
    rw [← lower_extended hgoes hne, ← getD_complete?_of_matching hfragment hseveral]
  have hlength : extended.length = (Text.commonPrefix (matching world fragment)).length := by
    rw [← length_extended hgoes hne, ← getD_complete?_of_matching hfragment hseveral]
  refine ⟨fun entry hentry => ?_, fun code hcode hbegins => ?_, fun word hword => ?_⟩
  · rw [Text.BeginsWith, hlower]
    exact (hgoes entry hentry).ascii.lower_isPrefix
      ((Text.isPrefix_commonPrefix_iff hne).mp List.prefix_rfl entry hentry)
  · rw [upper_mem_matching_iff hascii hcode]
    rw [Text.BeginsWith, hlower] at hbegins
    exact (typed_isPrefix_lower_commonPrefix hgoes hne).trans hbegins
  · rw [hlength]
    exact length_le_of_beginsWith hgoes hne hword

end

theorem completion_keeps_candidates_two_aircraft :
    let world : Gazetteer := { aircraft := ["baw1234", "BAW1299", "AFR7731"] }
    let fragment : Fragment := { pool := .aircraft, typed := "b" }
    Directory.IsAscii world ∧
      fragment? {} "what is" = none ∧ complete? {} "what is" world = none ∧
      fragment? {} ". B" = some fragment ∧
      matching world fragment = ["BAW1234", "BAW1299"] ∧
      complete? {} ". B" world = some "AW12" ∧
      ∀ word, (∀ entry ∈ ["BAW1234", "BAW1299"], Text.BeginsWith entry word) →
        word.length ≤ "bAW12".length := by
  intro world fragment
  have hascii : Directory.IsAscii world :=
    ⟨by decide, List.forall_mem_nil _, fun _ => List.forall_mem_nil _, List.forall_mem_nil _⟩
  have hnone : fragment? {} "what is" = none := by decide +kernel
  have hfragment : fragment? {} ". B" = some fragment := by decide +kernel
  have hmatching : matching world fragment = ["BAW1234", "BAW1299"] := by decide +kernel
  have hcomplete : complete? {} ". B" world = some "AW12" := by decide +kernel
  obtain ⟨hnothing, -⟩ := completion_keeps_candidates world hascii {} "what is"
  obtain ⟨-, hsome⟩ := completion_keeps_candidates world hascii {} ". B"
  obtain ⟨-, -, -, hseveral⟩ := hsome fragment hfragment
  rw [hmatching, hcomplete] at hseveral
  obtain ⟨-, -, hlongest⟩ := hseveral (by decide)
  exact ⟨hascii, hnone, hnothing hnone, hfragment, hmatching, hcomplete, hlongest⟩

end Completion

end ControlTower
