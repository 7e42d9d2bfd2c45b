import ControlTower.Desk.Completion
import ControlTower.Proofs.Airspace.Course
import ControlTower.Proofs.Text.Capitals

/-!
# Snapshots of a directory

The operator's terminal completes words by a gazetteer that was captured from the airspace, and the
console completes them by the airspace itself. Both offer the same, because the gazetteer lists what
the airspace lists and answers every question about runways in the same way. Codes of airports are
written in capitals when they are entered, once more when they are captured, and once more when they
are looked up; that capitals stay capitals is what makes this harmless.
-/

namespace ControlTower

structure Directory.Agree {First Second : Type} [Directory First] [Directory Second]
    (first : First) (second : Second) : Prop where
  aircraft : Directory.aircraft first = Directory.aircraft second
  airports : Directory.airports first = Directory.airports second
  /-- Whatever text is given for the airport. -/
  runways : ∀ airport, Directory.runways first airport = Directory.runways second airport
  beacons : Directory.beacons first = Directory.beacons second

namespace Completion

variable {First Second : Type} [Directory First] [Directory Second] {first : First}
  {second : Second}

theorem candidates_congr (h : Directory.Agree first second) (pool : Pool) :
    candidates first pool = candidates second pool := by
  cases pool with
  | systemCommands | commands => rfl
  | aircraft => exact h.aircraft
  | airports => exact h.airports
  | beacons => exact h.beacons
  | runways airport => exact h.runways airport

/-- What is completed depends on the lists of the directory only. -/
theorem complete?_congr (h : Directory.Agree first second) (glyphs : ControlGlyphs)
    (line : String) : complete? glyphs line first = complete? glyphs line second := by
  simp only [complete?, possible, candidates_congr h]

end Completion

def CodeMap.InCapitals {α : Type} (map : CodeMap α) : Prop :=
  ∀ code ∈ map.codes, Text.upper code = code

namespace CodeMap

variable {map : CodeMap (List String)}

theorem inCapitals_insert (h : map.InCapitals) (code : String) (value : List String) :
    (map.insert (Text.upper code) value).InCapitals := by
  intro other hother
  rcases mem_codes_insertEntry hother with rfl | hother
  · exact Text.upper_upper code
  · exact h other hother

/-- A table of which the codes are in capitals is made again from them and from what is found under
each. -/
theorem ofList_map_codes (h : map.InCapitals) :
    ofList (map.codes.map fun code =>
      (Text.upper code, (map.find? (Text.upper code)).getD [])) = map := by
  have hentry : ∀ entry ∈ map.entries,
      (Text.upper entry.1, (map.find? (Text.upper entry.1)).getD []) = entry := by
    intro entry hmem
    have hcapitals := h entry.1 (List.mem_map_of_mem hmem)
    rw [hcapitals, find?_of_mem_entries hmem]
    rfl
  have hentries : (map.codes.map fun code =>
      (Text.upper code, (map.find? (Text.upper code)).getD [])) = map.entries := by
    rw [codes, List.map_map]
    exact (List.map_congr_left hentry).trans (List.map_id _)
  rw [hentries, ofList_entries]

end CodeMap

namespace Gazetteer

/-- The gazetteers that can come about: aircraft, airports and beacons are added in any order, under
any texts. -/
inductive Built : Gazetteer → Prop where
  | empty : Built {}
  | withAircraft {gazetteer : Gazetteer} (identifier : String) (h : Built gazetteer) :
      Built (gazetteer.withAircraft identifier)
  | withAirport {gazetteer : Gazetteer} (code : String) (runways : List String)
      (h : Built gazetteer) : Built (gazetteer.withAirport code runways)
  | withBeacon {gazetteer : Gazetteer} (code : String) (h : Built gazetteer) :
      Built (gazetteer.withBeacon code)

theorem Built.inCapitals {gazetteer : Gazetteer} (h : gazetteer.Built) :
    gazetteer.airports.InCapitals := by
  induction h with
  | empty => exact List.forall_mem_nil _
  | withAirport code runways _ ih => exact CodeMap.inCapitals_insert ih code runways
  | withAircraft _ _ ih | withBeacon _ _ ih => exact ih

/-- A gazetteer is its own snapshot. -/
theorem Built.capture_eq {gazetteer : Gazetteer} (h : gazetteer.Built) :
    capture gazetteer = gazetteer := by
  have hairports : (capture gazetteer).airports = gazetteer.airports :=
    CodeMap.ofList_map_codes h.inCapitals
  cases gazetteer
  simp only [capture] at hairports ⊢
  rw [hairports]
  rfl

end Gazetteer

namespace Airspace

theorem Built.inCapitals {space : Airspace} (h : space.Built) : space.chart.InCapitals := by
  induction h with
  | empty => exact List.forall_mem_nil _
  | withAirport code runways _ ih => exact CodeMap.inCapitals_insert ih code (runways.map Text.upper)
  | withAircraft _ _ ih | withBeacon _ _ ih => exact ih
  | follow event _ ih => rwa [follow_chart]

theorem Built.agree_capture {space : Airspace} (h : space.Built) :
    Directory.Agree (Gazetteer.capture space) space := by
  have hairports : (Gazetteer.capture space).airports = space.chart :=
    CodeMap.ofList_map_codes h.inCapitals
  refine ⟨rfl, ?_, fun airport => ?_, rfl⟩
  · exact congrArg CodeMap.codes hairports
  · exact congrArg (fun chart : Chart => (chart.find? (Text.upper airport)).getD []) hairports

end Airspace

/-- A snapshot of an airspace lists what the airspace lists, a snapshot of a gazetteer is that
gazetteer, and words are completed alike by either, whatever texts have been entered as codes and
whatever is asked for. -/
theorem snapshot_completes_alike :
    (∀ space : Airspace, space.Built →
      Directory.Agree (Gazetteer.capture space) space ∧
        ∀ glyphs line, Completion.complete? glyphs line (Gazetteer.capture space) =
          Completion.complete? glyphs line space) ∧
    ∀ gazetteer : Gazetteer, gazetteer.Built →
      Gazetteer.capture gazetteer = gazetteer ∧
        Directory.Agree (Gazetteer.capture gazetteer) gazetteer ∧
        ∀ glyphs line, Completion.complete? glyphs line (Gazetteer.capture gazetteer) =
          Completion.complete? glyphs line gazetteer := by
  constructor
  · intro space built
    have hagree := built.agree_capture
    exact ⟨hagree, fun glyphs line => Completion.complete?_congr hagree glyphs line⟩
  · intro gazetteer built
    rw [built.capture_eq]
    exact ⟨rfl, ⟨rfl, rfl, fun _ => rfl, rfl⟩, fun _ _ => rfl⟩

/-- The code of an airport grows in capitals, and it is entered twice. -/
theorem snapshot_completes_alike_long_code :
    let space :=
      (((({} : Airspace).withAirport "straße" ["9l"]).withAirport "STRASSE" ["27r"]).withAircraft
        (.airborne "baw1234")).follow .tick
    let gazetteer :=
      ((({} : Gazetteer).withAirport "straße" ["9l"]).withAirport "Straße" ["27r"]).withAircraft
        "baw1234"
    space.Built ∧ gazetteer.Built ∧
      Directory.airports space = ["STRASSE"] ∧
      Directory.runways (Gazetteer.capture space) "straße" = ["27R"] ∧
      Completion.complete? {} "baw1234 land s" (Gazetteer.capture space) = some "TRASSE " ∧
      Gazetteer.capture gazetteer = gazetteer := by
  intro space gazetteer
  have hspace : space.Built :=
    .follow .tick (.withAircraft _ (.withAirport _ _ (.withAirport _ _ .empty)))
  have hgazetteer : gazetteer.Built :=
    .withAircraft _ (.withAirport _ _ (.withAirport _ _ .empty))
  have hairports : Directory.airports space = ["STRASSE"] := by decide +kernel
  have hrunways : Directory.runways space "straße" = ["27R"] := by decide +kernel
  have hcompleted : Completion.complete? {} "baw1234 land s" space = some "TRASSE " := by
    decide +kernel
  obtain ⟨hsnapshot, hself⟩ := snapshot_completes_alike
  obtain ⟨hagree, hcomplete⟩ := hsnapshot space hspace
  refine ⟨hspace, hgazetteer, hairports, ?_, ?_, (hself gazetteer hgazetteer).1⟩
  · rw [hagree.runways, hrunways]
  · rw [hcomplete, hcompleted]

end ControlTower
