import ControlTower.Airspace.CodeMap
import ControlTower.Text.Casing

/-!
# Directories

What an operator may refer to: the aircraft, the airports with their runways, and the beacons. Any
world that can list these is a `Directory`. A `Gazetteer` is a directory that holds nothing else,
and a gazetteer captured from a directory answers as the directory did at that time.
-/

namespace ControlTower

class Directory (World : Type) where
  aircraft : World → List String
  airports : World → List String
  /-- The codes of the runways of an airport; none for an airport that is not known. -/
  runways : World → String → List String
  beacons : World → List String

/-- A fixed list of what an operator may refer to. The airports are listed under their codes in
upper case. -/
structure Gazetteer where
  aircraft : List String := []
  airports : CodeMap (List String) := .empty
  beacons : List String := []
deriving Repr, DecidableEq

namespace Gazetteer

def withAircraft (gazetteer : Gazetteer) (identifier : String) : Gazetteer :=
  { gazetteer with aircraft := gazetteer.aircraft ++ [identifier] }

def withAirport (gazetteer : Gazetteer) (code : String) (runways : List String) : Gazetteer :=
  { gazetteer with airports := gazetteer.airports.insert (Text.upper code) runways }

def withBeacon (gazetteer : Gazetteer) (code : String) : Gazetteer :=
  { gazetteer with beacons := gazetteer.beacons ++ [code] }

instance : Directory Gazetteer where
  aircraft := Gazetteer.aircraft
  airports gazetteer := gazetteer.airports.codes
  runways gazetteer code := (gazetteer.airports.find? (Text.upper code)).getD []
  beacons := Gazetteer.beacons

def capture {World : Type} [Directory World] (world : World) : Gazetteer where
  aircraft := Directory.aircraft world
  airports := .ofList <| (Directory.airports world).map fun code =>
    (Text.upper code, Directory.runways world code)
  beacons := Directory.beacons world

end Gazetteer

end ControlTower
