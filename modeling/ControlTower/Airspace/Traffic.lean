import ControlTower.Airspace.Aircraft
import ControlTower.Airspace.Directory

/-!
# The airspace

A console needs little of the world that it controls: that aircraft can be listed and called, and
that time goes on. An `Airspace` is such a world, made of aircraft, a chart of airports and their
runways, and beacons. Aircraft that have landed leave it.
-/

namespace ControlTower

class Traffic (World : Type) extends Directory World where
  /-- Gives instructions to the aircraft of the given identifier: what it answers, the text of a
  refusal or nothing, and the world afterwards. None when there is no such aircraft. -/
  call : World → String → Mode → List Instruction → Option (Except String Unit × World)
  tick : World → World

structure Airspace where
  fleet : CodeMap Aircraft := .empty
  chart : Chart := .empty
  beacons : List String := []
deriving Repr, DecidableEq

namespace Airspace

def withAircraft (space : Airspace) (aircraft : Aircraft) : Airspace :=
  { space with fleet := space.fleet.insert aircraft.identifier aircraft }

def withAirport (space : Airspace) (code : String) (runways : List String) : Airspace :=
  { space with chart := space.chart.insert (Text.upper code) (runways.map Text.upper) }

def withBeacon (space : Airspace) (code : String) : Airspace :=
  { space with beacons := space.beacons ++ [Text.upper code] }

def aircraft? (space : Airspace) (identifier : String) : Option Aircraft :=
  space.fleet.find? (Text.upper identifier)

/-- The airspace once an aircraft has been given instructions. The aircraft consults the chart of
the airspace, whether it takes the instructions or refuses them. -/
def call (space : Airspace) (identifier : String) (mode : Mode) (instructions : List Instruction) :
    Option (Except Refusal Unit × Airspace) :=
  (space.fleet.find? identifier).map fun aircraft =>
    let (answer, after) := { aircraft with chart := space.chart }.instruct mode instructions
    (answer, { space with fleet := space.fleet.modify identifier fun _ => after })

def tick (space : Airspace) : Airspace :=
  { space with
    fleet := (space.fleet.mapValues fun _ aircraft => aircraft.tick).filterValues
      (·.state ≠ .landed) }

instance : Directory Airspace where
  aircraft space := space.fleet.codes
  airports space := space.chart.codes
  runways space code := (space.chart.find? (Text.upper code)).getD []
  beacons := Airspace.beacons

instance : Traffic Airspace where
  call space identifier mode instructions :=
    (space.call identifier mode instructions).map fun answer =>
      (answer.1.mapError Refusal.message, answer.2)
  tick := Airspace.tick

def standard : Airspace :=
  ({} : Airspace)
    |>.withAirport "LHR" ["09L", "09R", "27L", "27R"]
    |>.withAirport "LGW" ["08R", "26L"]
    |>.withAirport "STN" ["04", "22"]
    |>.withBeacon "DOVER"
    |>.withBeacon "DETLING"
    |>.withBeacon "BIGGIN"
    |>.withBeacon "LAMBOURNE"
    |>.withAircraft { Aircraft.airborne "BAW1234" with heading := 90 }
    |>.withAircraft { Aircraft.airborne "BAW1299" with heading := 270 }
    |>.withAircraft { Aircraft.airborne "AFR7731" with heading := 180 }
    |>.withAircraft (Aircraft.parked "EZY0042")

end Airspace

end ControlTower
