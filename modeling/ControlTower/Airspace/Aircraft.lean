import ControlTower.Airspace.CodeMap
import ControlTower.Phraseology.Transmission

/-!
# Aircraft

An aircraft takes or refuses instructions as a pilot would. It has a state, numbers assigned to it,
a queue of what it has yet to do, limits to its performance, and a chart of the runways that it
knows. There is no model of flight: a maneuver lasts a fixed number of ticks.
-/

namespace ControlTower

/-- Airport codes with their runway codes, all in upper case. -/
abbrev Chart := CodeMap (List String)

def maneuverTicks : Nat := 2

def approachTicks : Nat := 3

structure Performance where
  /-- The greatest altitude, in metres. -/
  ceiling : Int := 8000
  /-- The least speed in the air, in metres a second. -/
  minSpeed : Int := 42
  /-- The greatest speed, in metres a second. -/
  maxSpeed : Int := 250
deriving Repr, DecidableEq

inductive FlightState where
  | parked
  /-- In the air with nothing to do. -/
  | cruising
  /-- Carrying out an instruction, with so many ticks left. -/
  | maneuvering (remaining : Nat)
  /-- Circling until told otherwise. -/
  | circling (direction : String)
  /-- On the approach to a runway, with so many ticks left. -/
  | approaching (airport runway : String) (remaining : Nat)
  /-- On the runway; the flight is over. -/
  | landed
deriving Repr, DecidableEq

inductive Refusal where
  | stillManeuvering
  | onGround
  | airborne
  | aboveCeiling
  | speedOutOfRange
  | runwayUnknown
  | circling
  | flightOver
deriving Repr, DecidableEq

def Refusal.message : Refusal → String
  | stillManeuvering => "Still maneuvering, please specify abort/append command"
  | onGround => "We are still on the ground!"
  | airborne => "We are already airborne!"
  | aboveCeiling => "That's above our service ceiling."
  | speedOutOfRange => "We can't fly at that speed."
  | runwayUnknown => "Unknown airport or runway."
  | circling => "This makes no sense... when should we stop circling?!"
  | flightOver => "Once landed, the flight is over!"

structure Aircraft where
  /-- The identifier, in upper case. -/
  identifier : String
  performance : Performance := {}
  state : FlightState := .cruising
  /-- The heading assigned, in degrees. -/
  heading : Int := 0
  /-- The altitude assigned, in metres. -/
  altitude : Int := 3000
  /-- The speed assigned, in metres a second. -/
  speed : Int := 120
  /-- The transmissions that wait to be carried out, the first of them first. -/
  queue : List (List Instruction) := []
  chart : Chart := .empty
deriving Repr, DecidableEq

namespace Aircraft

def airborne (identifier : String) : Aircraft := { identifier := Text.upper identifier }

def parked (identifier : String) : Aircraft :=
  { identifier := Text.upper identifier, state := .parked, altitude := 0, speed := 0 }

def isManeuvering (aircraft : Aircraft) : Bool :=
  match aircraft.state with
  | .maneuvering _ => true
  | _ => false

/-- The aircraft once it has been assigned what an instruction says. An argument that is missing
assigns nothing. -/
def assign (aircraft : Aircraft) (instruction : Instruction) : Aircraft :=
  match instruction.command with
  | .heading => { aircraft with heading := (instruction.number? 0).getD aircraft.heading }
  | .altitude => { aircraft with altitude := (instruction.number? 0).getD aircraft.altitude }
  | .speed => { aircraft with speed := (instruction.number? 0).getD aircraft.speed }
  | .takeoff =>
    { aircraft with
      altitude := (instruction.number? 0).getD aircraft.altitude
      speed := max aircraft.speed aircraft.performance.minSpeed }
  | .circle => { aircraft with state := .circling ((instruction.text? 0).getD "") }
  | .land =>
    { aircraft with
      state := .approaching (Text.upper ((instruction.text? 0).getD ""))
        (Text.upper ((instruction.text? 1).getD "")) approachTicks }
  | .abort => aircraft

/-- The aircraft once it has begun to carry out instructions. It is maneuvering then, unless one of
them tells it to circle or to land. -/
def begin (aircraft : Aircraft) (instructions : List Instruction) : Aircraft :=
  instructions.foldl assign { aircraft with state := .maneuvering maneuverTicks }

/-- The aircraft once it is free for what it has queued: it begins with the first transmission that
waits, and cruises when there is none. -/
def proceed (aircraft : Aircraft) : Aircraft :=
  match aircraft.queue with
  | [] => { aircraft with state := .cruising }
  | next :: queue => { aircraft with queue }.begin next

def tick (aircraft : Aircraft) : Aircraft :=
  match aircraft.state with
  | .maneuvering remaining =>
    if 1 < remaining then { aircraft with state := .maneuvering (remaining - 1) }
    else aircraft.proceed
  | .approaching airport runway remaining =>
    if 1 < remaining then { aircraft with state := .approaching airport runway (remaining - 1) }
    else { aircraft with state := .landed }
  | .cruising => aircraft.proceed
  | _ => aircraft

/-- The aircraft once it has given up what it was told: only the transmission that was queued last,
or all of them and what it is doing. -/
def giveUp (aircraft : Aircraft) (lastOnly : Bool) : Aircraft :=
  if lastOnly then { aircraft with queue := aircraft.queue.dropLast }
  else
    { aircraft with
      queue := []
      state := if aircraft.state = .parked then .parked else .cruising }

def knowsRunway (aircraft : Aircraft) (airport runway : String) : Bool :=
  ((aircraft.chart.find? (Text.upper airport)).getD []).contains (Text.upper runway)

def objection? (aircraft : Aircraft) (instruction : Instruction) : Option Refusal :=
  match instruction.command with
  | .altitude | .takeoff =>
    if (instruction.number? 0).any (aircraft.performance.ceiling < ·) then some .aboveCeiling
    else none
  | .speed =>
    if (instruction.number? 0).any fun speed =>
        speed < aircraft.performance.minSpeed || aircraft.performance.maxSpeed < speed then
      some .speedOutOfRange
    else none
  | .land =>
    if aircraft.knowsRunway ((instruction.text? 0).getD "") ((instruction.text? 1).getD "") then none
    else some .runwayUnknown
  | _ => none

/-- Refuses instructions of which one is not possible, for the reason that the first such gives. -/
def checkFeasible (aircraft : Aircraft) (instructions : List Instruction) : Except Refusal Unit :=
  match instructions.findSome? aircraft.objection? with
  | some refusal => .error refusal
  | none => .ok ()

/-- Refuses instructions to an aircraft on the ground that do not make it take off, and instructions
to take off in the air. -/
def checkGround (aircraft : Aircraft) (instructions : List Instruction) : Except Refusal Unit :=
  let takesOff := instructions.any (·.command = .takeoff)
  if aircraft.state = .parked then if takesOff then .ok () else .error .onGround
  else if takesOff then .error .airborne else .ok ()

/-- Refuses to queue anything behind a landing, or while the aircraft circles. -/
def checkQueue (aircraft : Aircraft) : Except Refusal Unit :=
  match aircraft.state with
  | .circling _ => .error .circling
  | .approaching _ _ _ | .landed => .error .flightOver
  | _ => .ok ()

/-- What an aircraft does that is spoken to: it may change, and it may refuse to go on. -/
abbrev Conduct := ExceptT Refusal (StateM Aircraft) Unit

def pass (check : Aircraft → Except Refusal Unit) : Conduct := do
  match check (← get) with
  | .ok () => pure ()
  | .error refusal => throw refusal

/-- Carries out instructions at once. The first instruction to abort overrides everything else. -/
def execute (instructions : List Instruction) : Conduct := do
  match instructions.find? (·.command = .abort) with
  | some abort => modify (·.giveUp (abort.hasFlag .lastOnly))
  | none =>
    if (← get).isManeuvering then throw .stillManeuvering
    pass (·.checkGround instructions)
    pass (·.checkFeasible instructions)
    modify (·.begin instructions)

def enqueue (instructions : List Instruction) : Conduct := do
  pass (·.checkFeasible instructions)
  pass (·.checkQueue)
  modify fun aircraft => { aircraft with queue := aircraft.queue ++ [instructions] }

/-- What an aircraft answers to instructions, and the aircraft afterwards. -/
abbrev Answer := Except Refusal Unit × Aircraft

@[match_pattern] abbrev Answer.ok (after : Aircraft) : Answer := (.ok (), after)

@[match_pattern] abbrev Answer.error {after : Aircraft} (refusal : Refusal) : Answer :=
  (.error refusal, after)

def Conduct.answer (conduct : Conduct) (aircraft : Aircraft) : Answer := conduct.run.run aircraft

def instruct (aircraft : Aircraft) (mode : Mode) (instructions : List Instruction) : Answer :=
  match mode with
  | .execute => (execute instructions).answer aircraft
  | .enqueue => (enqueue instructions).answer aircraft

end Aircraft

end ControlTower
