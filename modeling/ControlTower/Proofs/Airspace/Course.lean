import ControlTower.Airspace.Traffic
import ControlTower.Proofs.Airspace.Response

/-!
# The course of events in an airspace

In an airspace aircraft are called and time goes on. What an event does to the aircraft of a given
identifier depends on this aircraft alone, apart from the chart that it consults: a call is an order
to the one that is addressed, and nothing to all others; a tick is a tick for each of them, and
those that have landed leave.
-/

namespace ControlTower

inductive Event where
  | call (identifier : String) (mode : Mode) (instructions : List Instruction)
  | tick
deriving Repr, DecidableEq

def Mode.order : Mode → List Instruction → Order
  | .execute => .execute
  | .enqueue => .enqueue

@[simp] theorem Mode.instructions_order (mode : Mode) (instructions : List Instruction) :
    (mode.order instructions).instructions = instructions := by
  cases mode <;> rfl

namespace Airspace

/-- The airspace after an event. A call that nobody answers leaves it as it was. -/
def follow (space : Airspace) : Event → Airspace
  | .call identifier mode instructions =>
    ((space.call identifier mode instructions).map (·.2)).getD space
  | .tick => space.tick

/-- The airspaces that can come about: aircraft, airports and beacons are added, and events happen,
in any order. -/
inductive Built : Airspace → Prop where
  | empty : Built {}
  | withAircraft {space : Airspace} (aircraft : Aircraft) (h : Built space) :
      Built (space.withAircraft aircraft)
  | withAirport {space : Airspace} (code : String) (runways : List String) (h : Built space) :
      Built (space.withAirport code runways)
  | withBeacon {space : Airspace} (code : String) (h : Built space) : Built (space.withBeacon code)
  | follow {space : Airspace} (event : Event) (h : Built space) : Built (space.follow event)

end Airspace

namespace Aircraft

variable (aircraft : Aircraft)

theorem respond_order (mode : Mode) (instructions : List Instruction) :
    aircraft.respond (mode.order instructions) =
      (aircraft.instruct mode instructions).2 := by
  cases mode <;> rfl

theorem respond_order_of_refused {mode : Mode} {instructions : List Instruction}
    (h : (aircraft.instruct mode instructions).1 ≠ .ok ()) :
    aircraft.respond (mode.order instructions) = aircraft := by
  rw [respond_order]
  rcases aircraft.instruct_cases mode instructions with ⟨refusal, hanswer⟩ | ⟨after, hanswer⟩
  · rw [hanswer]
  · rw [hanswer] at h
    exact absurd rfl h

theorem respond_identifier (order : Order) :
    (aircraft.respond order).identifier = aircraft.identifier := by
  have hchange := aircraft.change_respond order
  generalize aircraft.respond order = after at hchange ⊢
  cases hchange with
  | rests | queues => rfl
  | begins | takesUp => exact begin_identifier _ _

end Aircraft

namespace Airspace

variable (space : Airspace) {identifier : String} {aircraft : Aircraft} {mode : Mode}
  {instructions : List Instruction}

/-- An aircraft that is called consults the chart of the airspace, answers, and is afterwards what it
makes of the order. -/
theorem call_of_find?_eq_some (h : space.fleet.find? identifier = some aircraft) :
    space.call identifier mode instructions = some
      ((Aircraft.instruct { aircraft with chart := space.chart } mode instructions).1,
        { space with
          fleet := space.fleet.modify identifier fun _ =>
            Aircraft.respond { aircraft with chart := space.chart }
              (mode.order instructions) }) := by
  rw [call, h, Option.map_some, Aircraft.respond_order]

theorem follow_call_of_find?_eq_none (h : space.fleet.find? identifier = none) :
    space.follow (.call identifier mode instructions) = space := by
  rw [follow, call, h]
  rfl

theorem follow_call_of_find?_eq_some (h : space.fleet.find? identifier = some aircraft) :
    space.follow (.call identifier mode instructions) =
      { space with
        fleet := space.fleet.modify identifier fun _ =>
          Aircraft.respond { aircraft with chart := space.chart } (mode.order instructions) } := by
  rw [follow, space.call_of_find?_eq_some h]
  rfl

theorem find?_follow_call (identifier : String) (mode : Mode) (instructions : List Instruction)
    (other : String) :
    (space.follow (.call identifier mode instructions)).fleet.find? other =
      (space.fleet.find? other).map fun aircraft =>
        if other = identifier then
          Aircraft.respond { aircraft with chart := space.chart } (mode.order instructions)
        else aircraft := by
  cases hfind : space.fleet.find? identifier with
  | none =>
    rw [space.follow_call_of_find?_eq_none hfind]
    by_cases hsame : other = identifier
    · rw [hsame, hfind, Option.map_none]
    · simp only [if_neg hsame, Option.map_id_fun', id_eq]
  | some called =>
    rw [space.follow_call_of_find?_eq_some hfind, CodeMap.find?_modify]
    by_cases hsame : other = identifier
    · rw [hsame, hfind, Option.map_some, Option.map_some, if_pos rfl]
    · simp only [if_neg hsame]

theorem find?_follow_tick (identifier : String) :
    (space.follow .tick).fleet.find? identifier =
      ((space.fleet.find? identifier).map Aircraft.tick).filter (·.state ≠ .landed) := by
  rw [follow, tick, CodeMap.find?_filterValues, CodeMap.find?_mapValues]

inductive Change (space : Airspace) (identifier : String) (before : Aircraft) :
    Event → Aircraft → Prop where
  | called (mode : Mode) (instructions : List Instruction) :
      Change space identifier before (.call identifier mode instructions)
        (Aircraft.respond { before with chart := space.chart } (mode.order instructions))
  /-- Another aircraft is called, or one that is not there. -/
  | uncalled {other : String} (mode : Mode) (instructions : List Instruction)
      (ne : identifier ≠ other) :
      Change space identifier before (.call other mode instructions) before
  /-- Time goes on, and the aircraft has not landed. -/
  | ticked (stays : before.tick.state ≠ .landed) :
      Change space identifier before .tick before.tick

theorem exists_change {event : Event}
    (h : (space.follow event).fleet.find? identifier = some aircraft) :
    ∃ before, space.fleet.find? identifier = some before ∧
      space.Change identifier before event aircraft := by
  cases event with
  | call called mode instructions =>
    rw [find?_follow_call, Option.map_eq_some_iff] at h
    obtain ⟨before, hbefore, rfl⟩ := h
    refine ⟨before, hbefore, ?_⟩
    split
    · next hsame =>
      subst hsame
      exact .called mode instructions
    · next hother => exact .uncalled mode instructions hother
  | tick =>
    rw [find?_follow_tick, Option.filter_eq_some_iff, Option.map_eq_some_iff] at h
    obtain ⟨⟨before, hbefore, rfl⟩, hstays⟩ := h
    exact ⟨before, hbefore, .ticked (by simpa using hstays)⟩

theorem exists_fleet_follow (event : Event) :
    ∃ fleet, space.follow event = { space with fleet } := by
  cases event with
  | call identifier mode instructions =>
    cases hfind : space.fleet.find? identifier with
    | none => exact ⟨space.fleet, space.follow_call_of_find?_eq_none hfind⟩
    | some called => exact ⟨_, space.follow_call_of_find?_eq_some hfind⟩
  | tick => exact ⟨_, rfl⟩

theorem exists_fleet_foldl_follow (events : List Event) :
    ∃ fleet, events.foldl follow space = { space with fleet } := by
  induction events generalizing space with
  | nil => exact ⟨space.fleet, rfl⟩
  | cons event events ih =>
    obtain ⟨fleet, hfleet⟩ := space.exists_fleet_follow event
    obtain ⟨after, hafter⟩ := ih (space.follow event)
    exact ⟨after, by rw [List.foldl_cons, hafter, hfleet]⟩

@[simp] theorem follow_chart (event : Event) : (space.follow event).chart = space.chart := by
  obtain ⟨fleet, hfleet⟩ := space.exists_fleet_follow event
  rw [hfleet]

theorem foldl_follow_chart (events : List Event) :
    (events.foldl follow space).chart = space.chart := by
  obtain ⟨fleet, hfleet⟩ := space.exists_fleet_foldl_follow events
  rw [hfleet]

theorem Built.identifier_eq {space : Airspace} (h : space.Built) {identifier : String}
    {aircraft : Aircraft} (hfind : space.fleet.find? identifier = some aircraft) :
    aircraft.identifier = identifier := by
  induction h generalizing aircraft with
  | empty => cases hfind
  | withAircraft added _ ih =>
    rw [Airspace.withAircraft, CodeMap.find?_insert] at hfind
    split at hfind
    · next heq =>
      rw [heq, Option.some.inj hfind]
    · exact ih hfind
  | withAirport _ _ _ ih => exact ih hfind
  | withBeacon _ _ ih => exact ih hfind
  | follow event _ ih =>
    obtain ⟨before, hbefore, hchange⟩ := exists_change _ hfind
    rw [← ih hbefore]
    cases hchange with
    | called => exact Aircraft.respond_identifier _ _
    | uncalled => rfl
    | ticked => exact before.respond_identifier .tick

theorem Built.foldl_follow {space : Airspace} (h : space.Built) (events : List Event) :
    (events.foldl Airspace.follow space).Built := by
  induction events generalizing space with
  | nil => exact h
  | cons event events ih => exact ih (h.follow event)

end Airspace

end ControlTower
