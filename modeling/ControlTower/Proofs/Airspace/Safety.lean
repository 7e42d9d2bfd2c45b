import ControlTower.Proofs.Airspace.Course

/-!
# Safety in an airspace

An aircraft is asked whether instructions are possible when it takes them. What it queues it begins
with later, in a state that nobody knew then, and a takeoff sets the speed without any check. Still
no aircraft is led beyond its limits or to a runway that is not on the chart. The invariant that
carries this says that whatever waits is possible by the chart of the airspace.
-/

namespace ControlTower

structure Performance.Consistent (performance : Performance) : Prop where
  minSpeed_le : performance.minSpeed ≤ performance.maxSpeed
  maxSpeed_nonneg : 0 ≤ performance.maxSpeed

def FlightState.Proper (chart : Chart) : FlightState → Prop
  | .maneuvering remaining => 1 ≤ remaining ∧ remaining ≤ maneuverTicks
  | .approaching airport runway remaining =>
    (∃ runways, chart.find? airport = some runways ∧ runway ∈ runways) ∧
      1 ≤ remaining ∧ remaining ≤ approachTicks
  | .landed => False
  | .parked | .cruising | .circling _ => True

namespace Aircraft

def WithinSpeed (aircraft : Aircraft) : Prop :=
  aircraft.performance.minSpeed ≤ aircraft.speed ∧ aircraft.speed ≤ aircraft.performance.maxSpeed

structure Safe (chart : Chart) (aircraft : Aircraft) : Prop where
  altitude_le : aircraft.altitude ≤ aircraft.performance.ceiling
  withinSpeed : aircraft.state ≠ .parked → aircraft.WithinSpeed
  proper : aircraft.state.Proper chart

/-- An aircraft as an airspace may receive it: it stands on the ground or cruises, and has nothing
to do yet. -/
structure Ready (aircraft : Aircraft) : Prop where
  standing : aircraft.state = .parked ∧ aircraft.speed = 0 ∨
    aircraft.state = .cruising ∧ aircraft.WithinSpeed
  queue_eq : aircraft.queue = []
  altitude_le : aircraft.altitude ≤ aircraft.performance.ceiling
  consistent : aircraft.performance.Consistent

end Aircraft

def Instruction.Feasible (performance : Performance) (chart : Chart) (instruction : Instruction) :
    Prop :=
  match instruction.command with
  | .altitude | .takeoff => ∀ altitude ∈ instruction.number? 0, altitude ≤ performance.ceiling
  | .speed => ∀ speed ∈ instruction.number? 0,
      performance.minSpeed ≤ speed ∧ speed ≤ performance.maxSpeed
  | .land => ∃ runways,
      chart.find? (Text.upper ((instruction.text? 0).getD "")) = some runways ∧
        Text.upper ((instruction.text? 1).getD "") ∈ runways
  | .heading | .circle | .abort => True

namespace Aircraft

variable {aircraft after : Aircraft} {instruction : Instruction} {instructions : List Instruction}
  {chart : Chart}

theorem knowsRunway_iff {airport runway : String} :
    aircraft.knowsRunway airport runway = true ↔
      ∃ runways, aircraft.chart.find? (Text.upper airport) = some runways ∧
        Text.upper runway ∈ runways := by
  unfold knowsRunway
  cases aircraft.chart.find? (Text.upper airport) <;> simp

theorem objection?_eq_none_iff :
    aircraft.objection? instruction = none ↔
      instruction.Feasible aircraft.performance aircraft.chart := by
  unfold objection? Instruction.Feasible
  cases instruction.command with
  | heading | circle | abort => simp
  | altitude | takeoff => cases instruction.number? 0 <;> simp
  | speed => cases instruction.number? 0 <;> simp
  | land =>
    simp only [← knowsRunway_iff]
    split <;> simp [*]

theorem feasible_of_checkFeasible (h : aircraft.checkFeasible instructions = .ok ()) :
    ∀ instruction ∈ instructions, instruction.Feasible aircraft.performance aircraft.chart :=
  fun instruction hmem => objection?_eq_none_iff.mp (checkFeasible_eq_ok_iff.mp h instruction hmem)

theorem altitude_le_assign (h : aircraft.altitude ≤ aircraft.performance.ceiling)
    (hfeasible : instruction.Feasible aircraft.performance chart) :
    (aircraft.assign instruction).altitude ≤ aircraft.performance.ceiling := by
  unfold Instruction.Feasible at hfeasible
  cases hcommand : instruction.command with
  | heading | speed | land | circle | abort => simpa only [assign, hcommand] using h
  | altitude | takeoff =>
    simp only [hcommand] at hfeasible
    simp only [assign, hcommand]
    cases hnumber : instruction.number? 0 with
    | none => exact h
    | some altitude => exact hfeasible altitude hnumber

theorem WithinSpeed.assign (h : aircraft.WithinSpeed)
    (hfeasible : instruction.Feasible aircraft.performance chart) :
    (aircraft.assign instruction).WithinSpeed := by
  unfold Instruction.Feasible at hfeasible
  unfold WithinSpeed at h ⊢
  cases hcommand : instruction.command with
  | heading | altitude | land | circle | abort => simpa only [Aircraft.assign, hcommand] using h
  | takeoff =>
    simp only [Aircraft.assign, hcommand]
    omega
  | speed =>
    simp only [hcommand] at hfeasible
    simp only [Aircraft.assign, hcommand]
    cases hnumber : instruction.number? 0 with
    | none => exact h
    | some speed => exact hfeasible speed hnumber

/-- A takeoff gives an aircraft the speed to fly, whether or not it had it. -/
theorem withinSpeed_assign_takeoff (hconsistent : aircraft.performance.Consistent)
    (h : aircraft.speed = 0 ∨ aircraft.WithinSpeed) (hcommand : instruction.command = .takeoff) :
    (aircraft.assign instruction).WithinSpeed := by
  obtain ⟨hle, hnonneg⟩ := hconsistent
  simp only [WithinSpeed, assign, hcommand] at h ⊢
  omega

theorem speed_assign (hconsistent : aircraft.performance.Consistent)
    (h : aircraft.speed = 0 ∨ aircraft.WithinSpeed)
    (hfeasible : instruction.Feasible aircraft.performance chart) :
    (aircraft.assign instruction).speed = 0 ∨ (aircraft.assign instruction).WithinSpeed := by
  rcases h with hzero | hwithin
  · cases hcommand : instruction.command with
    | heading | altitude | land | circle | abort =>
      exact .inl (by simpa only [assign, hcommand] using hzero)
    | takeoff => exact .inr (withinSpeed_assign_takeoff hconsistent (.inl hzero) hcommand)
    | speed =>
      unfold Instruction.Feasible at hfeasible
      simp only [hcommand] at hfeasible
      cases hnumber : instruction.number? 0 with
      | none => exact .inl (by simpa [assign, hcommand, hnumber] using hzero)
      | some speed =>
        exact .inr (by simpa [WithinSpeed, assign, hcommand, hnumber] using hfeasible speed hnumber)
  · exact .inr (hwithin.assign hfeasible)

theorem proper_assign (h : aircraft.state.Proper chart) (hparked : aircraft.state ≠ .parked)
    (hfeasible : instruction.Feasible aircraft.performance chart) :
    (aircraft.assign instruction).state.Proper chart ∧
      (aircraft.assign instruction).state ≠ .parked := by
  unfold Instruction.Feasible at hfeasible
  cases hcommand : instruction.command with
  | heading | altitude | speed | takeoff | abort =>
    simpa only [assign, hcommand] using And.intro h hparked
  | circle => simp [assign, hcommand, FlightState.Proper]
  | land =>
    simp only [hcommand] at hfeasible
    simp only [assign, hcommand]
    exact ⟨⟨hfeasible, by decide, Nat.le_refl _⟩, by simp⟩

/-- What is true of an aircraft between two of the instructions with which it begins. Whether it is
fast enough to fly is left open, since it may still have to take off. -/
structure Underway (chart : Chart) (aircraft : Aircraft) : Prop where
  altitude_le : aircraft.altitude ≤ aircraft.performance.ceiling
  speed : aircraft.speed = 0 ∨ aircraft.WithinSpeed
  proper : aircraft.state.Proper chart
  not_parked : aircraft.state ≠ .parked
  consistent : aircraft.performance.Consistent

theorem Underway.foldl_assign (h : aircraft.Underway chart)
    (hfeasible : ∀ instruction ∈ instructions, instruction.Feasible aircraft.performance chart) :
    (instructions.foldl assign aircraft).Underway chart := by
  induction instructions generalizing aircraft with
  | nil => exact h
  | cons instruction instructions ih =>
    obtain ⟨hfirst, hothers⟩ := List.forall_mem_cons.mp hfeasible
    obtain ⟨hproper, hparked⟩ := proper_assign h.proper h.not_parked hfirst
    refine ih ⟨?_, speed_assign h.consistent h.speed hfirst, hproper, hparked, ?_⟩ ?_
    · simpa using altitude_le_assign h.altitude_le hfirst
    · simpa using h.consistent
    · simpa using hothers

theorem WithinSpeed.foldl_assign (h : aircraft.WithinSpeed)
    (hfeasible : ∀ instruction ∈ instructions, instruction.Feasible aircraft.performance chart) :
    (instructions.foldl Aircraft.assign aircraft).WithinSpeed := by
  induction instructions generalizing aircraft with
  | nil => exact h
  | cons instruction instructions ih =>
    obtain ⟨hfirst, hothers⟩ := List.forall_mem_cons.mp hfeasible
    exact ih (h.assign hfirst) (by simpa using hothers)

/-- An aircraft that takes off is fast enough to fly from then on. -/
theorem Underway.withinSpeed_foldl_assign (h : aircraft.Underway chart)
    (hfeasible : ∀ instruction ∈ instructions, instruction.Feasible aircraft.performance chart)
    (htakeoff : ∃ instruction ∈ instructions, instruction.command = .takeoff) :
    (instructions.foldl Aircraft.assign aircraft).WithinSpeed := by
  obtain ⟨takeoff, hmem, hcommand⟩ := htakeoff
  -- Up to the takeoff the speed may still be too low; from then on no instruction can make it so.
  obtain ⟨before, after, rfl⟩ := List.append_of_mem hmem
  obtain ⟨hbefore, hrest⟩ := List.forall_mem_append.mp hfeasible
  have hstart : (before.foldl assign aircraft).Underway chart := h.foldl_assign hbefore
  have hairborne : ((before.foldl assign aircraft).assign takeoff).WithinSpeed :=
    withinSpeed_assign_takeoff hstart.consistent hstart.speed hcommand
  have hperformance : (before.foldl assign aircraft).performance = aircraft.performance :=
    foldl_assign_eq _ fun instruction _ a => assign_performance a instruction
  have hafter : ∀ instruction ∈ after, instruction.Feasible
      ((before.foldl assign aircraft).assign takeoff).performance chart := by
    rw [assign_performance, hperformance]
    exact (List.forall_mem_cons.mp hrest).2
  rw [List.foldl_append, List.foldl_cons]
  exact hairborne.foldl_assign hafter

/-- An aircraft is safe and will be when it has begun with what waits: all of it is possible. -/
structure Sound (chart : Chart) (aircraft : Aircraft) : Prop extends aircraft.Safe chart where
  standing : aircraft.state = .parked → aircraft.speed = 0
  consistent : aircraft.performance.Consistent
  waiting : ∀ transmission ∈ aircraft.queue, ∀ instruction ∈ transmission,
    instruction.Feasible aircraft.performance chart

theorem Ready.sound (h : aircraft.Ready) (chart : Chart) : aircraft.Sound chart := by
  have hwaiting : ∀ transmission ∈ aircraft.queue, ∀ instruction ∈ transmission,
      instruction.Feasible aircraft.performance chart := by simp [h.queue_eq]
  rcases h.standing with ⟨hstate, hspeed⟩ | ⟨hstate, hspeed⟩
  · refine ⟨⟨h.altitude_le, fun hparked => absurd hstate hparked, ?_⟩, fun _ => hspeed,
      h.consistent, hwaiting⟩
    rw [hstate]
    trivial
  · refine ⟨⟨h.altitude_le, fun _ => hspeed, ?_⟩, fun hparked => ?_, h.consistent, hwaiting⟩
    · rw [hstate]
      trivial
    · rw [hstate] at hparked
      cases hparked

namespace Sound

theorem inform (h : aircraft.Sound chart) (other : Chart) :
    Sound chart { aircraft with chart := other } :=
  ⟨⟨h.altitude_le, h.withinSpeed, h.proper⟩, h.standing, h.consistent, h.waiting⟩

theorem withQueue (h : aircraft.Sound chart) {queue : List (List Instruction)}
    (hqueue : ∀ transmission ∈ queue, ∀ instruction ∈ transmission,
      instruction.Feasible aircraft.performance chart) : Sound chart { aircraft with queue } :=
  ⟨⟨h.altitude_le, h.withinSpeed, h.proper⟩, h.standing, h.consistent, hqueue⟩

theorem withState (h : aircraft.Sound chart) (hflying : aircraft.state ≠ .parked)
    {state : FlightState} (hparked : state ≠ .parked) (hproper : state.Proper chart) :
    Sound chart { aircraft with state } :=
  ⟨⟨h.altitude_le, fun _ => h.withinSpeed hflying, hproper⟩, fun heq => absurd heq hparked,
    h.consistent, h.waiting⟩

theorem begin (h : aircraft.Sound chart)
    (hfeasible : ∀ instruction ∈ instructions, instruction.Feasible aircraft.performance chart)
    (hground : aircraft.state = .parked →
      ∃ instruction ∈ instructions, instruction.command = .takeoff) :
    (aircraft.begin instructions).Sound chart := by
  have hproper : FlightState.Proper chart (.maneuvering maneuverTicks) := ⟨by decide, Nat.le_refl _⟩
  have hspeed : aircraft.speed = 0 ∨ aircraft.WithinSpeed := by
    by_cases hparked : aircraft.state = .parked
    · exact .inl (h.standing hparked)
    · exact .inr (h.withinSpeed hparked)
  have hstart : Underway chart { aircraft with state := .maneuvering maneuverTicks } :=
    ⟨h.altitude_le, hspeed, hproper, by simp, h.consistent⟩
  have hunderway : (aircraft.begin instructions).Underway chart := hstart.foldl_assign hfeasible
  have hwithin : (aircraft.begin instructions).WithinSpeed := by
    by_cases hparked : aircraft.state = .parked
    · exact hstart.withinSpeed_foldl_assign hfeasible (hground hparked)
    · exact WithinSpeed.foldl_assign (h.withinSpeed hparked) hfeasible
  refine ⟨⟨hunderway.altitude_le, fun _ => hwithin, hunderway.proper⟩,
    fun hparked => absurd hparked hunderway.not_parked, hunderway.consistent, ?_⟩
  rw [begin_queue, begin_performance]
  exact h.waiting

theorem giveUp (h : aircraft.Sound chart) (lastOnly : Bool) :
    (aircraft.giveUp lastOnly).Sound chart := by
  unfold Aircraft.giveUp
  split
  · exact h.withQueue fun transmission hmem => h.waiting transmission (List.dropLast_subset _ hmem)
  · have hempty : Sound chart { aircraft with queue := [] } := h.withQueue (by simp)
    by_cases hparked : aircraft.state = .parked
    · simpa only [hparked, if_true] using hempty
    · rw [if_neg hparked]
      exact hempty.withState hparked (by simp) trivial

theorem respond_order (h : aircraft.Sound chart) (hchart : aircraft.chart = chart) (mode : Mode)
    (instructions : List Instruction) :
    (aircraft.respond (mode.order instructions)).Sound chart := by
  cases mode with
  | execute =>
    rw [Mode.order]
    have hexecution := aircraft.execution instructions
    generalize aircraft.respond (.execute instructions) = after at hexecution ⊢
    cases hexecution with
    | refused => exact h
    | gaveUp => exact h.giveUp _
    | begun _ _ _ hground hfeasible =>
      exact h.begin (hchart ▸ feasible_of_checkFeasible hfeasible)
        (checkGround_eq_ok_iff.mp hground).mp
  | enqueue =>
    rw [Mode.order]
    have hqueuing := aircraft.queuing instructions
    generalize aircraft.respond (.enqueue instructions) = after at hqueuing ⊢
    cases hqueuing with
    | refused => exact h
    | queued hfeasible =>
      apply h.withQueue
      rw [List.forall_mem_append, List.forall_mem_singleton]
      exact ⟨h.waiting, hchart ▸ feasible_of_checkFeasible hfeasible⟩

theorem proceed (h : aircraft.Sound chart) (hflying : aircraft.state ≠ .parked) :
    aircraft.proceed.Sound chart := by
  unfold Aircraft.proceed
  split
  · exact h.withState hflying (by simp) trivial
  · next next queue hqueue =>
    have hwaiting := h.waiting
    rw [hqueue, List.forall_mem_cons] at hwaiting
    exact (h.withQueue hwaiting.2).begin hwaiting.1 fun hparked => absurd hparked hflying

theorem tick (h : aircraft.Sound chart) (hlanded : aircraft.tick.state ≠ .landed) :
    aircraft.tick.Sound chart := by
  by_cases hfree : aircraft.state.IsFree
  · rw [tick_of_isFree hfree]
    exact h.proceed fun hparked => by simp [hparked, FlightState.IsFree] at hfree
  · rw [tick_eq_of_not_isFree hfree] at hlanded ⊢
    have hproper := h.proper
    cases hstate : aircraft.state with
    | cruising => simp [hstate, FlightState.IsFree] at hfree
    | parked | circling _ | landed =>
      simp only [FlightState.afterTick, update_state_self hstate]
      exact h
    | maneuvering remaining =>
      rw [hstate] at hproper hfree
      obtain ⟨hpos, hle⟩ := hproper
      have hmany : 1 < remaining := Nat.not_le.mp hfree
      exact h.withState (by simp [hstate]) (by simp [FlightState.afterTick])
        ⟨Nat.le_sub_one_of_lt hmany, Nat.le_trans (Nat.sub_le _ _) hle⟩
    | approaching airport runway remaining =>
      rw [hstate] at hproper
      obtain ⟨hknown, hpos, hle⟩ := hproper
      simp only [hstate, FlightState.afterTick] at hlanded ⊢
      split
      · next hmany =>
        exact h.withState (by simp [hstate]) (by simp)
          ⟨hknown, Nat.le_sub_one_of_lt hmany, Nat.le_trans (Nat.sub_le _ _) hle⟩
      · next hlast => exact absurd (if_neg hlast) hlanded

end Sound

end Aircraft

namespace Airspace

variable {space : Airspace}

theorem sound_follow
    (h : ∀ identifier aircraft, space.fleet.find? identifier = some aircraft →
      aircraft.Sound space.chart)
    (event : Event) (identifier : String) (aircraft : Aircraft)
    (hfind : (space.follow event).fleet.find? identifier = some aircraft) :
    aircraft.Sound (space.follow event).chart := by
  rw [follow_chart]
  obtain ⟨before, hbefore, hchange⟩ := space.exists_change hfind
  have hsound := h identifier before hbefore
  cases hchange with
  | called mode instructions => exact (hsound.inform space.chart).respond_order rfl mode instructions
  | uncalled => exact hsound
  | ticked stays => exact hsound.tick stays

theorem sound_foldl_follow
    (h : ∀ identifier aircraft, space.fleet.find? identifier = some aircraft →
      aircraft.Sound space.chart)
    (events : List Event) (identifier : String) (aircraft : Aircraft)
    (hfind : (events.foldl follow space).fleet.find? identifier = some aircraft) :
    aircraft.Sound (events.foldl follow space).chart := by
  induction events generalizing space with
  | nil => exact h identifier aircraft hfind
  | cons event events ih => exact ih (sound_follow h event) hfind

/-- Whatever happens in an airspace, its aircraft stay safe: none climbs above its ceiling, none in
the air leaves the range of its speeds, approaches lead to runways of the chart, counters stay in
their ranges, and no aircraft is listed that has landed or under another identifier than its own. -/
theorem safe_of_events (space : Airspace) (events : List Event) (built : space.Built)
    (ready : ∀ aircraft ∈ space.fleet.values, aircraft.Ready) :
    let after := events.foldl follow space
    after.chart = space.chart ∧
      ∀ identifier aircraft, after.fleet.find? identifier = some aircraft →
        aircraft.identifier = identifier ∧ aircraft.Safe space.chart := by
  intro after
  have hchart : after.chart = space.chart := space.foldl_follow_chart events
  have hstart : ∀ identifier aircraft, space.fleet.find? identifier = some aircraft →
      aircraft.Sound space.chart :=
    fun identifier aircraft hfind => (ready aircraft (CodeMap.mem_values_of_find? hfind)).sound _
  refine ⟨hchart, fun identifier aircraft hfind => ⟨?_, ?_⟩⟩
  · exact (built.foldl_follow events).identifier_eq hfind
  · rw [← hchart]
    exact (sound_foldl_follow hstart events identifier aircraft hfind).toSafe

theorem safe_of_queued_landing :
    let space := (({} : Airspace).withAirport "LHR" ["27L"]).withAircraft (.airborne "BAW1234")
    let landing : List Instruction :=
      [{ command := .land, arguments := [.text "lhr", .text "27l"] }]
    let after := [Event.call "BAW1234" .enqueue landing, .tick].foldl follow space
    space.Built ∧ (∀ aircraft ∈ space.fleet.values, aircraft.Ready) ∧
      (after.fleet.find? "BAW1234").map (·.state) = some (.approaching "LHR" "27L" 3) ∧
      after.chart = space.chart ∧
      ∀ identifier aircraft, after.fleet.find? identifier = some aircraft →
        aircraft.identifier = identifier ∧ aircraft.Safe space.chart := by
  intro space landing after
  have built : space.Built := .withAircraft _ (.withAirport _ _ .empty)
  have ready : ∀ aircraft ∈ space.fleet.values, aircraft.Ready := by
    intro aircraft hmem
    obtain rfl : aircraft = .airborne "BAW1234" := List.mem_singleton.mp hmem
    exact ⟨.inr ⟨rfl, by decide, by decide⟩, rfl, by decide, by decide, by decide⟩
  have hstate : (after.fleet.find? "BAW1234").map (·.state) =
      some (.approaching "LHR" "27L" 3) := by decide +kernel
  exact ⟨built, ready, hstate, safe_of_events space _ built ready⟩

end Airspace

end ControlTower
