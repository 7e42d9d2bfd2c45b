import ControlTower.Proofs.Airspace.Safety
import ControlTower.Proofs.Desk.Work
import ControlTower.Proofs.Phraseology.Acceptance

/-!
# What can be assigned from a console

Unless the policies are the legacy ones, no heading is read that is not one of the compass, and no
altitude that is not in the envelope and on its step. An aircraft is asked about its ceiling when it
takes instructions, and it may carry them out much later. Whatever is done at the console, and in
whatever form it is typed, no aircraft is therefore assigned anything else. The invariant says that
what waits in a queue has passed both checks, and the second by the ceiling that the aircraft still
has when it takes it up.
-/

namespace ControlTower

/-- A number of metres that can be assigned: as hundreds of metres it lies in the envelope, and it
is a multiple of the step. -/
def AltitudeEnvelope.Admits (envelope : AltitudeEnvelope) (metres : Int) : Prop :=
  ∃ hundreds, metres = 100 * hundreds ∧ envelope.lowest ≤ hundreds ∧
    hundreds ≤ envelope.highest ∧ envelope.step ∣ hundreds

namespace BoundaryPolicy

variable {policy : BoundaryPolicy} {inRange onStep usualWidth : Bool}

theorem inRange_of_admitsHeading (hpolicy : policy ≠ .legacy)
    (h : policy.admitsHeading inRange usualWidth = true) : inRange = true := by
  cases policy with
  | legacy => exact absurd rfl hpolicy
  | range => exact h
  | strict => exact (Bool.and_eq_true_iff.mp h).1

theorem inRange_of_admitsAltitude (hpolicy : policy ≠ .legacy)
    (h : policy.admitsAltitude inRange onStep usualWidth = true) :
    inRange = true ∧ onStep = true := by
  cases policy with
  | legacy => exact absurd rfl hpolicy
  | range => exact Bool.and_eq_true_iff.mp h
  | strict => exact Bool.and_eq_true_iff.mp (Bool.and_eq_true_iff.mp h).1

end BoundaryPolicy

namespace Argument

variable {policy : BoundaryPolicy} {envelope : AltitudeEnvelope} {word : String}

theorem range_of_heading? {degrees : Int} (hpolicy : policy ≠ .legacy)
    (h : heading? policy word = some degrees) : 0 ≤ degrees ∧ degrees ≤ 360 := by
  obtain ⟨-, hadmits⟩ := Option.filter_eq_some_iff.mp h
  simpa using BoundaryPolicy.inRange_of_admitsHeading hpolicy hadmits

theorem admits_of_altitude? {metres : Int} (hpolicy : policy ≠ .legacy)
    (h : altitude? policy envelope word = some metres) : envelope.Admits metres := by
  obtain ⟨hmetres, -⟩ := Option.filter_eq_some_iff.mp h
  obtain ⟨hundreds, htyped, rfl⟩ := Option.map_eq_some_iff.mp hmetres
  obtain ⟨-, hadmits⟩ := Option.filter_eq_some_iff.mp htyped
  obtain ⟨hcontains, hstep⟩ := BoundaryPolicy.inRange_of_admitsAltitude hpolicy hadmits
  simp only [AltitudeEnvelope.contains, Bool.and_eq_true, decide_eq_true_eq] at hcontains
  simp only [AltitudeEnvelope.onStep, Bool.and_eq_true, beq_iff_eq] at hstep
  exact ⟨hundreds, Int.mul_comm _ _, hcontains.1, hcontains.2, Int.dvd_of_emod_eq_zero hstep.2⟩

end Argument

namespace Instruction

def heading? (instruction : Instruction) : Option Int :=
  if instruction.command = .heading then instruction.number? 0 else none

def altitude? (instruction : Instruction) : Option Int :=
  if instruction.command = .altitude ∨ instruction.command = .takeoff then instruction.number? 0
  else none

structure InRange (envelope : AltitudeEnvelope) (instruction : Instruction) : Prop where
  heading : ∀ degrees ∈ instruction.heading?, 0 ≤ degrees ∧ degrees ≤ 360
  altitude : ∀ metres ∈ instruction.altitude?, envelope.Admits metres

end Instruction

/-- An instruction has passed both checks: what it assigns is in range, and an altitude is not above
the ceiling either. -/
structure Instruction.Passed (envelope : AltitudeEnvelope) (ceiling : Int)
    (instruction : Instruction) : Prop extends instruction.InRange envelope where
  altitude_le : ∀ metres ∈ instruction.altitude?, metres ≤ ceiling

/-- Rules by which both policies look at the range. -/
structure ReadingRules.Bounded (rules : ReadingRules) : Prop where
  heading : rules.headingPolicy ≠ .legacy
  altitude : rules.altitudePolicy ≠ .legacy

section

variable {rules : ReadingRules}

theorem ArgumentKind.range_of_read? (h : rules.Bounded) {words : List String}
    {arguments : List Argument} (hread : ArgumentKind.heading.read? rules words = some arguments) :
    ∃ degrees, arguments = [.number degrees] ∧ 0 ≤ degrees ∧ degrees ≤ 360 := by
  rcases words with _ | ⟨word, _ | ⟨second, others⟩⟩
  · cases hread
  · obtain ⟨degrees, hdegrees, rfl⟩ := Option.map_eq_some_iff.mp hread
    exact ⟨degrees, rfl, Argument.range_of_heading? h.heading hdegrees⟩
  · cases hread

theorem ArgumentKind.admits_of_read? (h : rules.Bounded) {words : List String}
    {arguments : List Argument} (hread : ArgumentKind.altitude.read? rules words = some arguments) :
    ∃ metres, arguments = [.number metres] ∧ rules.envelope.Admits metres := by
  rcases words with _ | ⟨word, _ | ⟨second, others⟩⟩
  · cases hread
  · obtain ⟨metres, hmetres, rfl⟩ := Option.map_eq_some_iff.mp hread
    exact ⟨metres, rfl, Argument.admits_of_altitude? h.altitude hmetres⟩
  · cases hread

theorem Command.inRange_of_read? (h : rules.Bounded) {command : Command} {words : List String}
    {arguments : List Argument} (hread : command.read? rules words = some arguments)
    (flags : List Flag) : Instruction.InRange rules.envelope { command, arguments, flags } := by
  cases command with
  | heading =>
    obtain ⟨degrees, rfl, hrange⟩ := ArgumentKind.range_of_read? h hread
    constructor
    · rintro _ ⟨⟩
      exact hrange
    · rintro _ ⟨⟩
  | altitude | takeoff =>
    obtain ⟨metres, rfl, hadmits⟩ := ArgumentKind.admits_of_read? h hread
    constructor
    · rintro _ ⟨⟩
    · rintro _ ⟨⟩
      exact hadmits
  | speed | land | circle | abort => constructor <;> rintro _ ⟨⟩

/-- Condensed or not, the argument is read in the same way. -/
theorem Opening.inRange {command : Command} {words : List String} {arguments : List Argument}
    (h : Opening rules command words arguments) (hbounded : rules.Bounded) (flags : List Flag) :
    Instruction.InRange rules.envelope { command, arguments, flags } := by
  cases h with
  | spelled _ _ form | condensed _ _ _ form => exact Command.inRange_of_read? hbounded form flags

/-- Whatever is said by the rules is in range. -/
theorem Event.Arises.inRange {target : String} {mode : Mode} {instructions : List Instruction}
    (h : (Event.call target mode instructions).Arises rules) (hbounded : rules.Bounded) :
    ∀ instruction ∈ instructions, instruction.InRange rules.envelope := by
  intro instruction hmem
  obtain ⟨line, hread⟩ := h
  obtain ⟨segment, hspelled, rfl⟩ := ReadingRules.exists_segment_of_read hread hmem
  exact hspelled.opening.inRange hbounded _

end

theorem Instruction.Feasible.altitude_le {performance : Performance} {chart : Chart}
    {instruction : Instruction} (h : instruction.Feasible performance chart) :
    ∀ metres ∈ instruction.altitude?, metres ≤ performance.ceiling := by
  unfold Instruction.Feasible at h
  unfold Instruction.altitude?
  cases hcommand : instruction.command with
  | altitude | takeoff => simpa [hcommand] using h
  | heading | speed | land | circle | abort => simp

namespace Aircraft

theorem assign_heading (aircraft : Aircraft) (instruction : Instruction) :
    (aircraft.assign instruction).heading = instruction.heading?.getD aircraft.heading := by
  cases hcommand : instruction.command <;> simp [assign, Instruction.heading?, hcommand]

theorem assign_altitude (aircraft : Aircraft) (instruction : Instruction) :
    (aircraft.assign instruction).altitude = instruction.altitude?.getD aircraft.altitude := by
  cases hcommand : instruction.command <;> simp [assign, Instruction.altitude?, hcommand]

/-- An aircraft has been assigned nothing out of range since it was as given, and will not be by what
waits. -/
structure Governed (envelope : AltitudeEnvelope) (first aircraft : Aircraft) : Prop where
  performance_eq : aircraft.performance = first.performance
  heading : 0 ≤ aircraft.heading ∧ aircraft.heading ≤ 360
  altitude : aircraft.altitude = first.altitude ∨
    envelope.Admits aircraft.altitude ∧ aircraft.altitude ≤ first.performance.ceiling
  waiting : ∀ transmission ∈ aircraft.queue, ∀ instruction ∈ transmission,
    instruction.Passed envelope first.performance.ceiling

namespace Governed

variable {envelope : AltitudeEnvelope} {first aircraft : Aircraft} {instruction : Instruction}
  {instructions : List Instruction}

theorem assign (h : Governed envelope first aircraft)
    (hpassed : instruction.Passed envelope first.performance.ceiling) :
    Governed envelope first (aircraft.assign instruction) where
  performance_eq := by rw [assign_performance, h.performance_eq]
  heading := by
    rw [assign_heading]
    cases hassigned : instruction.heading? with
    | none => exact h.heading
    | some degrees => exact hpassed.heading degrees hassigned
  altitude := by
    rw [assign_altitude]
    cases hassigned : instruction.altitude? with
    | none => exact h.altitude
    | some metres =>
      exact .inr ⟨hpassed.altitude metres hassigned, hpassed.altitude_le metres hassigned⟩
  waiting := by
    rw [assign_queue]
    exact h.waiting

theorem foldl_assign (h : Governed envelope first aircraft)
    (hpassed : ∀ instruction ∈ instructions,
      instruction.Passed envelope first.performance.ceiling) :
    Governed envelope first (instructions.foldl Aircraft.assign aircraft) := by
  induction instructions generalizing aircraft with
  | nil => exact h
  | cons instruction instructions ih =>
    obtain ⟨hfirst, hothers⟩ := List.forall_mem_cons.mp hpassed
    exact ih (h.assign hfirst) hothers

theorem withQueue (h : Governed envelope first aircraft) (state : FlightState)
    {queue : List (List Instruction)}
    (hqueue : ∀ transmission ∈ queue, ∀ instruction ∈ transmission,
      instruction.Passed envelope first.performance.ceiling) :
    Governed envelope first { aircraft with state, queue } :=
  ⟨h.performance_eq, h.heading, h.altitude, hqueue⟩

theorem inform (h : Governed envelope first aircraft) (chart : Chart) :
    Governed envelope first { aircraft with chart } :=
  ⟨h.performance_eq, h.heading, h.altitude, h.waiting⟩

theorem passed (h : Governed envelope first aircraft)
    (hrange : ∀ instruction ∈ instructions, instruction.InRange envelope)
    (hfeasible : aircraft.checkFeasible instructions = .ok ()) :
    ∀ instruction ∈ instructions, instruction.Passed envelope first.performance.ceiling := by
  intro instruction hmem
  have hperformed := feasible_of_checkFeasible hfeasible instruction hmem
  rw [h.performance_eq] at hperformed
  exact ⟨hrange instruction hmem, hperformed.altitude_le⟩

theorem respond (h : Governed envelope first aircraft) (order : Order)
    (hrange : ∀ instruction ∈ order.instructions, instruction.InRange envelope) :
    Governed envelope first (aircraft.respond order) := by
  have hchange := aircraft.change_respond order
  generalize aircraft.respond order = after at hchange ⊢
  cases hchange with
  | rests _ state kept =>
    exact h.withQueue state fun transmission hmem => h.waiting transmission (kept hmem)
  | begins _ _ _ feasible => exact (h.withQueue _ h.waiting).foldl_assign (h.passed hrange feasible)
  | queues feasible =>
    apply h.withQueue aircraft.state
    rw [List.forall_mem_append, List.forall_mem_singleton]
    exact ⟨h.waiting, h.passed hrange feasible⟩
  | takesUp _ waiting =>
    have hpassed := h.waiting
    rw [waiting, List.forall_mem_cons] at hpassed
    exact (h.withQueue _ hpassed.2).foldl_assign hpassed.1

end Governed

end Aircraft

namespace Airspace

/-- Every aircraft was in the first airspace, and has been assigned nothing out of range since. -/
def Governed (envelope : AltitudeEnvelope) (first space : Airspace) : Prop :=
  ∀ identifier aircraft, space.fleet.find? identifier = some aircraft →
    ∃ before, first.fleet.find? identifier = some before ∧ before.Governed envelope aircraft

namespace Governed

variable {rules : ReadingRules} {first space : Airspace}

theorem follow (h : Governed rules.envelope first space) (hbounded : rules.Bounded) {event : Event}
    (harises : event.Arises rules) : Governed rules.envelope first (space.follow event) := by
  intro identifier aircraft hfind
  obtain ⟨latest, hlatest, hchange⟩ := space.exists_change hfind
  obtain ⟨before, hbefore, hgoverned⟩ := h identifier latest hlatest
  refine ⟨before, hbefore, ?_⟩
  cases hchange with
  | called mode instructions =>
    apply (hgoverned.inform space.chart).respond
    rw [Mode.instructions_order]
    exact harises.inRange hbounded
  | uncalled => exact hgoverned
  | ticked => exact hgoverned.respond .tick (List.forall_mem_nil _)

theorem foldl_follow (h : Governed rules.envelope first space) (hbounded : rules.Bounded)
    {events : List Event} (harise : ∀ event ∈ events, event.Arises rules) :
    Governed rules.envelope first (events.foldl Airspace.follow space) := by
  induction events generalizing space with
  | nil => exact h
  | cons event events ih =>
    obtain ⟨hfirst, hothers⟩ := List.forall_mem_cons.mp harise
    exact ih (h.follow hbounded hfirst) hothers

end Governed

end Airspace

/-- Unless a policy is the legacy one, nothing that is done at a console gets an aircraft out of
range: its heading stays on the compass, and its altitude is the one that it had at the start, or it
is one of the envelope, on its step and not above the ceiling of the aircraft. -/
theorem in_range_of_actions (console : Console) (space : Airspace) (actions : List Action)
    (heading_policy : console.settings.rules.headingPolicy ≠ .legacy)
    (altitude_policy : console.settings.rules.altitudePolicy ≠ .legacy)
    (start : ∀ aircraft ∈ space.fleet.values,
      0 ≤ aircraft.heading ∧ aircraft.heading ≤ 360 ∧ aircraft.queue = []) :
    let after := (actions.foldl Turn.act { console, world := space }).world
    ∀ identifier aircraft, after.fleet.find? identifier = some aircraft →
      0 ≤ aircraft.heading ∧ aircraft.heading ≤ 360 ∧
        ∃ first, space.fleet.find? identifier = some first ∧
          aircraft.performance = first.performance ∧
          (aircraft.altitude = first.altitude ∨
            console.settings.rules.envelope.Admits aircraft.altitude ∧
              aircraft.altitude ≤ aircraft.performance.ceiling) := by
  intro after identifier aircraft hfind
  have hbounded : console.settings.rules.Bounded := ⟨heading_policy, altitude_policy⟩
  have hstart : space.Governed console.settings.rules.envelope space := by
    intro identifier aircraft hfind
    obtain ⟨hlow, hhigh, hqueue⟩ := start aircraft (CodeMap.mem_values_of_find? hfind)
    exact ⟨aircraft, hfind, rfl, ⟨hlow, hhigh⟩, .inl rfl, by simp [hqueue]⟩
  obtain ⟨events, harise, hworld⟩ := Turn.exists_events_run { console, world := space } actions
  have hgoverned := hstart.foldl_follow hbounded harise
  rw [← hworld] at hgoverned
  obtain ⟨first, hfirst, hfinal⟩ := hgoverned identifier aircraft hfind
  obtain ⟨hlow, hhigh⟩ := hfinal.heading
  refine ⟨hlow, hhigh, first, hfirst, hfinal.performance_eq, ?_⟩
  rw [hfinal.performance_eq]
  exact hfinal.altitude

theorem in_range_of_queued_altitude :
    ∃ console : Console, Console.ofSettings { rules := .strict } = .ok console ∧
      let space := ({} : Airspace).withAircraft (.airborne "BAW1234")
      let actions : List Action :=
        [.submit "baw1234 h090", .submit ".baw1234 a20", .tick, .press .cancel, .tick]
      let after := (actions.foldl Turn.act { console, world := space }).world
      (∀ aircraft ∈ space.fleet.values,
        0 ≤ aircraft.heading ∧ aircraft.heading ≤ 360 ∧ aircraft.queue = []) ∧
      (after.fleet.find? "BAW1234").map (fun a => (a.heading, a.altitude)) = some (90, 2000) ∧
      ∀ identifier aircraft, after.fleet.find? identifier = some aircraft →
        0 ≤ aircraft.heading ∧ aircraft.heading ≤ 360 ∧
          ∃ first, space.fleet.find? identifier = some first ∧
            aircraft.performance = first.performance ∧
            (aircraft.altitude = first.altitude ∨
              console.settings.rules.envelope.Admits aircraft.altitude ∧
                aircraft.altitude ≤ aircraft.performance.ceiling) := by
  have hcheck : Settings.check { rules := .strict } = .ok () := by decide +kernel
  obtain ⟨console, hopened, hrules⟩ : ∃ console : Console,
      Console.ofSettings { rules := .strict } = .ok console ∧
        console.settings.rules = .strict := by
    rw [Console.ofSettings, hcheck]
    exact ⟨_, rfl, rfl⟩
  refine ⟨console, hopened, ?_⟩
  intro space actions after
  let heading : Instruction := { command := .heading, arguments := [.number 90] }
  let altitude : Instruction := { command := .altitude, arguments := [.number 2000] }
  have hheading : ReadingRules.strict.read "baw1234 h090" =
      .accepted (.aircraft .execute "BAW1234" [heading]) := by
    rw [ReadingRules.read_eq_outcome]
    decide +kernel
  have haltitude : ReadingRules.strict.read ".baw1234 a20" =
      .accepted (.aircraft .enqueue "BAW1234" [altitude]) := by
    rw [ReadingRules.read_eq_outcome]
    decide +kernel
  have hstart : ∀ aircraft ∈ space.fleet.values,
      0 ≤ aircraft.heading ∧ aircraft.heading ≤ 360 ∧ aircraft.queue = [] := by decide +kernel
  have hafter : after =
      [.call "BAW1234" .execute [heading], .call "BAW1234" .enqueue [altitude], .tick, .tick].foldl
        Airspace.follow space := by
    simp only [after, actions, List.foldl_cons, List.foldl_nil, Turn.act, Console.press,
      Console.world_submitLine, Console.settings_submitLine, hrules, hheading, haltitude,
      Airspace.follow_tick_eq]
  refine ⟨hstart, ?_, ?_⟩
  · rw [hafter]
    decide +kernel
  · exact in_range_of_actions console space actions (by simp [hrules, ReadingRules.strict])
      (by simp [hrules, ReadingRules.strict]) hstart

end ControlTower
