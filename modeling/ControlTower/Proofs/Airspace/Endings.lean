import ControlTower.Proofs.Airspace.Safety
import ControlTower.Proofs.Phraseology.Reach

/-!
# Where flights end

An aircraft that circles, that approaches a runway or that has landed takes nothing more into its
queue, since it would never come to it. Two rules seem to follow, and neither holds without
conditions, which are worked out here.

The first is that nothing waits in the queue of such an aircraft. But it is only the present state
that keeps instructions out of the queue. An aircraft can be told to circle or to land while others
wait, and others can be queued behind a transmission that will make it circle or land.

The second is that a flight that has landed is over. It takes nothing into its queue, but nothing
keeps it from carrying out instructions at once.
-/

namespace ControlTower

def FlightState.RefusesQueue : FlightState → Prop
  | .circling _ | .approaching _ _ _ | .landed => True
  | .parked | .cruising | .maneuvering _ => False

instance : DecidablePred FlightState.RefusesQueue
  | .circling _ | .approaching _ _ _ | .landed => .isTrue trivial
  | .parked | .cruising | .maneuvering _ => .isFalse id

/-- Instructions after which an aircraft takes nothing into its queue. -/
def Detaining (instructions : List Instruction) : Prop :=
  ∃ instruction ∈ instructions, instruction.command = .circle ∨ instruction.command = .land

instance : DecidablePred Detaining := fun instructions => by
  unfold Detaining
  infer_instance

/-- Orders that an operator can give: some line is read as their instructions, in their mode. -/
def Order.Readable : Order → Prop
  | .execute instructions => ∃ rules line target,
      ReadingRules.read rules line = .accepted (.aircraft .execute target instructions)
  | .enqueue instructions => ∃ rules line target,
      ReadingRules.read rules line = .accepted (.aircraft .enqueue target instructions)
  | .tick => True

namespace Aircraft

variable {aircraft : Aircraft} {instructions : List Instruction}

def Stranded (aircraft : Aircraft) : Prop :=
  aircraft.state.RefusesQueue ∧ aircraft.queue ≠ []

/-- An order leaves something in a queue that takes nothing more from then on: instructions to
circle or to land are carried out although others wait, or taken up from the queue although others
wait behind them. -/
def Strands (aircraft : Aircraft) : Order → Prop
  | .execute instructions =>
    (∃ after, aircraft.instruct .execute instructions = .ok after) ∧
      (∀ instruction ∈ instructions, instruction.command ≠ .abort) ∧
      Detaining instructions ∧ aircraft.queue ≠ []
  | .enqueue _ => False
  | .tick => aircraft.state.IsFree ∧
      ∃ next waiting, aircraft.queue = next :: waiting ∧ Detaining next ∧ waiting ≠ []

theorem refusesQueue_assign_iff (instruction : Instruction) :
    (aircraft.assign instruction).state.RefusesQueue ↔
      aircraft.state.RefusesQueue ∨
        instruction.command = .circle ∨ instruction.command = .land := by
  cases hcommand : instruction.command <;> simp [assign, hcommand, FlightState.RefusesQueue]

theorem refusesQueue_begin_iff :
    (aircraft.begin instructions).state.RefusesQueue ↔ Detaining instructions := by
  -- The induction needs any start: once such a state is reached, later instructions keep it.
  have hfold : ∀ start : Aircraft, (instructions.foldl assign start).state.RefusesQueue ↔
      start.state.RefusesQueue ∨ Detaining instructions := by
    induction instructions with
    | nil => simp [Detaining]
    | cons instruction instructions ih =>
      intro start
      rw [List.foldl_cons, ih, refusesQueue_assign_iff, or_assoc]
      simp only [Detaining, List.mem_cons, exists_eq_or_imp]
  rw [begin, hfold]
  simp [FlightState.RefusesQueue]

theorem begin_state_ne_landed : (aircraft.begin instructions).state ≠ .landed := by
  have hfold : ∀ start : Aircraft, start.state ≠ .landed →
      (instructions.foldl assign start).state ≠ .landed := by
    induction instructions with
    | nil => exact fun _ h => h
    | cons instruction instructions ih =>
      intro start h
      apply ih
      cases hcommand : instruction.command <;> simp [assign, hcommand, h]
  exact hfold _ (by simp)

theorem refusesQueue_afterTick_iff {state : FlightState} :
    state.afterTick.RefusesQueue ↔ state.RefusesQueue := by
  cases state with
  | approaching airport runway remaining =>
    simp only [FlightState.afterTick]
    split <;> simp [FlightState.RefusesQueue]
  | _ => rfl

theorem not_stranded_giveUp (h : ¬ aircraft.Stranded) (lastOnly : Bool) :
    ¬ (aircraft.giveUp lastOnly).Stranded := by
  rintro ⟨hrefuses, hqueue⟩
  cases lastOnly with
  | true =>
    simp only [giveUp, if_true] at hrefuses hqueue
    exact h ⟨hrefuses, fun hnil => hqueue (by rw [hnil, List.dropLast_nil])⟩
  | false => simp [giveUp] at hqueue

/-- An order strands something exactly when the queue held nothing stranded before and does then. -/
theorem stranded_respond_iff (h : ¬ aircraft.Stranded) (order : Order) :
    (aircraft.respond order).Stranded ↔ aircraft.Strands order := by
  cases order with
  | execute instructions =>
    have hexecution := aircraft.execution instructions
    generalize aircraft.respond (.execute instructions) = after at hexecution ⊢
    cases hexecution with
    | refused hanswer => simp [Strands, hanswer, h]
    | gaveUp _ hfound =>
      obtain ⟨hmem, hcommand⟩ := mem_of_find?_abort hfound
      refine iff_of_false (fun hstranded => ?_) fun hstrands => hstrands.2.1 _ hmem hcommand
      exact not_stranded_giveUp h _ hstranded
    | begun hanswer hnone =>
      rw [Stranded, refusesQueue_begin_iff, begin_queue]
      exact ⟨fun hstranded => ⟨⟨_, hanswer⟩, hnone, hstranded⟩, fun hstrands => hstrands.2.2⟩
  | enqueue instructions =>
    have hqueuing := aircraft.queuing instructions
    generalize aircraft.respond (.enqueue instructions) = after at hqueuing ⊢
    cases hqueuing with
    | refused => simp [Strands, h]
    | queued _ hgoes =>
      rcases hgoes with hstate | hstate | ⟨remaining, hstate⟩ <;>
        simp [Stranded, Strands, hstate, FlightState.RefusesQueue]
  | tick =>
    rw [respond]
    by_cases hfree : aircraft.state.IsFree
    · rw [tick_of_isFree hfree, Stranded, proceed]
      cases hqueue : aircraft.queue with
      | nil => simp [Strands, hqueue, FlightState.RefusesQueue]
      | cons next waiting =>
        simp only [refusesQueue_begin_iff, begin_queue, Strands, hqueue]
        constructor
        · exact fun hstranded => ⟨hfree, next, waiting, rfl, hstranded⟩
        · rintro ⟨-, _, _, ⟨⟩, hstrands⟩
          exact hstrands
    · rw [tick_eq_of_not_isFree hfree, Stranded, refusesQueue_afterTick_iff]
      exact iff_of_false h fun hstrands => hfree hstrands.1

theorem not_stranded_run_iff (h : ¬ aircraft.Stranded) (orders : List Order) :
    (∀ n, ¬ ((orders.take n).foldl respond aircraft).Stranded) ↔
      ∀ n order, orders[n]? = some order →
        ¬ ((orders.take n).foldl respond aircraft).Strands order := by
  induction orders generalizing aircraft with
  | nil => simpa using h
  | cons order orders ih =>
    have hstep := not_congr (stranded_respond_iff h order)
    rw [forall_order_cons fun now other => ¬ now.Strands other]
    constructor
    · intro hnever
      have hafter : ¬ (aircraft.respond order).Stranded := hnever 1
      exact ⟨hstep.mp hafter, (ih hafter).mp fun n => hnever (n + 1)⟩
    · rintro ⟨hfirst, hlater⟩ n
      cases n with
      | zero => exact h
      | succ n => exact (ih (hstep.mpr hfirst)).mpr hlater n

/-- Nothing ever waits in a queue that takes nothing more, exactly when no instructions to circle or
to land are carried out while others wait, and none are taken up from the queue with others behind
them. -/
theorem nothing_stranded_iff (aircraft : Aircraft) (orders : List Order)
    (hempty : aircraft.queue = []) :
    (∀ n, let now := (orders.take n).foldl respond aircraft
      now.state.RefusesQueue → now.queue = []) ↔
      ∀ n order, orders[n]? = some order →
        ¬ ((orders.take n).foldl respond aircraft).Strands order := by
  have hstart : ¬ aircraft.Stranded := fun hstranded => hstranded.2 hempty
  rw [← not_stranded_run_iff hstart]
  simp only [Stranded, not_and, ne_eq, Classical.not_not]

theorem nothing_stranded_behind_circle :
    let aircraft : Aircraft := { identifier := "ABC1234" }
    let circle : List Instruction := [{ command := .circle, arguments := [.text "left"] }]
    let orders : List Order := [.enqueue circle, .tick]
    aircraft.queue = [] ∧ (orders.foldl respond aircraft).state = .circling "left" ∧
      ∀ n, let now := (orders.take n).foldl respond aircraft
        now.state.RefusesQueue → now.queue = [] := by
  intro aircraft circle orders
  have hempty : aircraft.queue = [] := rfl
  refine ⟨hempty, by decide, (nothing_stranded_iff aircraft orders hempty).mpr ?_⟩
  intro n order horder hstrands
  match n, horder with
  | 0, rfl => exact hstrands
  | 1, rfl =>
    obtain ⟨-, _, _, ⟨⟩, -, hwaiting⟩ := hstrands
    exact hwaiting rfl

/-- What is queued behind instructions to land is left in the queue when the aircraft takes these
up, although an operator can give every one of these orders. -/
theorem stranded_behind_landing :
    ¬ ∀ (aircraft : Aircraft) (orders : List Order),
      aircraft.queue = [] → (aircraft.state = .parked ∨ aircraft.state = .cruising) →
        (∀ order ∈ orders, order.Readable) →
          let after := orders.foldl respond aircraft
          after.state.RefusesQueue → after.queue = [] := by
  let landing : List Instruction :=
    [{ command := .land, arguments := [.text "lhr", .text "27l"] }]
  let heading : List Instruction := [{ command := .heading, arguments := [.number 90] }]
  let aircraft : Aircraft :=
    { identifier := "AFR7731", chart := CodeMap.empty.insert "LHR" ["27L"] }
  have hlanding : ReadingRules.read {} ".afr7731 land lhr 27l" =
      .accepted (.aircraft .enqueue "AFR7731" landing) := by
    rw [ReadingRules.read_eq_outcome]
    decide +kernel
  have hheading : ReadingRules.read {} ".afr7731 heading 090" =
      .accepted (.aircraft .enqueue "AFR7731" heading) := by
    rw [ReadingRules.read_eq_outcome]
    decide +kernel
  have hreadable : ∀ order ∈ [.enqueue landing, .enqueue heading, .tick], Order.Readable order := by
    simp only [List.forall_mem_cons]
    exact ⟨⟨_, _, _, hlanding⟩, ⟨_, _, _, hheading⟩, trivial, by simp⟩
  intro hnever
  have hempty := hnever aircraft _ rfl (.inr rfl) hreadable (by decide +kernel)
  revert hempty
  decide +kernel

/-- An order leaves a flight that is over as it is, apart from its queue: what is to be carried out
at once is either refused, for a takeoff or for what is not possible, or it only takes the last
transmission from the queue. -/
def LetsRest (aircraft : Aircraft) : Order → Prop
  | .execute instructions =>
    match instructions.find? (·.command = .abort) with
    | some abort => abort.hasFlag .lastOnly = true
    | none => ∃ instruction ∈ instructions, instruction.command = .takeoff ∨
        ¬ instruction.Feasible aircraft.performance aircraft.chart
  | .enqueue _ | .tick => True

/-- An aircraft that has landed carries out whatever is possible, unless it has to take off. -/
theorem execute_eq_ok_iff_of_landed (hlanded : aircraft.state = .landed)
    (hnone : instructions.find? (·.command = .abort) = none) {after : Aircraft} :
    aircraft.instruct .execute instructions = .ok after ↔
      (∀ instruction ∈ instructions, instruction.command ≠ .takeoff ∧
        instruction.Feasible aircraft.performance aircraft.chart) ∧
      after = aircraft.begin instructions := by
  have hnoAbort : ∀ instruction ∈ instructions, instruction.command ≠ .abort := by
    simpa using hnone
  have hfree : aircraft.isManeuvering = false := by rw [isManeuvering, hlanded]
  simp only [execute_eq_ok_iff_of_ne_abort hnoAbort, checkGround_eq_ok_iff,
    checkFeasible_eq_ok_iff, objection?_eq_none_iff, hlanded, hfree, true_and]
  constructor
  · rintro ⟨hground, hfeasible, rfl⟩
    refine ⟨fun instruction hmem => ⟨fun htakeoff => ?_, hfeasible instruction hmem⟩, rfl⟩
    cases hground.mpr ⟨instruction, hmem, htakeoff⟩
  · rintro ⟨hright, rfl⟩
    refine ⟨iff_of_false (by simp) ?_, fun i hmem => (hright i hmem).2, rfl⟩
    rintro ⟨instruction, hmem, htakeoff⟩
    exact (hright instruction hmem).1 htakeoff

theorem exists_queue_of_letsRest (hlanded : aircraft.state = .landed) {order : Order}
    (h : aircraft.LetsRest order) :
    ∃ queue, aircraft.respond order = { aircraft with queue } := by
  cases order with
  | execute instructions =>
    unfold LetsRest at h
    cases habort : instructions.find? (·.command = .abort) with
    | some abort =>
      simp only [habort] at h
      refine ⟨aircraft.queue.dropLast, respond_execute_of_ok ?_⟩
      exact execute_eq_ok_iff.mpr (.inl ⟨abort, habort, by simp [giveUp, h]⟩)
    | none =>
      simp only [habort] at h
      rcases aircraft.instruct_cases .execute instructions with
        ⟨refusal, hexecute⟩ | ⟨after, hexecute⟩
      · exact ⟨aircraft.queue, respond_execute_of_error hexecute⟩
      · obtain ⟨instruction, hmem, hwrong⟩ := h
        have hright := ((execute_eq_ok_iff_of_landed hlanded habort).mp hexecute).1 instruction hmem
        rcases hwrong with htakeoff | hnot
        · exact absurd htakeoff hright.1
        · exact absurd hright.2 hnot
  | enqueue instructions =>
    have hqueuing := aircraft.queuing instructions
    generalize aircraft.respond (.enqueue instructions) = after at hqueuing ⊢
    cases hqueuing with
    | refused => exact ⟨aircraft.queue, rfl⟩
    | queued _ hgoes => simp [hlanded] at hgoes
  | tick =>
    have hbusy : ¬ aircraft.state.IsFree := by simp [hlanded, FlightState.IsFree]
    refine ⟨aircraft.queue, ?_⟩
    rw [respond, tick_eq_of_not_isFree hbusy]
    exact update_state_self (by simp [hlanded, FlightState.afterTick])

theorem respond_ne_landed_of_not_letsRest (hlanded : aircraft.state = .landed) {order : Order}
    (h : ¬ aircraft.LetsRest order) : (aircraft.respond order).state ≠ .landed := by
  cases order with
  | execute instructions =>
    unfold LetsRest at h
    cases habort : instructions.find? (·.command = .abort) with
    | some abort =>
      simp only [habort, Bool.not_eq_true] at h
      rw [respond_execute_of_ok (execute_eq_ok_iff.mpr (.inl ⟨abort, habort, rfl⟩))]
      simp [giveUp, h, hlanded]
    | none =>
      simp only [habort, not_exists, not_and, not_or, Classical.not_not] at h
      have hexecute := (execute_eq_ok_iff_of_landed hlanded habort).mpr ⟨h, rfl⟩
      rw [respond_execute_of_ok hexecute]
      exact begin_state_ne_landed
  | enqueue _ | tick => exact absurd trivial h

/-- No order to an aircraft that has landed looks at the queue, which is all that can have changed
since. -/
theorem landed_run_iff {now : Aircraft} {queue : List (List Instruction)}
    (hlanded : aircraft.state = .landed) (hnow : now = { aircraft with queue })
    (orders : List Order) :
    (∀ n, let later := (orders.take n).foldl respond now
      later.state = .landed ∧ later.heading = aircraft.heading ∧
        later.altitude = aircraft.altitude ∧ later.speed = aircraft.speed) ↔
      ∀ order ∈ orders, aircraft.LetsRest order := by
  induction orders generalizing now queue with
  | nil => simp [hnow, hlanded]
  | cons order orders ih =>
    have hlanded' : now.state = .landed := by rw [hnow, hlanded]
    have hsame : now.LetsRest order ↔ aircraft.LetsRest order := by
      rw [hnow]
      rfl
    have hnext : now.LetsRest order → ∃ queue, now.respond order = { aircraft with queue } := by
      intro hrest
      obtain ⟨queue, hqueue⟩ := exists_queue_of_letsRest hlanded' hrest
      exact ⟨queue, by rw [hqueue, hnow]⟩
    rw [List.forall_mem_cons, ← hsame]
    constructor
    · intro hover
      have hrest : now.LetsRest order := Classical.byContradiction fun hnot =>
        respond_ne_landed_of_not_letsRest hlanded' hnot (hover 1).1
      obtain ⟨queue, hqueue⟩ := hnext hrest
      exact ⟨hrest, (ih hqueue).mp fun n => hover (n + 1)⟩
    · rintro ⟨hrest, hothers⟩ n
      obtain ⟨queue, hqueue⟩ := hnext hrest
      cases n with
      | zero => simp [hnow, hlanded]
      | succ n => exact (ih hqueue).mpr hothers n

/-- A flight that has landed stays over, with its numbers as they are, exactly when nothing is
carried out at once but what is refused or only takes the last transmission from the queue. -/
theorem landed_throughout_iff (aircraft : Aircraft) (orders : List Order)
    (hlanded : aircraft.state = .landed) :
    (∀ n, let now := (orders.take n).foldl respond aircraft
      now.state = .landed ∧ now.heading = aircraft.heading ∧ now.altitude = aircraft.altitude ∧
        now.speed = aircraft.speed) ↔
      ∀ order ∈ orders, aircraft.LetsRest order :=
  landed_run_iff hlanded rfl orders

theorem landed_throughout_refused_takeoff :
    let aircraft : Aircraft := { identifier := "AFR7731", state := .landed, heading := 180 }
    let takeoff : List Instruction := [{ command := .takeoff, arguments := [.number 2000] }]
    let abort : List Instruction := [{ command := .abort, flags := [.lastOnly] }]
    let orders : List Order := [.execute takeoff, .enqueue takeoff, .execute abort, .tick]
    aircraft.state = .landed ∧ ∀ n, let now := (orders.take n).foldl respond aircraft
      now.state = .landed ∧ now.heading = aircraft.heading ∧ now.altitude = aircraft.altitude ∧
        now.speed = aircraft.speed := by
  intro aircraft takeoff abort orders
  have hrest : ∀ order ∈ orders, aircraft.LetsRest order := by
    simp [orders, takeoff, abort, LetsRest, Instruction.hasFlag]
  exact ⟨rfl, (landed_throughout_iff aircraft orders rfl).mpr hrest⟩

/-- An aircraft that has landed takes a heading, and flies again. -/
theorem not_landed_of_heading :
    ¬ ∀ (aircraft : Aircraft) (orders : List Order), aircraft.state = .landed →
      let after := orders.foldl respond aircraft
      after.state = .landed ∧ after.heading = aircraft.heading ∧
        after.altitude = aircraft.altitude ∧ after.speed = aircraft.speed := by
  intro hfinal
  let aircraft : Aircraft := { identifier := "AFR7731", state := .landed, heading := 180 }
  let heading : List Instruction := [{ command := .heading, arguments := [.number 90] }]
  have hlanded := (hfinal aircraft [.execute heading] rfl).1
  revert hlanded
  decide

end Aircraft

end ControlTower
