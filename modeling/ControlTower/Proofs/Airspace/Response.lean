import ControlTower.Airspace.Aircraft

/-!
# How an aircraft responds

An aircraft is told to carry out instructions now or later, or time goes on for it. What each of
these can do to it is worked out once, refusals included, so that a run of any length can be
followed without looking into the checks again.
-/

namespace ControlTower

inductive Order where
  | execute (instructions : List Instruction)
  | enqueue (instructions : List Instruction)
  | tick
deriving Repr, DecidableEq

def Order.instructions : Order → List Instruction
  | .execute instructions | .enqueue instructions => instructions
  | .tick => []

/-- Whether an aircraft is about to take up what it has queued: it cruises, or the last tick of a
maneuver has come. -/
def FlightState.IsFree : FlightState → Prop
  | .cruising => True
  | .maneuvering remaining => remaining ≤ 1
  | _ => False

instance : DecidablePred FlightState.IsFree := fun state => by
  cases state <;> unfold FlightState.IsFree <;> infer_instance

def FlightState.afterTick : FlightState → FlightState
  | .maneuvering remaining => .maneuvering (remaining - 1)
  | .approaching airport runway remaining =>
    if 1 < remaining then .approaching airport runway (remaining - 1) else .landed
  | state => state

namespace Aircraft

variable {aircraft after : Aircraft} {instructions : List Instruction}

/-- The aircraft after an order, whether it takes it or refuses it. -/
def respond (aircraft : Aircraft) : Order → Aircraft
  | .execute instructions => (aircraft.instruct .execute instructions).2
  | .enqueue instructions => (aircraft.instruct .enqueue instructions).2
  | .tick => aircraft.tick

namespace Conduct

variable {conduct : Conduct} {check : Aircraft → Except Refusal Unit}

theorem answer_get_bind (next : Aircraft → Conduct) (aircraft : Aircraft) :
    answer (get >>= next) aircraft = (next aircraft).answer aircraft := rfl

theorem answer_pass_bind (check : Aircraft → Except Refusal Unit) (conduct : Conduct)
    (aircraft : Aircraft) :
    answer (pass check >>= fun _ => conduct) aircraft =
      match check aircraft with
      | .ok () => conduct.answer aircraft
      | .error refusal => (.error refusal, aircraft) := by
  have hpass : (pass check).answer aircraft = (check aircraft, aircraft) := by
    rw [pass, answer_get_bind]
    cases check aircraft <;> rfl
  unfold answer at hpass ⊢
  rw [ExceptT.run_bind, StateT.run_bind, hpass]
  cases check aircraft <;> rfl

theorem answer_pass_bind_eq_ok_iff :
    answer (pass check >>= fun _ => conduct) aircraft = .ok after ↔
      check aircraft = .ok () ∧ conduct.answer aircraft = .ok after := by
  rw [answer_pass_bind]
  cases check aircraft <;> simp

theorem answer_modify_eq_ok_iff {change : Aircraft → Aircraft} :
    answer (modify change) aircraft = .ok after ↔ after = change aircraft := by
  have hmodify : answer (modify change) aircraft = .ok (change aircraft) := rfl
  rw [hmodify, Prod.mk.injEq, eq_self, true_and, eq_comm]

/-- A conduct is careful when an aircraft that follows it refuses only as long as it has not
changed. -/
def Careful (conduct : Conduct) : Prop :=
  ∀ aircraft refusal after, conduct.answer aircraft = (.error refusal, after) → after = aircraft

theorem careful_modify (change : Aircraft → Aircraft) : Careful (modify change) := by
  rintro aircraft refusal after ⟨⟩

theorem careful_throw (refusal : Refusal) : Careful (throw refusal) := by
  rintro aircraft _ after ⟨⟩
  rfl

theorem Careful.pass_bind (h : conduct.Careful) (check : Aircraft → Except Refusal Unit) :
    Careful (pass check >>= fun _ => conduct) := by
  intro aircraft refusal after hanswer
  rw [answer_pass_bind] at hanswer
  cases hcheck : check aircraft with
  | ok _ =>
    rw [hcheck] at hanswer
    exact h aircraft refusal after hanswer
  | error reason =>
    rw [hcheck] at hanswer
    cases hanswer
    rfl

theorem careful_execute (instructions : List Instruction) : Careful (execute instructions) := by
  unfold execute
  split
  · exact careful_modify _
  · intro aircraft refusal after hanswer
    rw [answer_get_bind] at hanswer
    split at hanswer
    · exact careful_throw _ aircraft refusal after hanswer
    · exact ((careful_modify _).pass_bind _).pass_bind _ aircraft refusal after hanswer

theorem careful_enqueue (instructions : List Instruction) : Careful (enqueue instructions) :=
  ((careful_modify _).pass_bind _).pass_bind _

end Conduct

theorem eq_of_instruct_error {mode : Mode} {refusal : Refusal}
    (h : aircraft.instruct mode instructions = (.error refusal, after)) : after = aircraft := by
  cases mode with
  | execute => exact Conduct.careful_execute instructions aircraft refusal after h
  | enqueue => exact Conduct.careful_enqueue instructions aircraft refusal after h

theorem instruct_cases (aircraft : Aircraft) (mode : Mode) (instructions : List Instruction) :
    (∃ refusal, aircraft.instruct mode instructions = (.error refusal, aircraft)) ∨
      ∃ after, aircraft.instruct mode instructions = .ok after := by
  rcases hanswer : aircraft.instruct mode instructions with ⟨refusal | _, after⟩
  · obtain rfl := eq_of_instruct_error hanswer
    exact .inl ⟨refusal, rfl⟩
  · exact .inr ⟨after, rfl⟩

theorem checkFeasible_eq_ok_iff :
    aircraft.checkFeasible instructions = .ok () ↔
      ∀ instruction ∈ instructions, aircraft.objection? instruction = none := by
  unfold checkFeasible
  rw [← List.findSome?_eq_none_iff]
  cases instructions.findSome? aircraft.objection? <;> simp

theorem checkGround_eq_ok_iff :
    aircraft.checkGround instructions = .ok () ↔
      (aircraft.state = .parked ↔
        ∃ instruction ∈ instructions, instruction.command = .takeoff) := by
  have htakeoff : (instructions.any fun instruction => instruction.command = .takeoff) = true ↔
      ∃ instruction ∈ instructions, instruction.command = .takeoff := by simp
  rw [← htakeoff]
  unfold checkGround
  by_cases hparked : aircraft.state = .parked
  · cases instructions.any fun instruction => instruction.command = .takeoff <;> simp [hparked]
  · cases instructions.any fun instruction => instruction.command = .takeoff <;> simp [hparked]

theorem mem_of_find?_abort {abort : Instruction}
    (h : instructions.find? (·.command = .abort) = some abort) :
    abort ∈ instructions ∧ abort.command = .abort :=
  ⟨List.mem_of_find?_eq_some h, by simpa using List.find?_some h⟩

/-- Instructions to be carried out at once are taken for one of two reasons: they tell the aircraft
to give up, or they pass every check. -/
theorem execute_eq_ok_iff :
    aircraft.instruct .execute instructions = .ok after ↔
      (∃ abort, instructions.find? (·.command = .abort) = some abort ∧
        after = aircraft.giveUp (abort.hasFlag .lastOnly)) ∨
      (∀ instruction ∈ instructions, instruction.command ≠ .abort) ∧
        aircraft.isManeuvering = false ∧ aircraft.checkGround instructions = .ok () ∧
        aircraft.checkFeasible instructions = .ok () ∧ after = aircraft.begin instructions := by
  have hnone : instructions.find? (·.command = .abort) = none ↔
      ∀ instruction ∈ instructions, instruction.command ≠ .abort := by simp
  rw [← hnone, instruct, execute]
  cases instructions.find? (·.command = .abort) with
  | some abort =>
    rw [Conduct.answer_modify_eq_ok_iff]
    simp
  | none =>
    dsimp only
    rw [Conduct.answer_get_bind]
    cases aircraft.isManeuvering with
    | true =>
      constructor
      · rintro ⟨⟩
      · rintro (⟨_, ⟨⟩, -⟩ | ⟨-, ⟨⟩, -⟩)
    | false =>
      rw [if_neg Bool.false_ne_true, Conduct.answer_pass_bind_eq_ok_iff,
        Conduct.answer_pass_bind_eq_ok_iff, Conduct.answer_modify_eq_ok_iff]
      simp

/-- Instructions that do not tell an aircraft to give up have to pass every check. -/
theorem execute_eq_ok_iff_of_ne_abort
    (h : ∀ instruction ∈ instructions, instruction.command ≠ .abort) :
    aircraft.instruct .execute instructions = .ok after ↔
      aircraft.isManeuvering = false ∧ aircraft.checkGround instructions = .ok () ∧
        aircraft.checkFeasible instructions = .ok () ∧ after = aircraft.begin instructions := by
  rw [execute_eq_ok_iff]
  constructor
  · rintro (⟨abort, habort, -⟩ | ⟨-, hchecked⟩)
    · obtain ⟨hmem, hcommand⟩ := mem_of_find?_abort habort
      exact absurd hcommand (h abort hmem)
    · exact hchecked
  · exact fun hchecked => .inr ⟨h, hchecked⟩

/-- Instructions are queued when each is possible, as long as the flight goes on and the aircraft
does not circle. -/
theorem enqueue_eq_ok_iff :
    aircraft.instruct .enqueue instructions = .ok after ↔
      aircraft.checkFeasible instructions = .ok () ∧
        (aircraft.state = .parked ∨ aircraft.state = .cruising ∨
          ∃ remaining, aircraft.state = .maneuvering remaining) ∧
        after = { aircraft with queue := aircraft.queue ++ [instructions] } := by
  have hqueue : aircraft.checkQueue = .ok () ↔
      aircraft.state = .parked ∨ aircraft.state = .cruising ∨
        ∃ remaining, aircraft.state = .maneuvering remaining := by
    unfold checkQueue
    cases aircraft.state <;> simp
  rw [instruct, enqueue, Conduct.answer_pass_bind_eq_ok_iff, Conduct.answer_pass_bind_eq_ok_iff,
    Conduct.answer_modify_eq_ok_iff, hqueue]

theorem tick_of_isFree (h : aircraft.state.IsFree) : aircraft.tick = aircraft.proceed := by
  unfold tick
  cases hstate : aircraft.state with
  | cruising => rfl
  | maneuvering remaining =>
    rw [hstate] at h
    exact if_neg (Nat.not_lt.mpr h)
  | parked | circling _ | approaching _ _ _ | landed =>
    rw [hstate] at h
    cases h

theorem update_state_self {state : FlightState} (h : aircraft.state = state) :
    { aircraft with state } = aircraft := by
  subst h
  rfl

theorem tick_eq_of_not_isFree (h : ¬ aircraft.state.IsFree) :
    aircraft.tick = { aircraft with state := aircraft.state.afterTick } := by
  unfold tick
  cases hstate : aircraft.state with
  | cruising =>
    rw [hstate] at h
    exact absurd trivial h
  | maneuvering remaining =>
    rw [hstate] at h
    exact if_pos (Nat.not_le.mp h)
  | approaching airport runway remaining =>
    simp only [FlightState.afterTick]
    split <;> rfl
  | parked | circling _ | landed => exact (update_state_self hstate).symm

theorem tick_of_not_isFree (h : ¬ aircraft.state.IsFree) :
    ∃ state, aircraft.tick = { aircraft with state } := ⟨_, tick_eq_of_not_isFree h⟩

theorem respond_execute_of_ok (h : aircraft.instruct .execute instructions = .ok after) :
    aircraft.respond (.execute instructions) = after := by
  rw [respond, h]

theorem respond_execute_of_error {refusal : Refusal}
    (h : aircraft.instruct .execute instructions = (.error refusal, after)) :
    aircraft.respond (.execute instructions) = aircraft := by
  rw [respond, h]
  exact eq_of_instruct_error h

theorem respond_enqueue_of_ok (h : aircraft.instruct .enqueue instructions = .ok after) :
    aircraft.respond (.enqueue instructions) = after := by
  rw [respond, h]

theorem respond_enqueue_of_error {refusal : Refusal}
    (h : aircraft.instruct .enqueue instructions = (.error refusal, after)) :
    aircraft.respond (.enqueue instructions) = aircraft := by
  rw [respond, h]
  exact eq_of_instruct_error h

/-- How instructions to be carried out at once can end, and what the aircraft is then. -/
inductive Execution (aircraft : Aircraft) (instructions : List Instruction) : Aircraft → Prop where
  | refused {refusal : Refusal}
      (answer : aircraft.instruct .execute instructions = (.error refusal, aircraft)) :
      Execution aircraft instructions aircraft
  | gaveUp {abort : Instruction}
      (answer : aircraft.instruct .execute instructions =
        .ok (aircraft.giveUp (abort.hasFlag .lastOnly)))
      (found : instructions.find? (·.command = .abort) = some abort) :
      Execution aircraft instructions (aircraft.giveUp (abort.hasFlag .lastOnly))
  | begun (answer : aircraft.instruct .execute instructions = .ok (aircraft.begin instructions))
      (no_abort : ∀ instruction ∈ instructions, instruction.command ≠ .abort)
      (idle : aircraft.isManeuvering = false)
      (ground : aircraft.checkGround instructions = .ok ())
      (feasible : aircraft.checkFeasible instructions = .ok ()) :
      Execution aircraft instructions (aircraft.begin instructions)

theorem execution (aircraft : Aircraft) (instructions : List Instruction) :
    Execution aircraft instructions (aircraft.respond (.execute instructions)) := by
  rcases aircraft.instruct_cases .execute instructions with ⟨refusal, hanswer⟩ | ⟨after, hanswer⟩
  · rw [respond_execute_of_error hanswer]
    exact .refused hanswer
  · rw [respond_execute_of_ok hanswer]
    rcases execute_eq_ok_iff.mp hanswer with
      ⟨abort, hfound, rfl⟩ | ⟨hnone, hidle, hground, hfeasible, rfl⟩
    · exact .gaveUp hanswer hfound
    · exact .begun hanswer hnone hidle hground hfeasible

/-- How instructions to be queued can end, and what the aircraft is then. -/
inductive Queuing (aircraft : Aircraft) (instructions : List Instruction) : Aircraft → Prop where
  | refused {refusal : Refusal}
      (answer : aircraft.instruct .enqueue instructions = (.error refusal, aircraft)) :
      Queuing aircraft instructions aircraft
  | queued
      (feasible : aircraft.checkFeasible instructions = .ok ())
      (goes_on : aircraft.state = .parked ∨ aircraft.state = .cruising ∨
        ∃ remaining, aircraft.state = .maneuvering remaining) :
      Queuing aircraft instructions { aircraft with queue := aircraft.queue ++ [instructions] }

theorem queuing (aircraft : Aircraft) (instructions : List Instruction) :
    Queuing aircraft instructions (aircraft.respond (.enqueue instructions)) := by
  rcases aircraft.instruct_cases .enqueue instructions with ⟨refusal, hanswer⟩ | ⟨after, hanswer⟩
  · rw [respond_enqueue_of_error hanswer]
    exact .refused hanswer
  · rw [respond_enqueue_of_ok hanswer]
    obtain ⟨hfeasible, hgoes, rfl⟩ := enqueue_eq_ok_iff.mp hanswer
    exact .queued hfeasible hgoes

inductive Change (aircraft : Aircraft) : Order → Aircraft → Prop where
  /-- It begins with nothing, and some of what waited may be gone. An order that is refused leaves
  all as it was. -/
  | rests (order : Order) (state : FlightState) {queue : List (List Instruction)}
      (kept : queue ⊆ aircraft.queue) : Change aircraft order { aircraft with state, queue }
  | begins {instructions : List Instruction}
      (no_abort : ∀ instruction ∈ instructions, instruction.command ≠ .abort)
      (idle : aircraft.isManeuvering = false)
      (ground : aircraft.checkGround instructions = .ok ())
      (feasible : aircraft.checkFeasible instructions = .ok ()) :
      Change aircraft (.execute instructions) (aircraft.begin instructions)
  | queues {instructions : List Instruction}
      (feasible : aircraft.checkFeasible instructions = .ok ()) :
      Change aircraft (.enqueue instructions)
        { aircraft with queue := aircraft.queue ++ [instructions] }
  | takesUp {next : List Instruction} {queue : List (List Instruction)}
      (free : aircraft.state.IsFree) (waiting : aircraft.queue = next :: queue) :
      Change aircraft .tick (begin { aircraft with queue } next)

theorem change_giveUp (order : Order) (lastOnly : Bool) :
    aircraft.Change order (aircraft.giveUp lastOnly) := by
  unfold giveUp
  split
  · exact .rests order aircraft.state (List.dropLast_subset _)
  · exact .rests order _ (List.nil_subset _)

theorem change_proceed (hfree : aircraft.state.IsFree) :
    aircraft.Change .tick aircraft.proceed := by
  unfold proceed
  split
  · exact .rests .tick .cruising (List.Subset.refl _)
  · next waiting => exact .takesUp hfree waiting

theorem change_respond (aircraft : Aircraft) (order : Order) :
    aircraft.Change order (aircraft.respond order) := by
  cases order with
  | execute instructions =>
    have hexecution := aircraft.execution instructions
    generalize aircraft.respond (.execute instructions) = after at hexecution ⊢
    cases hexecution with
    | refused => exact .rests _ aircraft.state (List.Subset.refl _)
    | gaveUp => exact change_giveUp _ _
    | begun _ hnone hidle hground hfeasible => exact .begins hnone hidle hground hfeasible
  | enqueue instructions =>
    have hqueuing := aircraft.queuing instructions
    generalize aircraft.respond (.enqueue instructions) = after at hqueuing ⊢
    cases hqueuing with
    | refused => exact .rests _ aircraft.state (List.Subset.refl _)
    | queued hfeasible => exact .queues hfeasible
  | tick =>
    rw [respond]
    by_cases hfree : aircraft.state.IsFree
    · rw [tick_of_isFree hfree]
      exact change_proceed hfree
    · rw [tick_eq_of_not_isFree hfree]
      exact .rests .tick _ (List.Subset.refl _)

/-- What holds at every order of a run holds at the first one, and at every order of the run that
goes on from there. -/
theorem forall_order_cons (holds : Aircraft → Order → Prop) (aircraft : Aircraft) (first : Order)
    (orders : List Order) :
    (∀ n order, (first :: orders)[n]? = some order →
        holds (((first :: orders).take n).foldl respond aircraft) order) ↔
      holds aircraft first ∧ ∀ n order, orders[n]? = some order →
        holds ((orders.take n).foldl respond (aircraft.respond first)) order := by
  constructor
  · exact fun h => ⟨h 0 first rfl, fun n order horder => h (n + 1) order horder⟩
  · rintro ⟨hfirst, hlater⟩ n order horder
    cases n with
    | zero =>
      obtain rfl : first = order := Option.some.inj horder
      exact hfirst
    | succ n => exact hlater n order horder

section

variable (aircraft : Aircraft) (instruction : Instruction) (instructions : List Instruction)

theorem foldl_assign_eq {α : Type} {f : Aircraft → α} {instructions : List Instruction}
    (h : ∀ instruction ∈ instructions, ∀ a : Aircraft, f (a.assign instruction) = f a) :
    f (instructions.foldl assign aircraft) = f aircraft := by
  induction instructions generalizing aircraft with
  | nil => rfl
  | cons instruction instructions ih =>
    rw [List.foldl_cons, ih _ fun other hother => h other (List.mem_cons_of_mem _ hother)]
    exact h instruction (by simp) aircraft

@[simp] theorem assign_identifier :
    (aircraft.assign instruction).identifier = aircraft.identifier := by
  cases hcommand : instruction.command <;> simp [assign, hcommand]

@[simp] theorem assign_performance :
    (aircraft.assign instruction).performance = aircraft.performance := by
  cases hcommand : instruction.command <;> simp [assign, hcommand]

@[simp] theorem assign_queue : (aircraft.assign instruction).queue = aircraft.queue := by
  cases hcommand : instruction.command <;> simp [assign, hcommand]

@[simp] theorem assign_chart : (aircraft.assign instruction).chart = aircraft.chart := by
  cases hcommand : instruction.command <;> simp [assign, hcommand]

@[simp] theorem begin_identifier :
    (aircraft.begin instructions).identifier = aircraft.identifier :=
  foldl_assign_eq _ fun instruction _ a => assign_identifier a instruction

@[simp] theorem begin_performance :
    (aircraft.begin instructions).performance = aircraft.performance :=
  foldl_assign_eq _ fun instruction _ a => assign_performance a instruction

@[simp] theorem begin_queue : (aircraft.begin instructions).queue = aircraft.queue :=
  foldl_assign_eq _ fun instruction _ a => assign_queue a instruction

@[simp] theorem begin_chart : (aircraft.begin instructions).chart = aircraft.chart :=
  foldl_assign_eq _ fun instruction _ a => assign_chart a instruction

end

end Aircraft

end ControlTower
