import ControlTower.Proofs.Airspace.Obedience
import ControlTower.Proofs.Airspace.Queue
import Mathlib.Logic.Function.Iterate

/-!
# When a queue has been worked off

A transmission that makes an aircraft neither circle nor land takes the ticks of one maneuver. An
aircraft that has queued nothing but such transmissions therefore works them off on a schedule that
is known beforehand, as long as it is told nothing else: with which tick it begins each of them,
when it has nothing left to do, and what has been assigned to it by then.
-/

namespace ControlTower

/-- In such a state, an aircraft takes up what it has queued with the given tick, where the next
tick is the first. -/
inductive FlightState.FreeIn : FlightState → Nat → Prop where
  | cruising : FreeIn .cruising 1
  | maneuvering {remaining : Nat} (h : 1 ≤ remaining) : FreeIn (.maneuvering remaining) remaining

theorem FlightState.FreeIn.isFree_iff {state : FlightState} {ticks : Nat}
    (h : state.FreeIn ticks) : state.IsFree ↔ ticks = 1 := by
  cases h with
  | cruising => simp [IsFree]
  | maneuvering h =>
    rw [IsFree]
    omega

/-- Instructions that take one maneuver: none of them is to circle or to land. -/
def IsManeuver (instructions : List Instruction) : Prop :=
  ∀ instruction ∈ instructions, instruction.command ≠ .circle ∧ instruction.command ≠ .land

namespace Aircraft

variable {aircraft : Aircraft} {instructions next : List Instruction}
  {waiting : List (List Instruction)} {ticks k : Nat}

def Starts (aircraft : Aircraft) (next : List Instruction) (waiting : List (List Instruction)) :
    Prop :=
  aircraft.queue = next :: waiting ∧ aircraft.tick = begin { aircraft with queue := waiting } next

def IsIdle (aircraft : Aircraft) : Prop := aircraft.state = .cruising ∧ aircraft.queue = []

theorem state_begin_of_isManeuver (h : IsManeuver instructions) (aircraft : Aircraft) :
    (aircraft.begin instructions).state = .maneuvering maneuverTicks :=
  aircraft.get_begin .state (by simpa [IsManeuver, Aspect.commands] using h)

theorem freeIn_begin (h : IsManeuver instructions) (aircraft : Aircraft) :
    (aircraft.begin instructions).state.FreeIn maneuverTicks := by
  rw [state_begin_of_isManeuver h]
  exact .maneuvering (by decide)

theorem begin_withQueue (aircraft : Aircraft) (queue : List (List Instruction))
    (instructions : List Instruction) :
    begin { aircraft with queue } instructions = { aircraft.begin instructions with queue } := by
  have hassign : ∀ (a : Aircraft) (instruction : Instruction),
      assign { a with queue } instruction = { a.assign instruction with queue } := by
    intro a instruction
    cases hcommand : instruction.command <;> simp only [assign, hcommand]
  let start : Aircraft := { aircraft with state := .maneuvering maneuverTicks }
  have hfold : instructions.foldl assign { start with queue } =
      { instructions.foldl assign start with queue } :=
    List.foldl_hom (fun a : Aircraft => { a with queue }) hassign
  exact hfold

theorem foldl_begin_withQueue (aircraft : Aircraft)
    (queue transmissions : List (List Instruction)) :
    transmissions.foldl begin { aircraft with queue } =
      { transmissions.foldl begin aircraft with queue } :=
  List.foldl_hom (fun a : Aircraft => { a with queue }) fun a => begin_withQueue a queue

theorem proceed_withState (aircraft : Aircraft) (state : FlightState) :
    proceed { aircraft with state } = aircraft.proceed := rfl

theorem starts_iff :
    aircraft.Starts next waiting ↔ aircraft.state.IsFree ∧ aircraft.queue = next :: waiting := by
  rw [Starts, and_comm (a := aircraft.state.IsFree)]
  refine and_congr_right fun hqueue => ⟨fun htick => ?_, fun hfree => ?_⟩
  · by_contra hbusy
    obtain ⟨state, hstate⟩ := tick_of_not_isFree hbusy
    have hleft := congrArg queue (hstate.symm.trans htick)
    rw [begin_queue, hqueue] at hleft
    exact List.cons_ne_self next waiting hleft
  · rw [tick_of_isFree hfree, proceed, hqueue]

/-- Until the aircraft is free, ticks change nothing but its state. -/
theorem iterate_tick_of_lt (h : aircraft.state.FreeIn ticks) (hk : k < ticks) :
    ∃ state, tick^[k] aircraft = { aircraft with state } ∧ state.FreeIn (ticks - k) ∧
      (state = .cruising → aircraft.state = .cruising) := by
  induction k with
  | zero => exact ⟨aircraft.state, rfl, h, id⟩
  | succ k ih =>
    obtain ⟨state, htick, hstate, -⟩ := ih (by omega)
    rw [Function.iterate_succ_apply', htick]
    generalize hleft : ticks - k = left at hstate
    cases hstate with
    | cruising => omega
    | maneuvering _ =>
      have hmore : 1 < left := by omega
      refine ⟨.maneuvering (left - 1), if_pos hmore, ?_, by simp⟩
      rw [← Nat.sub_sub, hleft]
      exact .maneuvering (by omega)

theorem iterate_tick_of_freeIn (h : aircraft.state.FreeIn ticks) :
    tick^[ticks] aircraft = aircraft.proceed := by
  have hpos : 1 ≤ ticks := by
    generalize aircraft.state = state at h
    cases h with
    | cruising => exact Nat.le_refl 1
    | maneuvering h => exact h
  obtain ⟨last, rfl⟩ := Nat.exists_eq_add_of_le' hpos
  obtain ⟨state, htick, hstate, -⟩ := iterate_tick_of_lt h (Nat.lt_add_one last)
  have hfree : state.IsFree := hstate.isFree_iff.mpr (by omega)
  rw [Function.iterate_succ_apply', htick, tick_of_isFree hfree, proceed_withState]

/-- From the tick on that starts the next transmission, all is as if the aircraft had just been told
to carry it out. -/
theorem iterate_tick_add (h : aircraft.state.FreeIn ticks)
    (hqueue : aircraft.queue = next :: waiting) (k : Nat) :
    tick^[ticks + k] aircraft = tick^[k] (begin { aircraft with queue := waiting } next) := by
  rw [Nat.add_comm, Function.iterate_add_apply, iterate_tick_of_freeIn h, proceed, hqueue]

theorem proceed_of_queue_nil (h : aircraft.queue = []) :
    aircraft.proceed = { aircraft with state := .cruising, queue := [] } := by rw [proceed, h]

theorem tick_of_isIdle (h : aircraft.IsIdle) : aircraft.tick = aircraft := by
  obtain ⟨hstate, hqueue⟩ := h
  have hfree : aircraft.state.IsFree := hstate ▸ trivial
  rw [tick_of_isFree hfree, proceed_of_queue_nil hqueue, ← hstate, ← hqueue]

theorem queue_tick_isSuffix (aircraft : Aircraft) : aircraft.tick.queue <:+ aircraft.queue := by
  by_cases hfree : aircraft.state.IsFree
  · rw [tick_of_isFree hfree, queue_proceed]
    exact List.tail_suffix aircraft.queue
  · obtain ⟨state, hstate⟩ := tick_of_not_isFree hfree
    have hkept : aircraft.tick.queue = aircraft.queue := by rw [hstate]
    exact hkept ▸ List.suffix_rfl

theorem queue_iterate_tick_isSuffix (aircraft : Aircraft) (k : Nat) :
    (tick^[k] aircraft).queue <:+ aircraft.queue := by
  induction k with
  | zero => exact List.suffix_rfl
  | succ k ih =>
    rw [Function.iterate_succ_apply']
    exact (queue_tick_isSuffix _).trans ih

theorem not_starts_of_length_ne (h : aircraft.queue.length ≠ waiting.length + 1) :
    ¬ aircraft.Starts next waiting :=
  fun hstarts => h (by rw [hstarts.1, List.length_cons])

/-- The transmission behind `i` others is begun after as many maneuvers. -/
theorem starts_iterate_tick_iff {transmissions : List (List Instruction)}
    (hqueue : aircraft.queue = transmissions) (h : aircraft.state.FreeIn ticks)
    (hmaneuvers : ∀ transmission ∈ transmissions, IsManeuver transmission) {i : Nat}
    (hnext : transmissions[i]? = some next) (k : Nat) :
    (tick^[k] aircraft).Starts next (transmissions.drop (i + 1)) ↔
      k + 1 = ticks + maneuverTicks * i := by
  induction transmissions generalizing aircraft ticks i k with
  | nil => cases hnext
  | cons first others ih =>
    rw [List.forall_mem_cons] at hmaneuvers
    by_cases hk : k < ticks
    · obtain ⟨state, htick, hstate, -⟩ := iterate_tick_of_lt h hk
      rw [htick]
      cases i with
      | zero =>
        obtain rfl : first = next := Option.some.inj hnext
        rw [starts_iff, hstate.isFree_iff]
        simp only [hqueue, List.drop_succ_cons, List.drop_zero, and_true]
        omega
      | succ i =>
        have hi := (List.getElem?_eq_some_iff.mp hnext).1
        have hmore : maneuverTicks * (i + 1) ≠ 0 := by simp [maneuverTicks]
        refine iff_of_false (not_starts_of_length_ne ?_) (by omega)
        rw [hqueue, List.length_drop, List.length_cons]
        simp only [List.length_cons] at hi
        omega
    · obtain ⟨later, rfl⟩ := Nat.exists_eq_add_of_le (Nat.not_lt.mp hk)
      rw [iterate_tick_add h hqueue]
      cases i with
      | zero =>
        have hbegun := begin_queue { aircraft with queue := others } first
        have hleft := (queue_iterate_tick_isSuffix (begin { aircraft with queue := others } first)
          later).length_le
        rw [hbegun] at hleft
        refine iff_of_false (not_starts_of_length_ne ?_) (by omega)
        rw [List.drop_succ_cons, List.drop_zero]
        exact Nat.ne_of_lt (Nat.lt_succ_of_le hleft)
      | succ i =>
        have hlater := ih (begin_queue { aircraft with queue := others } first)
          (freeIn_begin hmaneuvers.1 _) hmaneuvers.2 hnext later
        rw [List.drop_succ_cons, hlater, Nat.mul_succ]
        omega

/-- An aircraft that has something to do is idle once it has had the time for all of it. -/
theorem isIdle_iterate_tick_iff {transmissions : List (List Instruction)}
    (hqueue : aircraft.queue = transmissions) (h : aircraft.state.FreeIn ticks)
    (hmaneuvers : ∀ transmission ∈ transmissions, IsManeuver transmission)
    (hbusy : ¬ aircraft.IsIdle) (k : Nat) :
    (tick^[k] aircraft).IsIdle ↔ ticks + maneuverTicks * transmissions.length ≤ k := by
  induction transmissions generalizing aircraft ticks k with
  | nil =>
    have hstate : aircraft.state ≠ .cruising := fun hcruising => hbusy ⟨hcruising, hqueue⟩
    by_cases hk : k < ticks
    · obtain ⟨state, htick, -, hcruising⟩ := iterate_tick_of_lt h hk
      rw [htick]
      exact iff_of_false (fun hidle => hstate (hcruising hidle.1)) (by simpa using hk)
    · obtain ⟨later, rfl⟩ := Nat.exists_eq_add_of_le (Nat.not_lt.mp hk)
      have hidle : aircraft.proceed.IsIdle := by
        rw [proceed_of_queue_nil hqueue]
        exact ⟨rfl, rfl⟩
      rw [Nat.add_comm, Function.iterate_add_apply, iterate_tick_of_freeIn h,
        Function.iterate_fixed (tick_of_isIdle hidle)]
      simpa using hidle
  | cons first others ih =>
    rw [List.forall_mem_cons] at hmaneuvers
    by_cases hk : k < ticks
    · obtain ⟨state, htick, -, -⟩ := iterate_tick_of_lt h hk
      rw [htick]
      refine iff_of_false (fun hidle => ?_) (by omega)
      exact List.cons_ne_nil first others (hqueue.symm.trans hidle.2)
    · obtain ⟨later, rfl⟩ := Nat.exists_eq_add_of_le (Nat.not_lt.mp hk)
      have hmaneuver := state_begin_of_isManeuver hmaneuvers.1 { aircraft with queue := others }
      rw [iterate_tick_add h hqueue, ih (begin_queue _ first) (freeIn_begin hmaneuvers.1 _)
        hmaneuvers.2 (fun hidle => nomatch hmaneuver.symm.trans hidle.1), List.length_cons,
        Nat.mul_succ]
      omega

/-- From then on, it stays as the transmissions have left it, one after the other. -/
theorem iterate_tick_of_le {transmissions : List (List Instruction)}
    (hqueue : aircraft.queue = transmissions) (h : aircraft.state.FreeIn ticks)
    (hmaneuvers : ∀ transmission ∈ transmissions, IsManeuver transmission)
    (hk : ticks + maneuverTicks * transmissions.length ≤ k) :
    tick^[k] aircraft =
      { transmissions.foldl begin aircraft with state := .cruising, queue := [] } := by
  induction transmissions generalizing aircraft ticks k with
  | nil =>
    obtain ⟨later, rfl⟩ := Nat.exists_eq_add_of_le hk
    rw [List.length_nil, Nat.mul_zero, Nat.add_zero, Nat.add_comm, Function.iterate_add_apply,
      iterate_tick_of_freeIn h, proceed_of_queue_nil hqueue]
    exact Function.iterate_fixed (tick_of_isIdle ⟨rfl, rfl⟩) later
  | cons first others ih =>
    rw [List.forall_mem_cons] at hmaneuvers
    rw [List.length_cons, Nat.mul_succ] at hk
    obtain ⟨later, rfl⟩ := Nat.exists_eq_add_of_le (Nat.le_of_add_right_le hk)
    rw [iterate_tick_add h hqueue, ih (begin_queue _ first) (freeIn_begin hmaneuvers.1 _)
      hmaneuvers.2 (by omega), begin_withQueue, foldl_begin_withQueue, List.foldl_cons]

/-- How an aircraft works off its queue when nothing else is asked of it and it takes up the first
transmission with the given tick. -/
structure WorksOff (aircraft : Aircraft) (ticks : Nat) : Prop where
  /-- Each transmission is begun at its time and at no other. -/
  starts : ∀ i next, aircraft.queue[i]? = some next → ∀ k,
    (tick^[k] aircraft).Starts next (aircraft.queue.drop (i + 1)) ↔
      k + 1 = ticks + maneuverTicks * i
  /-- It has nothing left to do when the time for the last one is over, and not before. -/
  idle : ∀ k, (tick^[k] aircraft).IsIdle ↔ ticks + maneuverTicks * aircraft.queue.length ≤ k
  /-- It is left with all that the transmissions have assigned to it, one after the other. -/
  settled : ∀ k, ticks + maneuverTicks * aircraft.queue.length ≤ k →
    tick^[k] aircraft =
      { aircraft.queue.foldl begin aircraft with state := .cruising, queue := [] }

/-- A queue of maneuvers runs out on schedule, and with the combined effect of its transmissions. -/
theorem worksOff_of_isManeuver (aircraft : Aircraft) (ticks : Nat)
    (hfree : aircraft.state.FreeIn ticks) (hqueue : aircraft.queue ≠ [])
    (hmaneuvers : ∀ transmission ∈ aircraft.queue, IsManeuver transmission) :
    aircraft.WorksOff ticks where
  starts _ _ hnext k := starts_iterate_tick_iff rfl hfree hmaneuvers hnext k
  idle k := isIdle_iterate_tick_iff rfl hfree hmaneuvers (fun hidle => hqueue hidle.2) k
  settled _ hk := iterate_tick_of_le rfl hfree hmaneuvers hk

/-- Two transmissions wait for the end of a maneuver that takes three more ticks. -/
theorem worksOff_of_isManeuver_two_queued :
    let climb : List Instruction :=
      [⟨.altitude, [.number 5000], []⟩, ⟨.speed, [.number 200], []⟩]
    let turn : List Instruction := [⟨.heading, [.number 270], [.longTurn]⟩]
    let aircraft : Aircraft :=
      { identifier := "ABC1234", state := .maneuvering 3, queue := [climb, turn] }
    aircraft.WorksOff 3 ∧
      tick^[7] aircraft =
        { aircraft with
          state := .cruising, queue := [], altitude := 5000, speed := 200, heading := 270 } := by
  intro climb turn aircraft
  have hmaneuvers : ∀ transmission ∈ aircraft.queue, IsManeuver transmission := by
    simp only [IsManeuver]
    decide
  have hworks := worksOff_of_isManeuver aircraft 3 (.maneuvering (by decide))
    (List.cons_ne_nil _ _) hmaneuvers
  exact ⟨hworks, hworks.settled 7 (by decide)⟩

end Aircraft

end ControlTower
