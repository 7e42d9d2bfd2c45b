import ControlTower.Proofs.Airspace.Response
import Mathlib.Data.List.Basic
import Mathlib.Data.List.Range

/-!
# What becomes of queued transmissions

The queue of an aircraft is worked on from both ends and in different states. To say that nothing is
lost, doubled or brought out of order, an account is kept beside the aircraft. It numbers the
transmissions in the order in which they are taken, and by these numbers it says which of them have
been started, which wait, and which have been given up. The account goes by the state of the
aircraft and by its answers; it never looks into the queue. That the queue holds what should wait by
the account is an invariant of every run.
-/

namespace ControlTower

/-- An account of the transmissions that an aircraft has taken. -/
structure Ledger where
  /-- The transmissions, in the order in which they were taken. -/
  taken : List (List Instruction) := []
  /-- The numbers of those with which a tick has begun. -/
  started : List Nat := []
  /-- The numbers of those that wait. -/
  pending : List Nat := []
  /-- The numbers of those that an instruction to abort has made the aircraft give up. -/
  dropped : List Nat := []
deriving Repr, DecidableEq

namespace Ledger

def note (ledger : Ledger) (aircraft : Aircraft) : Order → Ledger
  | .execute instructions =>
    match instructions.find? (·.command = .abort) with
    | some abort =>
      if abort.hasFlag .lastOnly then
        { ledger with
          pending := ledger.pending.dropLast
          dropped := ledger.dropped ++ ledger.pending.getLast?.toList }
      else
        { ledger with
          pending := []
          dropped := ledger.dropped ++ ledger.pending }
    | none => ledger
  | .enqueue instructions =>
    match aircraft.instruct .enqueue instructions with
    | .ok _ =>
      { ledger with
        taken := ledger.taken ++ [instructions]
        pending := ledger.pending ++ [ledger.taken.length] }
    | .error _ => ledger
  | .tick =>
    if aircraft.state.IsFree then
      { ledger with
        started := ledger.started ++ ledger.pending.head?.toList
        pending := ledger.pending.tail }
    else ledger

/-- Instructions that are carried out at once neither add to what was taken nor start any of it. -/
theorem note_execute (ledger : Ledger) (aircraft : Aircraft) (instructions : List Instruction) :
    (ledger.note aircraft (.execute instructions)).taken = ledger.taken ∧
      (ledger.note aircraft (.execute instructions)).started = ledger.started := by
  simp only [note]
  split
  · split <;> exact ⟨rfl, rfl⟩
  · exact ⟨rfl, rfl⟩

/-- The account is true of an aircraft: what waits is what is in the queue, every transmission is
accounted for once, and those that have been started and those that wait follow one another in the
order in which they were taken. -/
structure Accounts (ledger : Ledger) (aircraft : Aircraft) : Prop where
  queue : aircraft.queue.map some = ledger.pending.map (ledger.taken[·]?)
  each_once :
    (ledger.started ++ ledger.pending ++ ledger.dropped).Perm (List.range ledger.taken.length)
  in_order : (ledger.started ++ ledger.pending).Pairwise (· < ·)

/-- An account goes on from another: nothing that was noted for good is taken back. -/
structure GoesOn (ledger later : Ledger) : Prop where
  taken : ledger.taken <+: later.taken
  started : ledger.started <+: later.started
  dropped : ledger.dropped <+: later.dropped

theorem GoesOn.refl (ledger : Ledger) : ledger.GoesOn ledger :=
  ⟨List.prefix_rfl, List.prefix_rfl, List.prefix_rfl⟩

theorem GoesOn.trans {first second third : Ledger} (h : first.GoesOn second)
    (h' : second.GoesOn third) : first.GoesOn third :=
  ⟨h.taken.trans h'.taken, h.started.trans h'.started, h.dropped.trans h'.dropped⟩

namespace Accounts

variable {ledger : Ledger} {aircraft after : Aircraft} {instructions : List Instruction}

theorem lt_length (h : ledger.Accounts aircraft) {number : Nat}
    (hmem : number ∈ ledger.started ++ ledger.pending) : number < ledger.taken.length := by
  have hrange := h.each_once.mem_iff.mp (List.mem_append_left _ hmem)
  exact List.mem_range.mp hrange

theorem queue_of_pending_nil (h : ledger.Accounts aircraft) (hpending : ledger.pending = []) :
    aircraft.queue = [] := by
  have hqueue := h.queue
  rwa [hpending, List.map_nil, List.map_eq_nil_iff] at hqueue

theorem queue_of_pending_cons (h : ledger.Accounts aircraft) {number : Nat} {others : List Nat}
    (hpending : ledger.pending = number :: others) :
    ∃ next waiting, aircraft.queue = next :: waiting ∧ ledger.taken[number]? = some next := by
  have hqueue := h.queue
  rw [hpending, List.map_cons, List.map_eq_cons_iff] at hqueue
  obtain ⟨next, waiting, hcons, htaken, -⟩ := hqueue
  exact ⟨next, waiting, hcons, htaken.symm⟩

theorem of_queue_eq (h : ledger.Accounts aircraft) (hqueue : after.queue = aircraft.queue) :
    ledger.Accounts after := ⟨by rw [hqueue, h.queue], h.each_once, h.in_order⟩

theorem dropAll (h : ledger.Accounts aircraft) (hqueue : after.queue = []) :
    Accounts { ledger with pending := [], dropped := ledger.dropped ++ ledger.pending } after where
  queue := by simp [hqueue]
  each_once := by
    have hmoved : (ledger.dropped ++ ledger.pending).Perm (ledger.pending ++ ledger.dropped) :=
      List.perm_append_comm
    rw [List.append_nil]
    refine (hmoved.append_left ledger.started).trans ?_
    rw [← List.append_assoc]
    exact h.each_once
  in_order := by
    rw [List.append_nil]
    exact (List.pairwise_append.mp h.in_order).1

theorem dropLast (h : ledger.Accounts aircraft) (hqueue : after.queue = aircraft.queue.dropLast) :
    Accounts { ledger with
      pending := ledger.pending.dropLast
      dropped := ledger.dropped ++ ledger.pending.getLast?.toList } after where
  queue := by rw [hqueue, List.map_dropLast, h.queue, ← List.map_dropLast]
  each_once := by
    have hlast : ledger.pending.dropLast ++ ledger.pending.getLast?.toList = ledger.pending := by
      rcases List.eq_nil_or_concat ledger.pending with hnil | ⟨front, last, hcons⟩
      · simp [hnil]
      · simp [hcons]
    have hmoved : (ledger.dropped ++ ledger.pending.getLast?.toList).Perm
        (ledger.pending.getLast?.toList ++ ledger.dropped) := List.perm_append_comm
    refine (hmoved.append_left (ledger.started ++ ledger.pending.dropLast)).trans ?_
    rw [List.append_assoc, ← List.append_assoc ledger.pending.dropLast, hlast,
      ← List.append_assoc]
    exact h.each_once
  in_order :=
    h.in_order.sublist ((List.dropLast_sublist ledger.pending).append_left ledger.started)

theorem take (h : ledger.Accounts aircraft) (hqueue : after.queue = aircraft.queue ++ [instructions]) :
    Accounts { ledger with
      taken := ledger.taken ++ [instructions]
      pending := ledger.pending ++ [ledger.taken.length] } after where
  queue := by
    have hold : ledger.pending.map ((ledger.taken ++ [instructions])[·]?) =
        ledger.pending.map (ledger.taken[·]?) := by
      apply List.map_congr_left
      intro number hmem
      exact List.getElem?_append_left (h.lt_length (List.mem_append_right _ hmem))
    simp [hqueue, h.queue, hold]
  each_once := by
    have hmoved : ([ledger.taken.length] ++ ledger.dropped).Perm
        (ledger.dropped ++ [ledger.taken.length]) := List.perm_append_comm
    have hlength : (ledger.taken ++ [instructions]).length = ledger.taken.length + 1 := by simp
    rw [hlength, List.range_succ, ← List.append_assoc, List.append_assoc _ [_]]
    refine (hmoved.append_left (ledger.started ++ ledger.pending)).trans ?_
    rw [← List.append_assoc]
    exact h.each_once.append_right [ledger.taken.length]
  in_order := by
    rw [← List.append_assoc, List.pairwise_append]
    refine ⟨h.in_order, List.pairwise_singleton _ _, fun number hmem other hother => ?_⟩
    rw [List.mem_singleton.mp hother]
    exact h.lt_length hmem

theorem start (h : ledger.Accounts aircraft) (hqueue : after.queue = aircraft.queue.tail) :
    Accounts { ledger with
      started := ledger.started ++ ledger.pending.head?.toList
      pending := ledger.pending.tail } after := by
  have hfront : ledger.pending.head?.toList ++ ledger.pending.tail = ledger.pending := by
    cases ledger.pending <;> rfl
  have hsame : ledger.started ++ ledger.pending.head?.toList ++ ledger.pending.tail =
      ledger.started ++ ledger.pending := by rw [List.append_assoc, hfront]
  constructor
  · rw [hqueue, List.map_tail, h.queue, ← List.map_tail]
  · simpa only [hsame] using h.each_once
  · simpa only [hsame] using h.in_order

end Accounts

end Ledger

namespace Aircraft

variable {aircraft : Aircraft} {instructions : List Instruction}

theorem respond_of_abort {abort : Instruction}
    (h : instructions.find? (·.command = .abort) = some abort) :
    aircraft.respond (.execute instructions) = aircraft.giveUp (abort.hasFlag .lastOnly) :=
  respond_execute_of_ok (execute_eq_ok_iff.mpr (.inl ⟨abort, h, rfl⟩))

theorem queue_respond_execute (hnone : instructions.find? (·.command = .abort) = none) :
    (aircraft.respond (.execute instructions)).queue = aircraft.queue := by
  have hexecution := aircraft.execution instructions
  generalize aircraft.respond (.execute instructions) = after at hexecution ⊢
  cases hexecution with
  | refused => rfl
  | gaveUp _ hfound => cases hnone.symm.trans hfound
  | begun => exact begin_queue _ _

theorem queue_proceed (aircraft : Aircraft) : aircraft.proceed.queue = aircraft.queue.tail := by
  unfold proceed
  split
  · next hqueue => simp [hqueue]
  · next hqueue => rw [begin_queue, hqueue, List.tail_cons]

end Aircraft

theorem Ledger.Accounts.respond {ledger : Ledger} {aircraft : Aircraft}
    (h : ledger.Accounts aircraft) (order : Order) :
    (ledger.note aircraft order).Accounts (aircraft.respond order) := by
  cases order with
  | execute instructions =>
    simp only [note]
    split
    · next abort habort =>
      rw [Aircraft.respond_of_abort habort, Aircraft.giveUp]
      split
      · exact h.dropLast rfl
      · exact h.dropAll rfl
    · next hnone => exact h.of_queue_eq (Aircraft.queue_respond_execute hnone)
  | enqueue instructions =>
    simp only [note]
    split
    · next after henqueue =>
      rw [Aircraft.respond_enqueue_of_ok henqueue]
      obtain ⟨-, -, rfl⟩ := Aircraft.enqueue_eq_ok_iff.mp henqueue
      exact h.take rfl
    · next refusal henqueue =>
      rw [Aircraft.respond_enqueue_of_error henqueue]
      exact h
  | tick =>
    simp only [note, Aircraft.respond]
    split
    · next hfree =>
      rw [Aircraft.tick_of_isFree hfree]
      exact h.start aircraft.queue_proceed
    · next hbusy =>
      obtain ⟨state, hstate⟩ := Aircraft.tick_of_not_isFree hbusy
      rw [hstate]
      exact h.of_queue_eq rfl

structure Watch where
  aircraft : Aircraft
  ledger : Ledger := {}
deriving Repr, DecidableEq

namespace Watch

def follow (watch : Watch) (order : Order) : Watch where
  aircraft := watch.aircraft.respond order
  ledger := watch.ledger.note watch.aircraft order

def run (watch : Watch) (orders : List Order) : Watch := orders.foldl follow watch

theorem accounts_run (watch : Watch) (h : watch.ledger.Accounts watch.aircraft)
    (orders : List Order) :
    (watch.run orders).ledger.Accounts (watch.run orders).aircraft := by
  induction orders generalizing watch with
  | nil => exact h
  | cons order orders ih => exact ih (watch.follow order) (h.respond order)

end Watch

end ControlTower
