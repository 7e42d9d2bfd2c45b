import ControlTower.Proofs.Airspace.Endings
import ControlTower.Proofs.Airspace.Queue
import Mathlib.Data.List.Nodup

/-!
# Where flights begin

An aircraft takes off from the ground only, and on the ground it does nothing but take off. It is
held to this when it is told to carry out instructions at once. What it queues is not looked at in
this way, neither when it is queued nor when it is taken up, and an aircraft on the ground takes up
nothing. A takeoff that is taken up from the queue is therefore always one in the air. So the rule
holds in a run exactly as long as no takeoff that has been queued is taken up, which is said here by
the account that is kept of the queue.
-/

namespace ControlTower

def TakesOff (instructions : List Instruction) : Prop :=
  ∃ instruction ∈ instructions, instruction.command = .takeoff

namespace Aircraft

variable {aircraft : Aircraft} {order : Order} {instructions : List Instruction}

/-- An order makes an aircraft carry out instructions: those that it is given, if it takes them and
they do not tell it to give up, or those that have waited longest. -/
inductive CarriesOut (aircraft : Aircraft) : Order → List Instruction → Prop where
  | execute {instructions : List Instruction} {after : Aircraft}
      (taken : aircraft.instruct .execute instructions = .ok after)
      (no_abort : ∀ instruction ∈ instructions, instruction.command ≠ .abort) :
      CarriesOut aircraft (.execute instructions) instructions
  | tick {next : List Instruction} {waiting : List (List Instruction)}
      (free : aircraft.state.IsFree) (queue : aircraft.queue = next :: waiting) :
      CarriesOut aircraft .tick next

/-- An order keeps to the rule that an aircraft takes off from the ground only. -/
def KeepsToGround (aircraft : Aircraft) (order : Order) : Prop :=
  ∀ instructions, aircraft.CarriesOut order instructions → TakesOff instructions →
    aircraft.state = .parked

theorem CarriesOut.respond_eq (h : aircraft.CarriesOut order instructions) :
    ∃ queue, aircraft.respond order = begin { aircraft with queue } instructions := by
  cases h with
  | execute taken no_abort =>
    obtain ⟨-, -, -, rfl⟩ := (execute_eq_ok_iff_of_ne_abort no_abort).mp taken
    exact ⟨aircraft.queue, respond_execute_of_ok taken⟩
  | @tick _ waiting free queue =>
    refine ⟨waiting, ?_⟩
    rw [respond, tick_of_isFree free, proceed, queue]

theorem keepsToGround_execute (aircraft : Aircraft) (instructions : List Instruction) :
    aircraft.KeepsToGround (.execute instructions) := by
  rintro _ (⟨taken, no_abort⟩ | _) htakeoff
  obtain ⟨-, hground, -⟩ := (execute_eq_ok_iff_of_ne_abort no_abort).mp taken
  exact (checkGround_eq_ok_iff.mp hground).mpr htakeoff

theorem keepsToGround_enqueue (aircraft : Aircraft) (instructions : List Instruction) :
    aircraft.KeepsToGround (.enqueue instructions) := by
  rintro _ ⟨⟩

/-- An aircraft that takes up what it has queued is in the air. -/
theorem keepsToGround_tick_iff :
    aircraft.KeepsToGround .tick ↔
      (aircraft.state.IsFree → ∀ next ∈ aircraft.queue.head?, ¬ TakesOff next) := by
  constructor
  · intro hkeeps hfree next hnext htakeoff
    obtain ⟨waiting, hqueue⟩ := List.head?_eq_some_iff.mp hnext
    have hparked := hkeeps next (.tick hfree hqueue) htakeoff
    simp [hparked, FlightState.IsFree] at hfree
  · rintro hnone _ (_ | ⟨free, queue⟩) htakeoff
    exact absurd htakeoff (hnone free _ (by rw [queue]; rfl))

end Aircraft

namespace Ledger

variable {ledger : Ledger} {aircraft : Aircraft}

/-- The account of an aircraft with transmissions in its queue of which nothing is known but that
they wait. -/
def ofQueue (queue : List (List Instruction)) : Ledger :=
  { taken := queue, pending := List.range queue.length }

theorem accounts_ofQueue (aircraft : Aircraft) : (ofQueue aircraft.queue).Accounts aircraft where
  queue := by
    apply List.ext_getElem?
    intro place
    by_cases h : place < aircraft.queue.length <;> simp [ofQueue, h]
  each_once := by simp [ofQueue]
  in_order := List.pairwise_lt_range

def NoTakeoffStarted (ledger : Ledger) : Prop :=
  ∀ number ∈ ledger.started, ∀ transmission ∈ ledger.taken[number]?, ¬ TakesOff transmission

theorem noTakeoffStarted_congr {later : Ledger} (hstarted : later.started = ledger.started)
    (htaken : ∀ number ∈ ledger.started, later.taken[number]? = ledger.taken[number]?) :
    later.NoTakeoffStarted ↔ ledger.NoTakeoffStarted := by
  unfold NoTakeoffStarted
  rw [hstarted]
  refine forall_congr' fun number => forall_congr' fun hmem => ?_
  rw [htaken number hmem]

theorem Accounts.noTakeoffStarted_note_iff (h : ledger.Accounts aircraft) (order : Order) :
    (ledger.note aircraft order).NoTakeoffStarted ↔
      ledger.NoTakeoffStarted ∧ aircraft.KeepsToGround order := by
  cases order with
  | execute instructions =>
    rw [and_iff_left (aircraft.keepsToGround_execute instructions)]
    obtain ⟨htaken, hstarted⟩ := ledger.note_execute aircraft instructions
    exact noTakeoffStarted_congr hstarted fun number _ => by rw [htaken]
  | enqueue instructions =>
    rw [and_iff_left (aircraft.keepsToGround_enqueue instructions)]
    simp only [note]
    split
    · refine noTakeoffStarted_congr rfl fun number hmem => ?_
      exact List.getElem?_append_left (h.lt_length (List.mem_append_left _ hmem))
    · rfl
  | tick =>
    rw [Aircraft.keepsToGround_tick_iff]
    by_cases hfree : aircraft.state.IsFree
    · rw [note, if_pos hfree]
      cases hpending : ledger.pending with
      | nil => simp [NoTakeoffStarted, h.queue_of_pending_nil hpending]
      | cons number others =>
        obtain ⟨next, waiting, hcons, htaken⟩ := h.queue_of_pending_cons hpending
        have hnumber : (∀ transmission ∈ ledger.taken[number]?, ¬ TakesOff transmission) ↔
            ¬ TakesOff next := by simp [htaken]
        have hnext : (aircraft.state.IsFree → ∀ first ∈ aircraft.queue.head?, ¬ TakesOff first) ↔
            ¬ TakesOff next := by simp [hfree, hcons]
        rw [hnext, ← hnumber]
        simp only [NoTakeoffStarted, List.head?_cons, Option.toList_some, List.forall_mem_append,
          List.forall_mem_singleton]
    · rw [note, if_neg hfree]
      exact (and_iff_left fun hfree' => absurd hfree' hfree).symm

theorem Accounts.noTakeoffStarted_iff (h : ledger.Accounts aircraft) :
    ledger.NoTakeoffStarted ↔
      ∀ number transmission, ledger.taken[number]? = some transmission → TakesOff transmission →
        number ∈ ledger.pending ∨ number ∈ ledger.dropped := by
  have honce : (ledger.started ++ ledger.pending ++ ledger.dropped).Nodup :=
    h.each_once.nodup_iff.mpr List.nodup_range
  constructor
  · intro hnone number transmission htaken htakeoff
    obtain ⟨hlt, -⟩ := List.getElem?_eq_some_iff.mp htaken
    have hmem := h.each_once.mem_iff.mpr (List.mem_range.mpr hlt)
    rw [List.append_assoc, List.mem_append] at hmem
    rcases hmem with hstarted | hmem
    · exact absurd htakeoff (hnone number hstarted transmission htaken)
    · exact List.mem_append.mp hmem
  · intro hwaits number hstarted transmission htaken htakeoff
    have hmem := List.mem_append.mpr (hwaits number transmission htaken htakeoff)
    rw [List.append_assoc] at honce
    exact List.disjoint_of_nodup_append honce hstarted hmem

end Ledger

theorem Watch.noTakeoffStarted_run_iff {watch : Watch} (h : watch.ledger.Accounts watch.aircraft)
    (orders : List Order) :
    (watch.run orders).ledger.NoTakeoffStarted ↔
      watch.ledger.NoTakeoffStarted ∧ ∀ n order, orders[n]? = some order →
        ((orders.take n).foldl Aircraft.respond watch.aircraft).KeepsToGround order := by
  induction orders generalizing watch with
  | nil => simp [run]
  | cons order orders ih =>
    have hstep := h.noTakeoffStarted_note_iff order
    have hrest : ((watch.follow order).run orders).ledger.NoTakeoffStarted ↔ _ :=
      ih (h.respond order)
    rw [run, List.foldl_cons, ← run, hrest]
    rw [Aircraft.forall_order_cons Aircraft.KeepsToGround, ← and_assoc, ← hstep]
    rfl

namespace Aircraft

/-- Along a run an aircraft takes off from the ground only, exactly when every transmission with a
takeoff that has been in its queue still waits there at the end or has been given up. What it is
told to do at once never makes it take off in the air; what it takes up from the queue always
does. -/
theorem takesOff_parked_iff (aircraft : Aircraft) (orders : List Order) :
    let ledger := (Watch.run { aircraft, ledger := .ofQueue aircraft.queue } orders).ledger
    (∀ n order, orders[n]? = some order →
      ((orders.take n).foldl respond aircraft).KeepsToGround order) ↔
      ∀ number transmission, ledger.taken[number]? = some transmission → TakesOff transmission →
        number ∈ ledger.pending ∨ number ∈ ledger.dropped := by
  intro ledger
  let watch : Watch := { aircraft, ledger := .ofQueue aircraft.queue }
  have hstart : watch.ledger.Accounts watch.aircraft := Ledger.accounts_ofQueue aircraft
  have haccounts := watch.accounts_run hstart orders
  have hrun := Watch.noTakeoffStarted_run_iff hstart orders
  have hnone : (Ledger.ofQueue aircraft.queue).NoTakeoffStarted := by
    simp [Ledger.NoTakeoffStarted, Ledger.ofQueue]
  rw [← haccounts.noTakeoffStarted_iff, hrun, and_iff_right hnone]

theorem takesOff_parked_given_up :
    let aircraft : Aircraft := .parked "EZY0042"
    let takeoff : List Instruction := [{ command := .takeoff, arguments := [.number 2000] }]
    let abort : List Instruction := [{ command := .abort }]
    let orders : List Order := [.enqueue takeoff, .execute takeoff, .execute abort, .tick]
    (orders.foldl respond aircraft).altitude = 2000 ∧
      ∀ n order, orders[n]? = some order →
        ((orders.take n).foldl respond aircraft).KeepsToGround order := by
  intro aircraft takeoff abort orders
  refine ⟨by decide +kernel, (takesOff_parked_iff aircraft orders).mpr ?_⟩
  have hledger : (Watch.run { aircraft, ledger := .ofQueue aircraft.queue } orders).ledger =
      { taken := [takeoff], dropped := [0] } := by decide +kernel
  rw [hledger]
  intro number transmission htaken _
  obtain ⟨hlt, -⟩ := List.getElem?_eq_some_iff.mp htaken
  obtain rfl : number = 0 := Nat.lt_one_iff.mp hlt
  exact .inr (List.mem_singleton_self 0)

/-- A takeoff that an aircraft has queued in the air is carried out in the air, although an operator
can give these orders. -/
theorem not_keepsToGround_queued_takeoff :
    ¬ ∀ (aircraft : Aircraft) (orders : List Order), (∀ order ∈ orders, order.Readable) →
      ∀ n order, orders[n]? = some order →
        ((orders.take n).foldl respond aircraft).KeepsToGround order := by
  let aircraft : Aircraft := { identifier := "BAW1234" }
  let takeoff : List Instruction := [{ command := .takeoff, arguments := [.number 2000] }]
  have htakeoff : ReadingRules.read {} ".baw1234 takeoff 20" =
      .accepted (.aircraft .enqueue "BAW1234" takeoff) := by
    rw [ReadingRules.read_eq_outcome]
    decide +kernel
  have hreadable : ∀ order ∈ [.enqueue takeoff, .tick], Order.Readable order := by
    simp only [List.forall_mem_cons]
    exact ⟨⟨_, _, _, htakeoff⟩, trivial, by simp⟩
  intro hground
  have htick := hground aircraft _ hreadable 1 .tick rfl
  have hparked := htick takeoff (.tick trivial rfl) ⟨_, List.mem_singleton_self _, rfl⟩
  cases hparked

end Aircraft

end ControlTower
