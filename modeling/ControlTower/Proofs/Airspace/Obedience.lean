import ControlTower.Proofs.Airspace.Response
import ControlTower.Proofs.Phraseology.Acceptance

/-!
# Accepted instructions are obeyed

An aircraft looks only at the first instruction to abort, lets a later instruction override an
earlier one, and falls back to what it had when an argument is missing. None of this loses anything
of a transmission that was accepted: its instructions have their arguments, an instruction to abort
stands alone, and no two instructions assign the same thing. They can therefore be carried out in
any order, each may be thought of as the last one, and what it assigns stays assigned.
-/

namespace ControlTower

inductive Aspect where
  | heading
  | altitude
  | speed
  | state
deriving Repr, DecidableEq

def Command.aspects : Command → List Aspect
  | heading => [.heading]
  | altitude => [.altitude]
  | speed => [.speed]
  | takeoff => [.altitude, .speed]
  | land => [.state]
  | circle => [.state]
  | abort => []

/-- An aircraft has done what it was told, and nothing else. -/
structure Obeyed (before after : Aircraft) (instructions : List Instruction) : Prop where
  heading : ∀ instruction ∈ instructions, instruction.command = .heading →
    instruction.arguments = [.number after.heading]
  altitude : ∀ instruction ∈ instructions,
    instruction.command = .altitude ∨ instruction.command = .takeoff →
      instruction.arguments = [.number after.altitude]
  speed : ∀ instruction ∈ instructions, instruction.command = .speed →
    instruction.arguments = [.number after.speed]
  takeoff : ∀ instruction ∈ instructions, instruction.command = .takeoff →
    after.speed = max before.speed before.performance.minSpeed
  circle : ∀ instruction ∈ instructions, instruction.command = .circle →
    ∃ direction, instruction.arguments = [.text direction] ∧ after.state = .circling direction
  land : ∀ instruction ∈ instructions, instruction.command = .land →
    ∃ airport runway, instruction.arguments = [.text airport, .text runway] ∧
      after.state = .approaching (Text.upper airport) (Text.upper runway) approachTicks
  maneuver : (∀ instruction ∈ instructions,
    instruction.command ≠ .circle ∧ instruction.command ≠ .land) →
      after.state = .maneuvering maneuverTicks
  heading_kept : (∀ instruction ∈ instructions, instruction.command ≠ .heading) →
    after.heading = before.heading
  altitude_kept : (∀ instruction ∈ instructions,
    instruction.command ≠ .altitude ∧ instruction.command ≠ .takeoff) →
      after.altitude = before.altitude
  speed_kept : (∀ instruction ∈ instructions,
    instruction.command ≠ .speed ∧ instruction.command ≠ .takeoff) →
      after.speed = before.speed
  queue_kept : after.queue = before.queue
  identifier_kept : after.identifier = before.identifier
  performance_kept : after.performance = before.performance
  chart_kept : after.chart = before.chart

def Aspect.commands : Aspect → List Command
  | heading => [.heading]
  | altitude => [.altitude, .takeoff]
  | speed => [.speed, .takeoff]
  | state => [.circle, .land]

theorem Command.mem_aspects_iff {command : Command} {aspect : Aspect} :
    aspect ∈ command.aspects ↔ command ∈ aspect.commands := by
  cases command <;> cases aspect <;> decide

def Aspect.Value : Aspect → Type
  | state => FlightState
  | _ => Int

namespace Aircraft

variable {aircraft : Aircraft} {instruction other : Instruction} {aspect : Aspect}

def get (aircraft : Aircraft) : (aspect : Aspect) → aspect.Value
  | .heading => aircraft.heading
  | .altitude => aircraft.altitude
  | .speed => aircraft.speed
  | .state => aircraft.state

theorem get_assign (h : aspect ∉ instruction.command.aspects) :
    (aircraft.assign instruction).get aspect = aircraft.get aspect := by
  revert h
  cases aspect <;> cases hcommand : instruction.command <;>
    simp [assign, get, hcommand, Command.aspects] <;> rfl

theorem get_foldl_assign {instructions : List Instruction}
    (h : ∀ instruction ∈ instructions, aspect ∉ instruction.command.aspects) :
    (instructions.foldl assign aircraft).get aspect = aircraft.get aspect := by
  apply foldl_assign_eq (f := fun a => a.get aspect)
  intro instruction hmem a
  exact get_assign (h instruction hmem)

/-- Instructions leave alone what none of them assigns. -/
theorem get_begin (aircraft : Aircraft) (aspect : Aspect) {instructions : List Instruction}
    (h : ∀ instruction ∈ instructions, instruction.command ∉ aspect.commands) :
    (aircraft.begin instructions).get aspect =
      get { aircraft with state := .maneuvering maneuverTicks } aspect := by
  apply get_foldl_assign
  intro instruction hmem
  rw [Command.mem_aspects_iff]
  exact h instruction hmem

theorem assign_comm
    (h : ∀ aspect ∈ instruction.command.aspects, aspect ∉ other.command.aspects) :
    (aircraft.assign instruction).assign other = (aircraft.assign other).assign instruction := by
  revert h
  cases hcommand : instruction.command <;> cases hother : other.command <;>
    simp [assign, hcommand, hother, Command.aspects]

end Aircraft

namespace Transmittable

variable {mode : Mode} {instructions others : List Instruction} {instruction other : Instruction}

theorem disjoint_aspects (h : Transmittable mode instructions)
    (hinstruction : instruction ∈ instructions) (hother : other ∈ instructions)
    (hne : instruction ≠ other) :
    ∀ aspect ∈ instruction.command.aspects, aspect ∉ other.command.aspects := by
  have hdisjoint : ∀ combination ∈ Command.combinations, ∀ c ∈ combination, ∀ d ∈ combination,
      c ≠ d → ∀ aspect ∈ c.aspects, aspect ∉ d.aspects := by decide
  have hcommands := h.command_ne hinstruction hother hne
  obtain ⟨combination, hcombination, hin, hin'⟩ := h.possible.exists_combination
    (List.mem_map_of_mem hinstruction) (List.mem_map_of_mem hother) hcommands
  exact hdisjoint combination hcombination _ hin _ hin' hcommands

theorem begin_perm (h : Transmittable mode instructions) (hperm : instructions.Perm others)
    (aircraft : Aircraft) : aircraft.begin instructions = aircraft.begin others := by
  apply hperm.foldl_eq'
  intro i hi j hj a
  by_cases hij : i = j
  · rw [hij]
  · exact Aircraft.assign_comm (h.disjoint_aspects hi hj hij)

/-- Each instruction of a transmission may be thought of as the last one: what it assigns has not
been touched before. -/
theorem exists_begin_eq (h : Transmittable mode instructions) (hmem : instruction ∈ instructions)
    (aircraft : Aircraft) : ∃ earlier : Aircraft,
      aircraft.begin instructions = earlier.assign instruction ∧
      earlier.performance = aircraft.performance ∧
      ∀ aspect ∈ instruction.command.aspects, earlier.get aspect =
        Aircraft.get { aircraft with state := .maneuvering maneuverTicks } aspect := by
  let others := instructions.erase instruction
  have hperm : instructions.Perm (others ++ [instruction]) :=
    (List.perm_cons_erase hmem).trans (List.perm_append_singleton instruction others).symm
  have hdistinct : instructions.Nodup := h.possible.distinct.of_map _
  refine ⟨aircraft.begin others, ?_, Aircraft.begin_performance aircraft others, ?_⟩
  · rw [h.begin_perm hperm, Aircraft.begin, List.foldl_append]
    rfl
  · intro aspect haspect
    apply Aircraft.get_foldl_assign
    intro other hother
    obtain ⟨hne, hin⟩ := hdistinct.mem_erase_iff.mp hother
    exact h.disjoint_aspects hmem hin hne.symm aspect haspect

theorem obeyed (h : Transmittable mode instructions) (before : Aircraft) :
    Obeyed before (before.begin instructions) instructions where
  heading instruction hmem hcommand := by
    obtain ⟨value, hvalue, hnumber⟩ :=
      (h.wellFormed instruction hmem).exists_number (by simp [hcommand])
    obtain ⟨earlier, hbegin, -, -⟩ := h.exists_begin_eq hmem before
    simp [hbegin, Aircraft.assign, hcommand, hvalue, hnumber]
  altitude instruction hmem hcommand := by
    obtain ⟨value, hvalue, hnumber⟩ :=
      (h.wellFormed instruction hmem).exists_number (by rcases hcommand with h | h <;> simp [h])
    obtain ⟨earlier, hbegin, -, -⟩ := h.exists_begin_eq hmem before
    rcases hcommand with hcommand | hcommand <;>
      simp [hbegin, Aircraft.assign, hcommand, hvalue, hnumber]
  speed instruction hmem hcommand := by
    obtain ⟨value, hvalue, hnumber⟩ :=
      (h.wellFormed instruction hmem).exists_number (by simp [hcommand])
    obtain ⟨earlier, hbegin, -, -⟩ := h.exists_begin_eq hmem before
    simp [hbegin, Aircraft.assign, hcommand, hvalue, hnumber]
  takeoff instruction hmem hcommand := by
    obtain ⟨earlier, hbegin, hperformance, huntouched⟩ := h.exists_begin_eq hmem before
    have hspeed : earlier.speed = before.speed :=
      huntouched .speed (by simp [hcommand, Command.aspects])
    simp [hbegin, Aircraft.assign, hcommand, hspeed, hperformance]
  circle instruction hmem hcommand := by
    have hform := h.wellFormed instruction hmem
    simp only [Instruction.WellFormed, hcommand] at hform
    obtain ⟨direction, hdirection⟩ := hform
    obtain ⟨earlier, hbegin, -, -⟩ := h.exists_begin_eq hmem before
    refine ⟨direction, hdirection, ?_⟩
    simp [hbegin, Aircraft.assign, hcommand, Instruction.text?, hdirection, Argument.text?]
  land instruction hmem hcommand := by
    have hform := h.wellFormed instruction hmem
    simp only [Instruction.WellFormed, hcommand] at hform
    obtain ⟨airport, runway, hgiven⟩ := hform
    obtain ⟨earlier, hbegin, -, -⟩ := h.exists_begin_eq hmem before
    refine ⟨airport, runway, hgiven, ?_⟩
    simp [hbegin, Aircraft.assign, hcommand, Instruction.text?, hgiven, Argument.text?]
  maneuver hnone := before.get_begin .state (by simpa [Aspect.commands] using hnone)
  heading_kept hnone := before.get_begin .heading (by simpa [Aspect.commands] using hnone)
  altitude_kept hnone := before.get_begin .altitude (by simpa [Aspect.commands] using hnone)
  speed_kept hnone := before.get_begin .speed (by simpa [Aspect.commands] using hnone)
  queue_kept := before.begin_queue instructions
  identifier_kept := before.begin_identifier instructions
  performance_kept := before.begin_performance instructions
  chart_kept := before.begin_chart instructions

theorem eq_singleton_of_abort (h : Transmittable mode instructions)
    (hmem : instruction ∈ instructions) (hcommand : instruction.command = .abort) :
    instructions = [instruction] := by
  refine h.eq_singleton hmem ?_
  rw [hcommand]
  decide

theorem execute_perm (h : Transmittable mode instructions) {before after : Aircraft}
    (hexecute : before.instruct .execute instructions = .ok after) (hperm : others.Perm instructions) :
    before.instruct .execute others = .ok after := by
  rcases Aircraft.execute_eq_ok_iff.mp hexecute with
    ⟨abort, habort, -⟩ | ⟨hnone, hfree, hground, hfeasible, rfl⟩
  · obtain ⟨hmem, hcommand⟩ := Aircraft.mem_of_find?_abort habort
    have halone := h.eq_singleton_of_abort hmem hcommand
    rw [halone, List.perm_singleton] at hperm
    rw [hperm, ← halone, hexecute]
  · rw [Aircraft.checkGround_eq_ok_iff] at hground
    rw [Aircraft.checkFeasible_eq_ok_iff] at hfeasible
    have hground' : before.checkGround others = .ok () := by
      simpa only [Aircraft.checkGround_eq_ok_iff, hperm.mem_iff] using hground
    have hfeasible' : before.checkFeasible others = .ok () := by
      simpa only [Aircraft.checkFeasible_eq_ok_iff, hperm.mem_iff] using hfeasible
    have hnone' : ∀ other ∈ others, other.command ≠ .abort := by
      simpa only [hperm.mem_iff] using hnone
    exact Aircraft.execute_eq_ok_iff.mpr
      (.inr ⟨hnone', hfree, hground', hfeasible', h.begin_perm hperm.symm before⟩)

end Transmittable

/-- Every command of an accepted transmission takes effect, and nothing else changes. An instruction
to abort is the only one of its transmission, and takes effect as the specification of aborting
says; all others are obeyed; and the order of the instructions does not matter. -/
theorem Aircraft.execute_of_read (rules : ReadingRules) (line target : String)
    (instructions : List Instruction) (before after : Aircraft)
    (hread : rules.read line = .accepted (.aircraft .execute target instructions))
    (hexecute : before.instruct .execute instructions = .ok after) :
    (∀ abort ∈ instructions, abort.command = .abort → instructions = [abort] ∧
      after = if abort.hasFlag .lastOnly then { before with queue := before.queue.dropLast }
        else { before with
          queue := []
          state := if before.state = .parked then .parked else .cruising }) ∧
    ((∀ instruction ∈ instructions, instruction.command ≠ .abort) →
      Obeyed before after instructions) ∧
    ∀ others : List Instruction, others.Perm instructions →
      before.instruct .execute others = .ok after := by
  have htransmittable := ReadingRules.transmittable_of_read hread
  refine ⟨fun abort hmem hcommand => ?_, fun hnone => ?_, fun others hperm =>
    htransmittable.execute_perm hexecute hperm⟩
  · have halone := htransmittable.eq_singleton_of_abort hmem hcommand
    subst halone
    refine ⟨rfl, ?_⟩
    rcases execute_eq_ok_iff.mp hexecute with ⟨first, hfirst, rfl⟩ | ⟨hnone, -⟩
    · obtain rfl : first = abort := List.mem_singleton.mp (List.mem_of_find?_eq_some hfirst)
      rfl
    · exact absurd hcommand (hnone abort hmem)
  · rcases execute_eq_ok_iff.mp hexecute with ⟨abort, habort, -⟩ | ⟨-, -, -, -, rfl⟩
    · have hcommand : abort.command = .abort := by simpa using List.find?_some habort
      exact absurd hcommand (hnone abort (List.mem_of_find?_eq_some habort))
    · exact htransmittable.obeyed before

theorem Aircraft.execute_speed_and_heading :
    let speed : Instruction :=
      { command := .speed, arguments := [.number 139], flags := [.expedite] }
    let heading : Instruction := { command := .heading, arguments := [.number 270] }
    let before : Aircraft := { identifier := "ABC1234" }
    let after : Aircraft := { before with state := .maneuvering 2, heading := 270, speed := 139 }
    ReadingRules.read {} "abc1234 speed 5 x h270" =
        .accepted (.aircraft .execute "ABC1234" [speed, heading]) ∧
      before.instruct .execute [speed, heading] = .ok after ∧ Obeyed before after [speed, heading] ∧
      before.instruct .execute [heading, speed] = .ok after := by
  intro speed heading before after
  have hread : ReadingRules.read {} "abc1234 speed 5 x h270" =
      .accepted (.aircraft .execute "ABC1234" [speed, heading]) := by
    rw [ReadingRules.read_eq_outcome]
    decide +kernel
  have hexecute : before.instruct .execute [speed, heading] = .ok after := rfl
  obtain ⟨-, hobeyed, hperm⟩ := execute_of_read _ _ _ _ before after hread hexecute
  have hnone : ∀ instruction ∈ [speed, heading], instruction.command ≠ .abort := by decide
  exact ⟨hread, hexecute, hobeyed hnone, hperm [heading, speed] (List.Perm.swap ..)⟩

end ControlTower
