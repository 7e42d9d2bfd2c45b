import ControlTower.Proofs.Phraseology.Grammar
import Mathlib.Data.List.Nodup

/-!
# What accepted transmissions are made of

The instructions of a transmission that is accepted have the arguments that their commands take, and
their commands may be given together. Those that receive a transmission can rely on this, whatever
the rules are by which it was read.
-/

namespace ControlTower

variable {rules : ReadingRules} {mode : Mode} {instructions : List Instruction}

/-- The arguments of an instruction are as many as its command takes, and of the right kinds. -/
def Instruction.WellFormed (instruction : Instruction) : Prop :=
  match instruction.command with
  | .heading | .altitude | .speed | .takeoff => ∃ value, instruction.arguments = [.number value]
  | .circle => ∃ direction, instruction.arguments = [.text direction]
  | .land => ∃ airport runway, instruction.arguments = [.text airport, .text runway]
  | .abort => instruction.arguments = []

theorem Instruction.WellFormed.exists_number {instruction : Instruction}
    (h : instruction.WellFormed)
    (hcommand : instruction.command ∈ [Command.heading, .altitude, .speed, .takeoff]) :
    ∃ value, instruction.arguments = [.number value] ∧ instruction.number? 0 = some value := by
  have hform : ∃ value, instruction.arguments = [.number value] := by
    unfold WellFormed at h
    revert h hcommand
    cases instruction.command <;> simp
  obtain ⟨value, hvalue⟩ := hform
  exact ⟨value, hvalue, by simp [number?, hvalue, Argument.number?]⟩

structure Transmittable (mode : Mode) (instructions : List Instruction) : Prop where
  wellFormed : ∀ instruction ∈ instructions, instruction.WellFormed
  possible : Possible mode (instructions.map (·.command))

theorem Command.wellFormed_of_read? {command : Command} {words : List String}
    {arguments : List Argument} (enough : words.length = command.arity)
    (form : command.read? rules words = some arguments) (flags : List Flag) :
    Instruction.WellFormed { command, arguments, flags } := by
  cases command
  case heading | altitude | speed | takeoff =>
    obtain ⟨word, rfl⟩ := List.length_eq_one_iff.mp enough
    obtain ⟨value, -, rfl⟩ := Option.map_eq_some_iff.mp form
    exact ⟨value, rfl⟩
  case circle =>
    obtain ⟨word, rfl⟩ := List.length_eq_one_iff.mp enough
    simp only [read?, argumentKind?, ArgumentKind.read?] at form
    split at form
    · cases form
      exact ⟨word, rfl⟩
    · cases form
  case land =>
    obtain ⟨airport, runway, rfl⟩ := List.length_eq_two.mp enough
    simp only [read?, argumentKind?, ArgumentKind.read?] at form
    split at form
    · cases form
      exact ⟨airport, runway, rfl⟩
    · cases form
  case abort =>
    obtain rfl := List.length_eq_zero_iff.mp enough
    cases form
    rfl

theorem Opening.wellFormed {command : Command} {words : List String} {arguments : List Argument}
    (h : Opening rules command words arguments) (flags : List Flag) :
    Instruction.WellFormed { command, arguments, flags } := by
  cases h with
  | spelled _ enough form => exact Command.wellFormed_of_read? enough form flags
  | @condensed letter digits _ stands _ _ form =>
    have enough : [String.ofList digits].length = command.arity :=
      (Command.arity_of_letter?_eq_some stands).symm
    exact Command.wellFormed_of_read? enough form flags

/-- Every instruction of a line that is accepted is what some words of it spell. -/
theorem ReadingRules.exists_segment_of_read {line target : String} {instruction : Instruction}
    (h : rules.read line = .accepted (.aircraft mode target instructions))
    (hmem : instruction ∈ instructions) :
    ∃ segment : Segment, segment.Spelled rules ∧ segment.instruction = instruction := by
  rw [read_eq_outcome, Stage.outcome_eq_aircraft_iff] at h
  obtain ⟨division, -, hgives, -⟩ := h
  have hsegments : instructions = division.segments.map Segment.instruction := hgives.instructions
  obtain ⟨segment, hsegment, heq⟩ := List.mem_map.mp (hsegments ▸ hmem)
  exact ⟨segment, hgives.segments.spelled segment hsegment, heq⟩

theorem ReadingRules.transmittable_of_read {line target : String}
    (h : rules.read line = .accepted (.aircraft mode target instructions)) :
    Transmittable mode instructions where
  wellFormed instruction hinstruction := by
    obtain ⟨segment, hspelled, rfl⟩ := exists_segment_of_read h hinstruction
    exact hspelled.opening.wellFormed _
  possible := by
    rw [read_eq_outcome, Stage.outcome_eq_aircraft_iff] at h
    obtain ⟨division, -, -, hpossible⟩ := h
    exact hpossible

namespace Possible

variable {commands : List Command}

theorem exists_combination (h : Possible mode commands) {first second : Command}
    (hfirst : first ∈ commands) (hsecond : second ∈ commands) (hne : first ≠ second) :
    ∃ combination ∈ Command.combinations, first ∈ combination ∧ second ∈ combination := by
  have hmany : 1 < commands.length := by
    by_contra hfew
    obtain ⟨only, rfl⟩ := List.length_eq_one_iff.mp
      (Nat.le_antisymm (Nat.not_lt.mp hfew) (List.length_pos_of_mem hfirst))
    rw [List.mem_singleton] at hfirst hsecond
    exact hne (hfirst.trans hsecond.symm)
  obtain ⟨combination, hcombination, hsub⟩ := h.together hmany
  exact ⟨combination, hcombination, hsub hfirst, hsub hsecond⟩

theorem eq_singleton (h : Possible mode commands) {command : Command} (hmem : command ∈ commands)
    (halone : ∀ combination ∈ Command.combinations, command ∉ combination) :
    commands = [command] := by
  have hsame : ∀ other ∈ commands, other = command := by
    intro other hother
    by_contra hne
    obtain ⟨combination, hcombination, hin, -⟩ := h.exists_combination hmem hother (Ne.symm hne)
    exact halone combination hcombination hin
  have hrepeat := List.eq_replicate_of_mem hsame
  have hdistinct := h.distinct
  rw [hrepeat, List.nodup_replicate] at hdistinct
  have hlength : commands.length = 1 :=
    Nat.le_antisymm hdistinct (List.length_pos_of_mem hmem)
  rw [hrepeat, hlength]
  rfl

end Possible

namespace Transmittable

theorem eq_singleton (h : Transmittable mode instructions) {instruction : Instruction}
    (hmem : instruction ∈ instructions)
    (halone : ∀ combination ∈ Command.combinations, instruction.command ∉ combination) :
    instructions = [instruction] := by
  have hcommands := h.possible.eq_singleton (List.mem_map_of_mem hmem) halone
  obtain ⟨only, rfl, -⟩ := List.map_eq_singleton_iff.mp hcommands
  rw [List.mem_singleton.mp hmem]

theorem command_ne (h : Transmittable mode instructions) {first second : Instruction}
    (hfirst : first ∈ instructions) (hsecond : second ∈ instructions) (hne : first ≠ second) :
    first.command ≠ second.command :=
  fun heq => hne (List.inj_on_of_nodup_map h.possible.distinct hfirst hsecond heq)

end Transmittable

end ControlTower
