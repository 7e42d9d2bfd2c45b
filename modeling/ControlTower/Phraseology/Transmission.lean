import ControlTower.Phraseology.Argument

/-!
# Transmissions

What the operator says once it has been understood: either a list of instructions for one aircraft,
to be carried out at once or queued, or a command to the console.
-/

namespace ControlTower

structure Instruction where
  command : Command
  arguments : List Argument := []
  /-- The flags that were given, without repetition. -/
  flags : List Flag := []
deriving Repr, DecidableEq

namespace Instruction

def withFlag (instruction : Instruction) (flag : Flag) : Instruction :=
  if instruction.flags.contains flag then instruction
  else { instruction with flags := instruction.flags ++ [flag] }

@[simp] theorem withFlag_command (instruction : Instruction) (flag : Flag) :
    (instruction.withFlag flag).command = instruction.command := by
  unfold withFlag
  split <;> rfl

def hasFlag (instruction : Instruction) (flag : Flag) : Bool := instruction.flags.contains flag

def number? (instruction : Instruction) (place : Nat) : Option Int :=
  (instruction.arguments[place]?).bind Argument.number?

def text? (instruction : Instruction) (place : Nat) : Option String :=
  (instruction.arguments[place]?).bind Argument.text?

/-- The instruction as it is written: the name of the command, the arguments, and the flags, each
with a plus sign. -/
def render (instruction : Instruction) : String :=
  String.intercalate " " (instruction.command.name ::
    (instruction.arguments.map Argument.render ++ instruction.flags.map ("+" ++ ·.name)))

end Instruction

inductive Mode where
  /-- The aircraft acts on them now. -/
  | execute
  /-- They join what the aircraft has yet to do. -/
  | enqueue
deriving Repr, DecidableEq

inductive Transmission where
  | aircraft (mode : Mode) (target : String) (instructions : List Instruction)
  | system (command : SystemCommand)
deriving Repr, DecidableEq

end ControlTower
