import ControlTower.Phraseology.Glyphs
import ControlTower.Phraseology.Vocabulary

/-!
# The summary of the commands

What the operator is shown who asks for help: how to address an aircraft, then a line for every
command with its other spellings, then a line for every command to the console.
-/

namespace ControlTower

/-- The line about a command: its synopsis, and its spellings other than the canonical one. -/
def Command.summaryLine (command : Command) : String :=
  "  " ++ command.synopsis ++ " (" ++
    String.intercalate ", " ((command.spellings.drop 1).map Text.upper) ++ ")"

def SystemCommand.summaryLine (glyphs : ControlGlyphs) (command : SystemCommand) : String :=
  "  " ++ glyphs.system.toString ++ String.intercalate "|" (command.spellings.map Text.upper) ++
    " " ++ command.summary

def ControlGlyphs.summary (glyphs : ControlGlyphs) : List String :=
  ("<ICAO> <commands> executes, " ++ glyphs.queue.toString ++ "<ICAO> <commands> queues") ::
    (Command.all.map Command.summaryLine ++
      SystemCommand.all.map (SystemCommand.summaryLine glyphs))

end ControlTower
