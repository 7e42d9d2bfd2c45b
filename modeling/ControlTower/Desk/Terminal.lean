import ControlTower.Airspace.Directory
import ControlTower.Text.Backspace
import ControlTower.Text.Blank

/-!
# Terminals

What the operator does at a terminal, request by request, and what the terminal has been told. An
input that is not typed but sent, as through a pipe, comes to the same: each of its lines is entered,
and at its end the operator hangs up.
-/

namespace ControlTower

inductive Response where
  /-- Enters a line. -/
  | line (text : String)
  /-- Clears the line that is being typed. -/
  | cancel
  /-- Hangs up. -/
  | closed
  /-- Nothing can be read from the terminal. -/
  | failed (reason : String)
deriving Repr, DecidableEq

namespace Response

/-- What the operator does who sends a line with its ending. Backspaces in it take effect; sending
nothing at all is hanging up. -/
def ofInput (input : List Char) : Response :=
  if input.isEmpty then closed
  else line (String.ofList (Text.withoutBackspaces (Text.withoutEnding input)))

def ofStream (input : String) : List Response := (Text.endedLines input.toList).map ofInput

end Response

/-- A terminal: what the operator is going to do at it, and what the terminal has been told. -/
structure Terminal where
  /-- What the operator does, request by request; at the end the operator hangs up. -/
  responses : List Response := []
  /-- The prompts shown, in order. -/
  prompts : List String := []
  /-- The lines handed over for recall, in order. -/
  recallable : List String := []
  /-- What can be completed, as it was last handed over. -/
  gazetteer? : Option Gazetteer := none
deriving Repr, DecidableEq

def Terminal.ask (terminal : Terminal) (prompt : String) : Response × Terminal :=
  (terminal.responses.headD .closed,
    { terminal with
      responses := terminal.responses.tail
      prompts := terminal.prompts ++ [prompt] })

end ControlTower
