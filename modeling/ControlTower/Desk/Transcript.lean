import ControlTower.Text.Paint

/-!
# The transcript

What was said on frequency, the oldest entry first. A transcript keeps only as many entries as it
has room for, and counts all that were ever written. A count taken earlier serves as a mark: the
entries written since can be listed, as far as they are still held.
-/

namespace ControlTower

inductive Severity where
  /-- What the operator transmitted. -/
  | echo
  /-- An affirmative reply. -/
  | reply
  /-- Information, such as the summary of the commands. -/
  | info
  /-- A line that was not understood, or a refusal. -/
  | error
deriving Repr, DecidableEq

def Severity.code : Severity → String
  | echo => "37"
  | reply => "32"
  | info => "36"
  | error => "31"

structure Entry where
  severity : Severity
  text : String
deriving Repr, DecidableEq

structure Transcript where
  /-- How many entries are held at most. -/
  capacity : Nat
  entries : List Entry := []
  /-- How many entries were ever written. -/
  written : Nat := 0
deriving Repr, DecidableEq

namespace Transcript

/-- A transcript without entries. There is always room for one. -/
def ofCapacity (capacity : Nat) : Transcript := { capacity := max capacity 1 }

/-- The transcript with one more entry, in place of the oldest when there is no room. -/
def write (transcript : Transcript) (entry : Entry) : Transcript :=
  let entries := transcript.entries ++ [entry]
  { transcript with
    entries := entries.drop (entries.length - transcript.capacity)
    written := transcript.written + 1 }

def since (transcript : Transcript) (mark : Nat) : List Entry :=
  transcript.entries.drop (transcript.entries.length - (transcript.written - mark))

end Transcript

inductive Style where
  /-- Each in the rendition of its severity. -/
  | coloured
  /-- As plain text. -/
  | plain
deriving Repr, DecidableEq

def Style.renderEntry (style : Style) (entry : Entry) : String :=
  match style with
  | coloured => Text.paint entry.severity.code entry.text ++ "\n"
  | plain => entry.text ++ "\n"

def Style.render (style : Style) (entries : List Entry) : String :=
  String.join (entries.map style.renderEntry)

end ControlTower
