import ControlTower.Text.Cluster

/-!
# Backspaces

A line that is sent rather than typed may hold backspaces. Each takes back the grapheme cluster that
was typed last, if any is left. The width of a cluster is noted in a single byte, so that a backspace
takes back from a cluster of 256 bytes or more only what this width says.
-/

namespace ControlTower.Text

def backspace : Char := '\x08'

structure Draft where
  /-- The characters, the latest first. -/
  typed : List Char := []
  /-- The widths of the clusters that can be taken back, the latest first. -/
  widths : List Nat := []
deriving Repr, DecidableEq

/-- The width of a cluster in bytes, as far as a byte can hold it. -/
def noteWidth (cluster : List Char) : Nat :=
  cluster.foldr (fun c width => c.utf8Size + width) 0 % 256

/-- Characters without the first of them, as many as there are in the given number of bytes. One that
lies there only in part goes as a whole. -/
def dropBytes : Nat → List Char → List Char
  | 0, text => text
  | _, [] => []
  | n + 1, c :: text => dropBytes (n + 1 - c.utf8Size) text

namespace Draft

def add (draft : Draft) (cluster : List Char) : Draft where
  typed := cluster.reverse ++ draft.typed
  widths := noteWidth cluster :: draft.widths

def takeBack (draft : Draft) : Draft :=
  match draft.widths with
  | [] => draft
  | width :: widths => { typed := dropBytes width draft.typed, widths }

def type (draft : Draft) (cluster : List Char) : Draft :=
  if cluster = [backspace] then draft.takeBack else draft.add cluster

end Draft

def withoutBackspaces (line : List Char) : List Char :=
  if line.contains backspace then ((clusters line).foldl Draft.type {}).typed.reverse else line

end ControlTower.Text
