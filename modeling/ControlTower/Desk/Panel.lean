import ControlTower.Desk.Transcript

/-!
# The panel

The transcript is shown on a panel, which is drawn anew only when the entries are not those that it
shows already. A `Drawing` keeps the latest picture, and the entries that were drawn for it, by
which it is told whether the picture can still be shown.
-/

namespace ControlTower

/-- A picture of entries that is kept for as long as they do not change. -/
structure Drawing (Picture : Type) where
  /-- How entries are drawn. -/
  draw : List Entry → Picture
  /-- The entries that were drawn last. -/
  shown? : Option (List Entry) := none
  /-- The latest picture, until it is given up. -/
  picture? : Option Picture := none
  /-- How often something was drawn. -/
  count : Nat := 0

namespace Drawing

variable {Picture : Type}

/-- The drawing before entries are viewed: unless they are the ones that were drawn last, the picture
is given up. -/
def discard (drawing : Drawing Picture) (entries : List Entry) : Drawing Picture :=
  if drawing.shown? = some entries then drawing else { drawing with picture? := none }

def redraw (drawing : Drawing Picture) (entries : List Entry) : Drawing Picture :=
  { drawing with
    shown? := some entries
    picture? := some (drawing.draw entries)
    count := drawing.count + 1 }

def view (drawing : Drawing Picture) (entries : List Entry) : Picture × Drawing Picture :=
  let drawing := drawing.discard entries
  match drawing.picture? with
  | some picture => (picture, drawing)
  | none => (drawing.draw entries, drawing.redraw entries)

/-- The drawing without its picture, so that the next one is drawn in any case. -/
def forget (drawing : Drawing Picture) : Drawing Picture :=
  { drawing with shown? := none, picture? := none }

end Drawing

end ControlTower
