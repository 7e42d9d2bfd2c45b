import ControlTower.Text.Blank
import ControlTower.Text.Casing

/-!
# Control glyphs and tokens

The first character of a line may be a control glyph: one glyph queues the transmission, the other
addresses the console itself. A glyph at the very start of a line is a token of its own, even when
it is glued to what follows. Apart from that, the tokens of a line are its words in lower case.
-/

namespace ControlTower

/-- The two characters that change what becomes of a line. -/
structure ControlGlyphs where
  /-- Queues the transmission instead of having it carried out at once. -/
  queue : Char := '.'
  /-- Addresses the console instead of an aircraft. -/
  system : Char := '/'
deriving Repr, DecidableEq

namespace ControlGlyphs

def isControl (glyphs : ControlGlyphs) (c : Char) : Bool := c == glyphs.queue || c == glyphs.system

/-- A line in which a blank parts a glyph at the very start from what is glued to it. -/
def separate (glyphs : ControlGlyphs) : List Char → List Char
  | glyph :: next :: rest =>
    if glyphs.isControl glyph && !Text.isBlank next then glyph :: ' ' :: next :: rest
    else glyph :: next :: rest
  | line => line

def separated (glyphs : ControlGlyphs) (line : String) : String :=
  String.ofList (glyphs.separate line.toList)

def tokens (glyphs : ControlGlyphs) (line : String) : List String :=
  Text.words (Text.lower (glyphs.separated line))

end ControlGlyphs

end ControlTower
