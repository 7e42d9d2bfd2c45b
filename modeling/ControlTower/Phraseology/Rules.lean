import ControlTower.Phraseology.Glyphs
import ControlTower.Text.Alphanumeric
import ControlTower.Text.Numeral

/-!
# The rules by which transmissions are read

Which headings and altitudes may be assigned, how strictly the operator has to type them, and which
glyphs control a line. Rules can be written down that no console could work by; `ReadingRules.check`
finds what is wrong with them.
-/

namespace ControlTower

/-- How the range of a number and the width at which it was typed decide whether it is taken. -/
inductive BoundaryPolicy where
  | legacy
  /-- A number is taken exactly when it is in range. -/
  | range
  | strict
deriving Repr, DecidableEq

namespace BoundaryPolicy

def admitsHeading (policy : BoundaryPolicy) (inRange usualWidth : Bool) : Bool :=
  match policy with
  | legacy => inRange || !usualWidth
  | range => inRange
  | strict => inRange && usualWidth

/-- Whether an altitude is taken. By the legacy policy one that is off step is never refused. -/
def admitsAltitude (policy : BoundaryPolicy) (inRange onStep usualWidth : Bool) : Bool :=
  match policy with
  | legacy => !(!inRange && usualWidth && onStep)
  | range => inRange && onStep
  | strict => inRange && onStep && usualWidth

end BoundaryPolicy

structure AltitudeEnvelope where
  lowest : Int := 0
  highest : Int := 80
  /-- Every altitude is a multiple of this. -/
  step : Int := 5
deriving Repr, DecidableEq

namespace AltitudeEnvelope

def contains (envelope : AltitudeEnvelope) (altitude : Int) : Bool :=
  envelope.lowest ≤ altitude && altitude ≤ envelope.highest

/-- Whether an altitude is a multiple of the step. Nothing is a multiple of a step of zero, and the
least number of sixty-four bits is not divided by minus one, its quotient being too large. -/
def onStep (envelope : AltitudeEnvelope) (altitude : Int) : Bool :=
  envelope.step != 0 && !(altitude == Text.leastSigned && envelope.step == -1) &&
    altitude % envelope.step == 0

end AltitudeEnvelope

structure ReadingRules where
  envelope : AltitudeEnvelope := {}
  headingPolicy : BoundaryPolicy := .legacy
  altitudePolicy : BoundaryPolicy := .range
  glyphs : ControlGlyphs := {}
deriving Repr, DecidableEq

inductive RuleFault where
  | envelopeInverted (lowest highest : Int)
  | stepNotPositive
  | glyphsEqual (glyph : Char)
  | glyphInText (glyph : Char)
deriving Repr, DecidableEq

namespace RuleFault

def field : RuleFault → String
  | envelopeInverted _ _ => "altitude"
  | stepNotPositive => "altitude.step"
  | glyphsEqual _ => "glyphs"
  | glyphInText _ => "glyphs"

def reason : RuleFault → String
  | envelopeInverted lowest highest =>
    "minimum " ++ toString lowest ++ " exceeds maximum " ++ toString highest
  | stepNotPositive => "must be positive"
  | glyphsEqual glyph => "queue and system glyphs are both '" ++ glyph.toString ++ "'"
  | glyphInText glyph => "'" ++ glyph.toString ++ "' cannot be told apart from command text"

end RuleFault

namespace ReadingRules

def legacy : ReadingRules := { headingPolicy := .legacy, altitudePolicy := .legacy }

def strict : ReadingRules := { headingPolicy := .strict, altitudePolicy := .strict }

/-- Whether a character could be mistaken for a part of the text of a command. -/
def inText (c : Char) : Bool := Text.isAlphanumeric c || Text.isBlank c

def check (rules : ReadingRules) : Except RuleFault Unit :=
  if rules.envelope.highest < rules.envelope.lowest then
    .error (.envelopeInverted rules.envelope.lowest rules.envelope.highest)
  else if rules.envelope.step ≤ 0 then .error .stepNotPositive
  else if rules.glyphs.queue = rules.glyphs.system then .error (.glyphsEqual rules.glyphs.queue)
  else if inText rules.glyphs.queue then .error (.glyphInText rules.glyphs.queue)
  else if inText rules.glyphs.system then .error (.glyphInText rules.glyphs.system)
  else .ok ()

end ReadingRules

end ControlTower
