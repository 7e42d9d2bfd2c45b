import ControlTower.Number.Binary64
import ControlTower.Phraseology.Rules
import ControlTower.Phraseology.Vocabulary

/-!
# The arguments of commands

Each kind of argument has its own form, and some are converted as they are read: altitudes are typed
in hundreds of metres and handed on in metres, speeds are typed in hundreds of kilometres an hour
and handed on in metres a second.
-/

namespace ControlTower

inductive Argument where
  | number (value : Int)
  | text (value : String)
deriving Repr, DecidableEq

namespace Argument

def number? : Argument → Option Int
  | number value => some value
  | text _ => none

def text? : Argument → Option String
  | number _ => none
  | text value => some value

def render : Argument → String
  | number value => toString value
  | text value => value

def isIdentifier (word : String) : Bool :=
  word.toList.length == 7 && (word.toList.take 3).all Char.isAlpha &&
    (word.toList.drop 3).all Char.isDigit

def identifier? (word : String) : Option String :=
  if isIdentifier word then some (String.ofList (word.toList.map Char.toUpper)) else none

def headingWidth : Nat := 3

def altitudeWidth : Nat := 2

/-- The heading that a word spells, in degrees. -/
def heading? (policy : BoundaryPolicy) (word : String) : Option Int :=
  (Text.integer? word).filter fun degrees =>
    policy.admitsHeading (0 ≤ degrees && degrees ≤ 360) (word.length == headingWidth)

/-- The altitude that a word spells, in metres. There is none when the number of metres does not
fit in sixty-four bits. -/
def altitude? (policy : BoundaryPolicy) (envelope : AltitudeEnvelope) (word : String) : Option Int :=
  (((Text.integer? word).filter fun hundreds =>
    policy.admitsAltitude (envelope.contains hundreds) (envelope.onStep hundreds)
      (word.length == altitudeWidth)).map (· * 100)).filter Text.fitsSigned

/-- The number of kilometres an hour that make one metre a second, as binary64 holds it. -/
def hourlyRate : Number.Fraction := Number.Fraction.toBinary64 ⟨36, 10⟩

/-- Hundreds of kilometres an hour in metres a second: times a hundred, divided by 3.6, and rounded
to the nearest integer, halves away from zero. Each step is done in binary64, and the result is
held within sixty-four bits. -/
def metresPerSecond (hundreds : Int) : Int :=
  let typed := Number.Fraction.toBinary64 ⟨hundreds.natAbs, 1⟩
  let kilometres := (typed.mul ⟨100, 1⟩).toBinary64
  let metres : Int := (kilometres.div hourlyRate).toBinary64.roundUp
  max Text.leastSigned (min Text.greatestSigned (if hundreds < 0 then -metres else metres))

def speed? (word : String) : Option Int := (Text.integer? word).map metresPerSecond

def isAirport (word : String) : Bool := word.toList.length == 3 && word.toList.all Char.isAlpha

def runwaySides : List Char := ['l', 'c', 'r', 'L', 'C', 'R']

def isRunway (word : String) : Bool :=
  match word.toList with
  | [a] => a.isDigit
  | [a, b] => a.isDigit && (b.isDigit || runwaySides.contains b)
  | [a, b, c] => a.isDigit && b.isDigit && runwaySides.contains c
  | _ => false

def turnDirections : List String := ["r", "right", "cw", "l", "left", "ccw"]

def isTurnDirection (word : String) : Bool := turnDirections.contains (Text.lower word)

end Argument

/-- The arguments that words spell; none when there are too few or too many words, or when one of
them has not the form that is asked for. -/
def ArgumentKind.read? (rules : ReadingRules) : ArgumentKind → List String → Option (List Argument)
  | identifier, [word] => (Argument.identifier? word).map ([.text ·])
  | heading, [word] => (Argument.heading? rules.headingPolicy word).map ([.number ·])
  | altitude, [word] =>
    (Argument.altitude? rules.altitudePolicy rules.envelope word).map ([.number ·])
  | speed, [word] => (Argument.speed? word).map ([.number ·])
  | landing, [airport, runway] =>
    if Argument.isAirport airport && Argument.isRunway runway then
      some [.text airport, .text runway]
    else none
  | turnDirection, [word] => if Argument.isTurnDirection word then some [.text word] else none
  | _, _ => none

/-- The arguments of a command that words spell. A command without a kind of argument takes words as
they are. -/
def Command.read? (rules : ReadingRules) (command : Command) (words : List String) :
    Option (List Argument) :=
  match command.argumentKind? with
  | some kind => kind.read? rules words
  | none => some (words.map .text)

end ControlTower
