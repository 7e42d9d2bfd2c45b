import ControlTower.Airspace.Directory
import ControlTower.Phraseology.Argument
import ControlTower.Text.CommonPrefix

/-!
# Completing the word that is being typed

The last words of an unfinished line tell what kind of word the operator is typing, and the
directory tells which words of that kind there are. The line is not parsed for this: at most three
words are looked at, and whether one of the first two addresses an aircraft.
-/

namespace ControlTower

inductive Pool where
  | systemCommands
  | aircraft
  | commands
  | airports
  | beacons
  /-- The runways of one airport. -/
  | runways (airport : String)
deriving Repr, DecidableEq

/-- The word that is being typed: of what kind it is, and how much of it there is, in lower case. -/
structure Fragment where
  pool : Pool
  typed : String
deriving Repr, DecidableEq

namespace Completion

/-- The words of a line in lower case, of which the last is being typed: it is empty when the line
is empty or ends with a blank. -/
def typedWords (lowered : String) : List String :=
  Text.words lowered ++
    if lowered.toList.getLast?.all Text.isBlank then [""] else []

/-- The kind of word that follows `latest`, the word before which was `earlier?`, in a line of the
given words. -/
def poolAfter? (words : List String) (latest : String) (earlier? : Option String) : Option Pool :=
  if Argument.isIdentifier latest then some .commands
  else if Command.land.isSpelled latest && !earlier?.any Command.circle.isSpelled then some .airports
  else if Command.heading.isSpelled latest then some .beacons
  else match earlier? with
    | none => none
    | some earlier =>
      if Command.land.isSpelled earlier then some (.runways (Text.upper latest))
      else if (words.take 2).any Argument.isIdentifier && !Command.isCanonical latest then
        some .commands
      else none

def fragment? (glyphs : ControlGlyphs) (line : String) : Option Fragment :=
  let lowered := Text.lower line
  let words := typedWords lowered
  match words.reverse with
  | [] => none
  | typed :: before =>
    let pool? :=
      if lowered.toList.head? = some glyphs.system then some .systemCommands
      else if (words.length = 2 ∧ lowered.toList.head? = some glyphs.queue) ∨ typed = lowered then
        some .aircraft
      else match before with
        | [] => none
        | latest :: earlier => poolAfter? words latest earlier.head?
    pool?.map fun pool => { pool, typed }

def candidates {World : Type} [Directory World] (world : World) : Pool → List String
  | .systemCommands => SystemCommand.all.map SystemCommand.name
  | .aircraft => Directory.aircraft world
  | .commands => Command.all.map Command.name
  | .airports => Directory.airports world
  | .beacons => Directory.beacons world
  | .runways airport => Directory.runways world airport

def possible {World : Type} [Directory World] (world : World) (fragment : Fragment) : List String :=
  ((candidates world fragment.pool).map Text.upper).filter fun candidate =>
    fragment.typed.toList.isPrefixOf (Text.lower candidate).toList

/-- As much of the word as is certain: the only possible candidate and a blank, or what all possible
candidates begin with. -/
def certain? : List String → Option String
  | [] => none
  | [only] => some (only ++ " ")
  | several => some (Text.commonPrefix several)

def complete? {World : Type} [Directory World] (glyphs : ControlGlyphs) (line : String)
    (world : World) : Option String := do
  let fragment ← fragment? glyphs line
  let word ← certain? (possible world fragment)
  let addition := word.toList.drop fragment.typed.length
  if addition.isEmpty then none else some (String.ofList addition)

end Completion

end ControlTower
