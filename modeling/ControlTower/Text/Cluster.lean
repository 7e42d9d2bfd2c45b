import ControlTower.Text.ClusterData

/-!
# Grapheme clusters

What a reader takes for one character may be several: a letter and its accents, two regional
indicators, a family of pictographs. The extended grapheme clusters of the Unicode standard are such
groups, and `clusters` cuts a text into them.
-/

namespace ControlTower.Text

inductive ClusterClass where
  | control
  | extend
  | spacingMark
  | prepended
  | pictograph
  | regional
  | consonant
  | leading
  | vowel
  | trailing
  /-- A syllable of Hangul without a trailing consonant. -/
  | openSyllable
  /-- A syllable of Hangul with a trailing consonant. -/
  | closedSyllable
  | other
deriving Repr, DecidableEq

namespace ClusterClass

def table : List (ClusterClass × Ranges) :=
  [(control, controlRanges), (regional, regionalRanges), (leading, leadingRanges),
   (vowel, vowelRanges), (trailing, trailingRanges), (prepended, prependedRanges),
   (consonant, consonantRanges), (pictograph, pictographRanges),
   (spacingMark, spacingMarkRanges), (extend, extendRanges)]

def joiner : Char := '\u200D'

def nonJoiner : Char := '\u200C'

/-- The class of a syllable of Hangul. Each open syllable is followed by the twenty-seven closed ones
that begin like it. -/
def ofSyllable (place : Nat) : ClusterClass :=
  if place % 28 = 0 then openSyllable else closedSyllable

def ofChar (c : Char) : ClusterClass :=
  if c = joiner then extend
  else match table.find? (·.2.has c) with
    | some entry => entry.1
    | none =>
      if 0xAC00 ≤ c.toNat && c.toNat ≤ 0xD7A3 then ofSyllable (c.toNat - 0xAC00) else other

def syllableGoesOn : ClusterClass → ClusterClass → Bool
  | leading, next => [leading, vowel, openSyllable, closedSyllable].contains next
  | vowel, next => [vowel, trailing].contains next
  | openSyllable, next => [vowel, trailing].contains next
  | trailing, next => next == trailing
  | closedSyllable, next => next == trailing
  | _, _ => false

end ClusterClass

def isLinker (c : Char) : Bool := linkerRanges.has c

def isConjunctMark (c : Char) : Bool :=
  ClusterClass.ofChar c == .extend && c != ClusterClass.nonJoiner

/-- Whether a conjunct may go on behind a text, of which the latest character comes first: it ends
with a consonant and marks, and one of these is a linker. -/
def endsLinked (before : List Char) : Bool :=
  (before.takeWhile isConjunctMark).any isLinker &&
    ((before.dropWhile isConjunctMark).head?.map ClusterClass.ofChar) == some .consonant

/-- Whether a pictograph may be joined to a text, of which the latest character comes first: it ends
with a pictograph, marks and a joiner. -/
def endsJoined (before : List Char) : Bool :=
  match before with
  | [] => false
  | c :: earlier =>
    let marked (d : Char) := ClusterClass.ofChar d == .extend && d != ClusterClass.joiner
    c == ClusterClass.joiner &&
      ((earlier.dropWhile marked).head?.map ClusterClass.ofChar) == some .pictograph

def endsHalfFlagged (before : List Char) : Bool :=
  (before.takeWhile (ClusterClass.ofChar · == .regional)).length % 2 == 1

/-- Whether a character goes into the cluster at the end of the text before it, of which the latest
character comes first. -/
def joins (before : List Char) (c : Char) : Bool :=
  match before with
  | [] => false
  | d :: _ =>
    let last := ClusterClass.ofChar d
    let next := ClusterClass.ofChar c
    if last == .control || next == .control then d == '\r' && c == '\n'
    else
      last.syllableGoesOn next || next == .extend || next == .spacingMark || last == .prepended ||
        (next == .consonant && endsLinked before) || (next == .pictograph && endsJoined before) ||
        (next == .regional && endsHalfFlagged before)

/-- The clusters of what comes behind a text, of which the latest character comes first. -/
def clustersAfter (before : List Char) : List Char → List (List Char)
  | [] => []
  | c :: rest =>
    match clustersAfter (c :: before) rest with
    | (d :: cluster) :: clusters =>
      if joins (c :: before) d then (c :: d :: cluster) :: clusters
      else [c] :: (d :: cluster) :: clusters
    | clusters => [c] :: clusters

def clusters (text : List Char) : List (List Char) := clustersAfter [] text

end ControlTower.Text
