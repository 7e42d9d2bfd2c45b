/-!
# Rounding to binary64

Speeds are converted by arithmetic on binary64 numbers, of which each result is the exact one
rounded to fifty-three significant bits. Here the rounding is done on fractions of natural numbers,
so that nothing depends on the arithmetic of the machine. All fractions are of a size at which
neither overflow nor underflow occurs.
-/

namespace ControlTower.Number

/-- A fraction that is not negative. Its denominator is positive. -/
structure Fraction where
  num : Nat
  den : Nat
deriving Repr, DecidableEq

/-- The integer nearest to a quotient; of two equally near ones, the even one. -/
def roundToEven (num den : Nat) : Nat :=
  let quotient := num / den
  let remainder := num % den
  if 2 * remainder < den || (2 * remainder == den && quotient % 2 == 0) then quotient
  else quotient + 1

/-- The integer nearest to a fraction; of two equally near ones, the greater. -/
def Fraction.roundUp (x : Fraction) : Nat := (2 * x.num + x.den) / (2 * x.den)

def Fraction.mul (x y : Fraction) : Fraction := ⟨x.num * y.num, x.den * y.den⟩

def Fraction.div (x y : Fraction) : Fraction := ⟨x.num * y.den, x.den * y.num⟩

/-- The number of doublings (halvings, when negative) that bring a positive fraction into the
interval from `2 ^ 52` up to but not including `2 ^ 53`. -/
def Fraction.shift (x : Fraction) : Int :=
  let shift : Int := 53 - ((x.num.log2 : Int) - x.den.log2)
  if (x.den <<< (-shift).toNat) <<< 53 ≤ x.num <<< shift.toNat then shift - 1 else shift

/-- The fraction with fifty-three significant bits that is nearest to the given one; of two equally
near ones, that with an even significand. -/
def Fraction.toBinary64 (x : Fraction) : Fraction :=
  if x.num = 0 then x
  else
    let up := 1 <<< x.shift.toNat
    let down := 1 <<< (-x.shift).toNat
    ⟨roundToEven (x.num * up) (x.den * down) * down, up⟩

/-- A decimal fraction as binary64 holds it: `3.6` is `8106479329266893 / 2 ^ 51`. -/
example : (Fraction.toBinary64 ⟨36, 10⟩) = ⟨8106479329266893, 1 <<< 51⟩ := by decide +kernel

end ControlTower.Number
