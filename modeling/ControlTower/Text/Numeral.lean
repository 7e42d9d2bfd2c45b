/-!
# Numerals

Decimal numerals of ASCII digits. A signed numeral has at most one sign, and its value fits in
sixty-four bits; a count has no minus sign and fits in sixty-four bits as well.
-/

namespace ControlTower.Text

def leastSigned : Int := -0x8000000000000000

def greatestSigned : Int := 0x7FFFFFFFFFFFFFFF

def fitsSigned (n : Int) : Bool := leastSigned ≤ n && n ≤ greatestSigned

/-- The value of a run of decimal digits, which may not be empty. -/
def digitsValue? (digits : List Char) : Option Nat :=
  if !digits.isEmpty && digits.all Char.isDigit then
    some (digits.foldl (fun value c => 10 * value + (c.toNat - '0'.toNat)) 0)
  else none

def signedValue? : List Char → Option Int
  | '-' :: digits => (digitsValue? digits).map fun n => -(n : Int)
  | '+' :: digits => (digitsValue? digits).map Int.ofNat
  | digits => (digitsValue? digits).map Int.ofNat

def integer? (text : String) : Option Int := (signedValue? text.toList).filter fitsSigned

/-- The value of a numeral without a minus sign that fits in sixty-four bits. -/
def count? (text : String) : Option Nat :=
  (digitsValue? (match text.toList with
    | '+' :: digits => digits
    | digits => digits)).filter (· < 0x10000000000000000)

end ControlTower.Text
