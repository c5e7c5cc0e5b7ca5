import Mathlib.Data.Int.Log
import Mathlib.Tactic

/-! # Decimals

A finite `Decimal` is its rational value.  The default context keeps 28 significant digits
and rounds half to even; a `NUMERIC(18, 8)` column keeps eight digits after the point and
rounds half away from zero. -/

namespace Obsion

def roundHalfEven (value : ℚ) : Int :=
  let low := ⌊value⌋
  if value - low < 1 / 2 then low
  else if 1 / 2 < value - low then low + 1
  else if low % 2 = 0 then low
  else low + 1

def significant (value : ℚ) : ℚ :=
  if value = 0 then 0
  else
    let scale := (10 : ℚ) ^ (27 - Int.log 10 |value|)
    roundHalfEven (value * scale) / scale

def Decimal.add (left right : ℚ) : ℚ := significant (left + right)

def Decimal.mul (left right : ℚ) : ℚ := significant (left * right)

def Decimal.div (left right : ℚ) : ℚ := significant (left / right)

/-- The value in a `NUMERIC(18, 8)` column, for a value that is not negative. -/
def numeric8 (value : ℚ) : ℚ := ⌊value * 10 ^ 8 + 1 / 2⌋ / 10 ^ 8

def fitsNumeric8 (value : ℚ) : Bool := numeric8 value < 10 ^ 10

def fitsInteger (value : Int) : Bool := -2147483648 ≤ value && value ≤ 2147483647

end Obsion
