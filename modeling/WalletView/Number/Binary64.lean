/-
# Number.Binary64 — the finite doubles, as exact dyadic numbers

A finite double is a sign, a significand below `2 ^ 53` and a power of two.  Everything here
is exact natural-number arithmetic: a product or a quotient is formed exactly and then rounded
once, to the nearest double, a half going to the even significand.

`Binary64.ofDecimal` is the value of a decimal numeral whose digits have been gathered into
one word: the word is rounded to a double first, then multiplied or divided by a power of ten
that is itself a double.  Powers beyond `10 ^ 308` are divided out in steps of that size.  The
result can be a unit in the last place away from the numeral's exact value; that is the rule.
-/

set_option autoImplicit false

namespace WalletView

/-- The powers of two. -/
def twoPow (n : Nat) : Nat := Nat.pow 2 n

/-- The powers of ten. -/
def tenPow (n : Nat) : Nat := Nat.pow 10 n

/-- A finite double: `significand · 2 ^ exponent`, with the sign in front. -/
structure Binary64 where
  negative : Bool
  significand : Nat
  exponent : Int
deriving DecidableEq, Repr, Inhabited

namespace Binary64

/-- The exponent below which doubles have no finer unit. -/
def leastExponent : Int := -1074

/-- The exponent of the unit in the last place of the greatest double. -/
def greatestExponent : Int := 971

def zero (negative : Bool) : Binary64 :=
  ⟨negative, 0, leastExponent⟩

def isZero (x : Binary64) : Bool :=
  x.significand == 0

/-- Doubles that are one number: the two zeros are, any other double only with itself. -/
def same (x y : Binary64) : Bool :=
  (x.isZero && y.isZero) || x == y

/-- `num / den` as a whole number, a half going to the even neighbour. -/
def roundHalfEven (num den : Nat) : Nat :=
  let whole := num / den
  let twice := 2 * (num % den)
  if twice < den then whole
  else if den < twice then whole + 1
  else whole + whole % 2

/-- How many binary digits a number has; zero has none. -/
def bitLength (n : Nat) : Nat :=
  if n = 0 then 0 else n.log2 + 1

/-- The double nearest to `num / den`, or nothing when that lies beyond the greatest double. -/
def nearest? (negative : Bool) (num den : Nat) : Option Binary64 :=
  if num = 0 then some (zero negative)
  else
    let rough : Int := (bitLength num : Int) - bitLength den - 53
    let fits := num * twoPow (-rough).toNat < den * twoPow (rough.toNat + 53)
    let exponent := max leastExponent (if fits then rough else rough + 1)
    let significand := roundHalfEven (num * twoPow (-exponent).toNat) (den * twoPow exponent.toNat)
    let (significand, exponent) :=
      if significand = twoPow 53 then (twoPow 52, exponent + 1) else (significand, exponent)
    if greatestExponent < exponent then none else some ⟨negative, significand, exponent⟩

def mul? (x y : Binary64) : Option Binary64 :=
  let exponent := x.exponent + y.exponent
  nearest? (x.negative != y.negative)
    (x.significand * y.significand * twoPow exponent.toNat) (twoPow (-exponent).toNat)

def div? (x y : Binary64) : Option Binary64 :=
  let exponent := x.exponent - y.exponent
  nearest? (x.negative != y.negative)
    (x.significand * twoPow exponent.toNat) (y.significand * twoPow (-exponent).toNat)

/-- The greatest power of ten that a double can hold. -/
def greatestPowerOfTen : Nat := 308

/-- The double nearest to `10 ^ n`. -/
def powerOfTen? (n : Nat) : Option Binary64 :=
  nearest? false (tenPow n) 1

/-- Division by `10 ^ n`, in steps no greater than `10 ^ 308`, ending early at zero. -/
def divPowerOfTen? (x : Binary64) (n : Nat) : Option Binary64 :=
  if n ≤ greatestPowerOfTen then (powerOfTen? n).bind x.div?
  else if x.isZero then some x
  else
    ((powerOfTen? greatestPowerOfTen).bind x.div?).bind fun y =>
      divPowerOfTen? y (n - greatestPowerOfTen)
termination_by n
decreasing_by
  have : 0 < greatestPowerOfTen := by decide
  omega

/-- The double that the numeral `digits · 10 ^ exponent` stands for, or nothing when it is too
great for a double. -/
def ofDecimal? (negative : Bool) (digits : Nat) (exponent : Int) : Option Binary64 :=
  match nearest? negative digits 1 with
  | none => none
  | some x =>
    if exponent < 0 then x.divPowerOfTen? (-exponent).toNat
    else if exponent.toNat ≤ greatestPowerOfTen then (powerOfTen? exponent.toNat).bind x.mul?
    else if x.isZero then some x
    else none

end Binary64

end WalletView
