/-
# Number.Shortest — the fewest decimal digits that name a double

The reals that round to a double form an interval around it, whose ends belong to it exactly
when its significand is even.  `Binary64.digits` is the decimal number with the fewest digits
in that interval, and of two such the one nearer to the double.  On each decimal grid only the
two neighbours of the double need a test: if any point of the grid lies in the interval, one of
them does.  Grids are tried from one digit up; seventeen digits always suffice.

`Binary64.text` writes those digits: with a point while the leading digit stands between five
places behind it and fifteen before it, and with a signed power of ten beyond.
-/
import WalletView.Number.Binary64

set_option autoImplicit false

namespace WalletView.Binary64

/-- A double as a fraction of natural numbers, its sign aside. -/
def fraction (x : Binary64) : Nat × Nat :=
  (x.significand * twoPow x.exponent.toNat, twoPow (-x.exponent).toNat)

/-- The power of ten of the leading digit of `num / den`, neither of them zero. -/
def leadingPower (num den : Nat) : Int :=
  if den ≤ num then ((Nat.toDigits 10 (num / den)).length : Int) - 1
  else -((Nat.toDigits 10 ((den + num - 1) / num - 1)).length : Int)

/-- Whether `point · 10 ^ power` rounds to the double.  Four times the double's significand
makes both ends of its interval whole; below a power of two the gap is half as wide. -/
def holds (x : Binary64) (point : Nat) (power : Int) : Bool :=
  let unit : Int := x.exponent - 2
  let left := 4 * point * tenPow power.toNat * twoPow (-unit).toNat
  let scale := 4 * tenPow (-power).toNat * twoPow unit.toNat
  let narrow := x.significand = twoPow 52 ∧ leastExponent < x.exponent
  let low := (4 * x.significand - if narrow then 1 else 2) * scale
  let high := (4 * x.significand + 2) * scale
  if x.significand % 2 = 0 then low ≤ left ∧ left ≤ high else low < left ∧ left < high

/-- The neighbours of the double on the grid of multiples of `10 ^ power`, and the one of them
to write if either rounds to the double. -/
def onGrid? (x : Binary64) (power : Int) : Option Nat :=
  let (num, den) := x.fraction
  let num := num * tenPow (-power).toNat
  let den := den * tenPow power.toNat
  let below := num / den
  match x.holds below power, x.holds (below + 1) power with
  | true, true => some (roundHalfEven num den)
  | true, false => some below
  | false, true => some (below + 1)
  | false, false => none

/-- The first of the next `count` grids, from `power` down, with a point that rounds to the
double. -/
def firstGrid (x : Binary64) : (count : Nat) → (power : Int) → Nat × Int
  | 0, power => (roundHalfEven (x.fraction.1 * tenPow (-power).toNat)
      (x.fraction.2 * tenPow power.toNat), power)
  | count + 1, power =>
    match x.onGrid? power with
    | some point => (point, power)
    | none => x.firstGrid count (power - 1)

/-- The shortest digits that name a double other than zero, and the power of ten of the first. -/
def digits (x : Binary64) : List Char × Int :=
  let (num, den) := x.fraction
  let (point, power) := x.firstGrid 16 (leadingPower num den)
  let written := Nat.toDigits 10 point
  let kept := (written.reverse.dropWhile (· == '0')).reverse
  (kept, power + written.length - 1)

/-- How a double is laid out as text. -/
structure Layout where
  /-- The powers of ten of the leading digit that are written with a point. -/
  leastPositional : Int
  greatestPositional : Int
  /-- What follows a whole number. -/
  whole : List Char
  /-- What stands before a power of ten that is not negative. -/
  upward : List Char

/-- From `0.00001` up to fifteen digits after the first a point is written, a whole number ends
in `.0`, and beyond that the power of ten carries its sign. -/
def layout : Layout where
  leastPositional := -5
  greatestPositional := 15
  whole := ['.', '0']
  upward := ['+']

/-- The digits laid out, the leading one standing for a multiple of `10 ^ power`. -/
def Layout.write (l : Layout) (digits : List Char) (power : Int) : List Char :=
  if l.leastPositional ≤ power ∧ power ≤ l.greatestPositional then
    if power < 0 then
      '0' :: '.' :: List.replicate ((-power).toNat - 1) '0' ++ digits
    else
      let before := power.toNat + 1
      if digits.length ≤ before then
        digits ++ List.replicate (before - digits.length) '0' ++ l.whole
      else digits.take before ++ '.' :: digits.drop before
  else
    let head := match digits with
      | first :: second :: more => first :: '.' :: second :: more
      | short => short
    let sign := if power < 0 then ['-'] else l.upward
    head ++ 'e' :: sign ++ Nat.toDigits 10 power.natAbs

/-- The text of a double. -/
def text (x : Binary64) : List Char :=
  let sign := if x.negative then ['-'] else []
  if x.isZero then sign ++ '0' :: layout.whole
  else
    let (digits, power) := x.digits
    sign ++ layout.write digits power

end WalletView.Binary64
