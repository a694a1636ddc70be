/-!
# Rounding formulas

The header rounds without a library: it truncates a float by a cast to the integer type of its
width and back, and derives the other roundings from that.  From a certain magnitude on a float has
no fractional part, and the cast is not needed and might not fit.

The formulas stand here once for every kind of number that they make sense for.  A `Format` says
what a kind of number brings with it; there is one for each float type, and one for rational
numbers, which have the same formulas without the rounding of floating-point arithmetic.

A comparison with something that is not a number is false, which the formulas are written for.
-/

namespace MathHeader

/-! ## Kinds of numbers -/

/-- A kind of number that the formulas work for. -/
structure Format (α : Type) where
  zero : α
  one : α
  half : α
  /-- The magnitude from which on every number of the kind is an integer. -/
  exact : α
  /-- The number without its fractional part, if it fits into the integer type of its width. -/
  throughInt : α → α

namespace Format

/-- Single precision. -/
def single : Format Float32 where
  zero := 0
  one := 1
  half := 0.5
  exact := 8388608
  throughInt x := x.toInt32.toFloat32

/-- Double precision. -/
def double : Format Float where
  zero := 0
  one := 1
  half := 0.5
  exact := 4503599627370496
  throughInt x := x.toInt64.toFloat

/-- Rational numbers, with the threshold of a float type. -/
def rational (exact : Rat) : Format Rat where
  zero := 0
  one := 1
  half := 1 / 2
  exact := exact
  throughInt x := x.num.tdiv x.den

variable {α : Type} [Add α] [Sub α] [Mul α] [Div α] [Neg α]
variable [LT α] [LE α] [DecidableLT α] [DecidableLE α]

/-! ## Roundings -/

/-- The magnitude of a number. -/
def abs (f : Format α) (x : α) : α :=
  if x < f.zero then -x else x

/-- Rounding toward zero. -/
def trunc (f : Format α) (x : α) : α :=
  if f.abs x < f.exact then f.throughInt x else x

/-- Rounding down. -/
def floor (f : Format α) (x : α) : α :=
  let t := f.trunc x
  if x < t then t - f.one else t

/-- Rounding up. -/
def ceil (f : Format α) (x : α) : α :=
  let t := f.trunc x
  if t < x then t + f.one else t

/-- Rounding to the nearest integer, a half away from zero. -/
def round (f : Format α) (x : α) : α :=
  let m := f.abs x
  let t := f.floor m
  let r := if f.half ≤ m - t then t + f.one else t
  if x < f.zero then -r else r

/-- The distance from the integer below. -/
def fract (f : Format α) (x : α) : α :=
  x - f.floor x

/-! ## Remainders and signs -/

/-- The remainder of the division that rounds toward zero. -/
def fmod (f : Format α) (a b : α) : α :=
  a - f.trunc (a / b) * b

/-- The number in the range from `lo` up to `hi` that differs from `v` by a multiple of its
length. -/
def wrap (f : Format α) (v lo hi : α) : α :=
  let span := hi - lo
  lo + f.fmod (span + f.fmod (v - lo) span) span

/-- One with the sign of a number, and zero for zero. -/
def sign (f : Format α) (x : α) : α :=
  let positive := if f.zero < x then f.one else f.zero
  let negative := if x < f.zero then f.one else f.zero
  positive - negative

/-- The magnitude of `x` with the sign of `s`. -/
def copysign (f : Format α) (x s : α) : α :=
  if s < f.zero then -f.abs x else f.abs x

end Format

/-! ## Integers -/

/-- The remainder of the division that rounds toward zero; there is none for a division by zero,
and none where the quotient does not fit. -/
def remainder? (a b : Int64) : Option Int64 :=
  if b = 0 ∨ (a = Int64.minValue ∧ b = -1) then none else some (a % b)

end MathHeader
