/-!
# Finite doubles

A document never holds an infinity or a NaN, so a double is here a sign and a natural multiple of a
power of two, in the one form the format gives it.  Every operation is exact arithmetic followed by
one rounding to the nearest double, a tie going to the even significand.
-/

namespace KanaSettings

/-- A finite double: `significand * 2 ^ scale / 2 ^ 1074`, with a sign of its own, so that zero
has two forms. -/
structure Binary64 where
  negative : Bool
  /-- The significand, with the leading bit that the format leaves out. -/
  significand : Nat
  /-- The power of two, counted from that of the least positive double. -/
  scale : Nat
  significand_lt : significand < Nat.pow 2 53
  scale_le : scale ≤ 2045
  /-- Above the least scale the significand has all its bits. -/
  normal : scale = 0 ∨ Nat.pow 2 52 ≤ significand
deriving DecidableEq

namespace Binary64

/-- Zero, of either sign. -/
def zero (negative : Bool) : Binary64 :=
  ⟨negative, 0, 0, by decide, by decide, Or.inl rfl⟩

instance : Inhabited Binary64 := ⟨zero false⟩

/-- The double with the other sign. -/
def neg (x : Binary64) : Binary64 := { x with negative := !x.negative }

/-- The nonnegative double with these parts, if they fit the format. -/
def ofParts? (significand scale : Nat) : Option Binary64 :=
  if h : significand < Nat.pow 2 53 ∧ scale ≤ 2045 ∧ (scale = 0 ∨ Nat.pow 2 52 ≤ significand) then
    some ⟨false, significand, scale, h.1, h.2.1, h.2.2⟩
  else none

/-- The natural number nearest to `a / b`; a tie goes to the even one. -/
def roundedQuotient (a b : Nat) : Nat :=
  let q := a / b
  let twice := 2 * (a % b)
  if twice < b then q else if b < twice then q + 1 else q + q % 2

/-- The double nearest to `a / b`, or `none` if that is beyond the largest finite double.  The
scale is chosen so that the quotient in units of it has 53 bits, or is the least one. -/
def ofRatio (a b : Nat) : Option Binary64 :=
  let units := a * Nat.pow 2 1074
  let scale := Nat.log2 (units / b) - 52
  let significand := roundedQuotient units (b * Nat.pow 2 scale)
  if significand < Nat.pow 2 53 then ofParts? significand scale
  else ofParts? (significand / 2) (scale + 1)

/-- The double nearest to a natural number. -/
def ofNat (n : Nat) : Option Binary64 := ofRatio n 1

/-- The product of two magnitudes, rounded; signs are left to the caller. -/
def times (x y : Binary64) : Option Binary64 :=
  ofRatio (x.significand * y.significand * Nat.pow 2 (x.scale + y.scale)) (Nat.pow 2 2148)

/-- The quotient of two magnitudes, rounded; signs are left to the caller. -/
def dividedBy (x y : Binary64) : Option Binary64 :=
  ofRatio (x.significand * Nat.pow 2 x.scale) (y.significand * Nat.pow 2 y.scale)

/-- The double nearest to `10 ^ k`. -/
def tenPow (k : Nat) : Option Binary64 := ofNat (Nat.pow 10 k)

/-- A magnitude times `10 ^ exponent`, computed as a chain of rounded operations with rounded
powers of ten, of which the largest is `10 ^ 308`.  So the result can be one or two units
away from the double nearest to the exact product. -/
def scaleTen (x : Binary64) (exponent : Int) : Option Binary64 :=
  match exponent with
  | .ofNat k =>
    if k ≤ 308 then (tenPow k).bind x.times
    else if x.significand = 0 then some x else none
  | .negSucc j =>
    let k := j + 1
    if k ≤ 308 then (tenPow k).bind x.dividedBy
    else if k ≤ 616 then do
      let y ← (tenPow 308).bind x.dividedBy
      (tenPow (k - 308)).bind y.dividedBy
    else some (zero false)

end Binary64

end KanaSettings
