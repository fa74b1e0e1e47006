import KanaSettings.Binary64.Basic

/-!
# The shortest decimal of a double

A double is written with the fewest digits that still read back as it: of the decimals in the interval
that rounds to the double, the nearest one on the coarsest grid, an exact tie going to the even
multiple.
-/

namespace KanaSettings.Binary64

/-! ## The digits -/

/-- The reals that round to a magnitude, as fractions over one denominator. -/
structure RoundingInterval where
  value : Nat
  low : Nat
  high : Nat
  denominator : Nat
  /-- Whether the two ends round to the magnitude too. -/
  closed : Bool

/-- The rounding interval of a double.  Its lower half is half as wide where the doubles below
lie twice as close. -/
def interval (x : Binary64) : RoundingInterval :=
  let m := x.significand
  let unit := Nat.pow 2 (x.scale - 1076)
  let below := if m = Nat.pow 2 52 ∧ x.scale ≠ 0 then 1 else 2
  { value := 4 * m * unit
    low := (4 * m - below) * unit
    high := (4 * m + 2) * unit
    denominator := Nat.pow 2 (1076 - x.scale)
    closed := m % 2 = 0 }

namespace RoundingInterval

/-- The same interval with the numbers divided by `10 ^ k`. -/
def overTen (r : RoundingInterval) (k : Int) : RoundingInterval :=
  let up := Nat.pow 10 (-k).toNat
  { value := r.value * up
    low := r.low * up
    high := r.high * up
    denominator := r.denominator * Nat.pow 10 k.toNat
    closed := r.closed }

/-- Whether a natural number lies in the interval. -/
def contains (r : RoundingInterval) (c : Nat) : Bool :=
  let p := c * r.denominator
  if r.closed then r.low ≤ p && p ≤ r.high else r.low < p && p < r.high

/-- The natural number in the interval that is nearest to its value, if there is one.  Only the
two neighbours of the value have to be looked at. -/
def nearest? (r : RoundingInterval) : Option Nat :=
  let c := r.value / r.denominator
  match r.contains c, r.contains (c + 1) with
  | true, true =>
    let twice := 2 * (r.value % r.denominator)
    if twice < r.denominator then some c
    else if r.denominator < twice then some (c + 1)
    else some (c + c % 2)
  | true, false => some c
  | false, true => some (c + 1)
  | false, false => none

end RoundingInterval

/-- Look for a multiple of `10 ^ k` in an interval, then of `10 ^ (k - 1)`, and so on. -/
def coarsest (r : RoundingInterval) : (steps : Nat) → (k : Int) → Nat × Int
  | 0, k => (r.value / r.denominator, k)
  | steps + 1, k =>
    match (r.overTen k).nearest? with
    | some c => (c, k)
    | none => coarsest r steps (k - 1)

/-- The digits of the shortest decimal of a positive magnitude, as a number `c`, and the power
`k` of ten they count: the decimal is `c * 10 ^ k`.  The search starts above the magnitude,
where `1233 / 4096` stands for the decimal logarithm of 2, and seventeen digits always do. -/
def shortest (x : Binary64) : Nat × Int :=
  let magnitude : Int := (Nat.log2 x.significand + 1 : Nat) + (x.scale : Int) - 1074
  coarsest x.interval 24 (magnitude * 1233 / 4096 + 1)

/-! ## The layout -/

/-- Which decimals are written positionally: those whose point stands no further left of the
first digit, and no further right of it, than this. -/
structure Layout where
  /-- How many zeros may stand between the point and the first digit. -/
  leadingZeros : Nat
  /-- How many digits may stand before the point. -/
  wholeDigits : Nat

/-- A settings document writes numbers from `1e-5` up to `1e16` positionally. -/
def documentLayout : Layout := ⟨4, 16⟩

/-- The text of `c * 10 ^ k`.  Positional text always has a point with a digit after it; an
exponent has its sign always and no leading zeros. -/
def Layout.text (l : Layout) (c : Nat) (k : Int) : String :=
  let digits := (Nat.toDigits 10 c)
  let point : Int := digits.length + k
  if -(l.leadingZeros : Int) ≤ point ∧ point ≤ l.wholeDigits then
    if 0 ≤ k then String.ofList (digits ++ List.replicate k.toNat '0') ++ ".0"
    else if 0 < point then
      String.ofList (digits.take point.toNat) ++ "." ++ String.ofList (digits.drop point.toNat)
    else "0." ++ String.ofList (List.replicate (-point).toNat '0' ++ digits)
  else
    let exponent := point - 1
    let sign := if exponent < 0 then "-" else "+"
    let fraction := if digits.length = 1 then "" else "." ++ String.ofList (digits.drop 1)
    String.ofList (digits.take 1) ++ fraction ++ "e" ++ sign ++ toString exponent.natAbs

/-- The text of a double in a settings document. -/
def text (x : Binary64) : String :=
  let sign := if x.negative then "-" else ""
  if x.significand = 0 then sign ++ "0.0"
  else
    let (c, k) := x.shortest
    sign ++ documentLayout.text c k

end KanaSettings.Binary64
