import KanaSettings.Json.Basic

/-!
# Number tokens

What number a document keeps for a token: an integer token in range stays an integer, everything else
becomes a double.  The double is computed from the digits that fit into 64 bits, so a token with more
digits need not become the double nearest to it.
-/

namespace KanaSettings.Json

/-- A number token. -/
structure Numeral where
  negative : Bool
  whole : List Nat
  /-- The digits after the point, none if the token has no point. -/
  fraction : List Nat
  /-- The power of ten after `e`, if the token has one. -/
  exponent : Option Int
deriving DecidableEq, Repr

namespace Numeral

/-- Append digits to a number below `2 ^ 64` as long as it stays below, and return it with the
digits left over. -/
def collect : Nat → List Nat → Nat × List Nat
  | n, [] => (n, [])
  | n, d :: ds => if n * 10 + d < Nat.pow 2 64 then collect (n * 10 + d) ds else (n, d :: ds)

/-- A double times a power of ten, with a sign. -/
def scaled (negative : Bool) (significand : Nat) (exponent : Int) : Option Number := do
  let x ← (← Binary64.ofNat significand).scaleTen exponent
  return .double (if negative then x.neg else x)

/-- Whether a token has neither a point nor a power of ten. -/
def isPlain (n : Numeral) : Bool := n.fraction.isEmpty && n.exponent.isNone

/-- The number of a plain token whose digits form `n`: minus zero and what is below `-2 ^ 63` are
doubles. -/
def plainNumber (negative : Bool) (n : Nat) : Option Number :=
  if !negative then some (.int n)
  else if 0 < n ∧ n ≤ Nat.pow 2 63 then some (.int (-(n : Int)))
  else scaled true n 0

/-- The number that a document keeps for a token; none if it is too large for a double. -/
def number? (n : Numeral) : Option Number :=
  let (significand, dropped) := collect 0 n.whole
  if n.isPlain && dropped.isEmpty then plainNumber n.negative significand
  else
    let (significand, left) := collect significand n.fraction
    let places : Int := dropped.length - (n.fraction.length - left.length : Nat)
    scaled n.negative significand (places + n.exponent.getD 0)

end Numeral

end KanaSettings.Json
