import KanaSettings.Binary64.Decimal
import Mathlib.Tactic

/-!
# The shortest decimal is near the double

The decimal that a double is written as is searched on coarser grids first, with a bound on the number
of grids.  The bound is never reached: on a grid finer than the interval of the reals that round to
the double one multiple lies in the interval, and the search comes to such a grid in time.  So the
decimal is in the interval, and never above its upper end.
-/

namespace KanaSettings.Binary64

/-! ## One grid -/

namespace RoundingInterval

variable {r : RoundingInterval} {c : Nat} {k : Int}

lemma contains_of_nearest? (h : r.nearest? = some c) : r.contains c = true := by
  unfold nearest? at h
  dsimp only at h
  split at h
  · rename_i here next
    split_ifs at h
    · cases h
      exact here
    · cases h
      exact next
    · cases h
      rcases Nat.mod_two_eq_zero_or_one (r.value / r.denominator) with even | odd
      · rwa [even, Nat.add_zero]
      · rwa [odd]
  · rename_i here next
    cases h
    exact here
  · rename_i here next
    cases h
    exact next
  · cases h

lemma le_high_of_contains (h : r.contains c = true) : c * r.denominator ≤ r.high := by
  unfold contains at h
  dsimp only at h
  split_ifs at h
  · simp only [Bool.and_eq_true, decide_eq_true_eq] at h
    exact h.2
  · simp only [Bool.and_eq_true, decide_eq_true_eq] at h
    exact h.2.le

/-- Where a step of the grid is no longer than the way from the lower end to the value, a multiple is
found. -/
lemma exists_nearest? (positive : 0 < r.denominator) (wide : r.low + r.denominator ≤ r.value)
    (above : r.value < r.high) : ∃ c, r.nearest? = some c := by
  have parts := Nat.div_add_mod r.value r.denominator
  have rest := Nat.mod_lt r.value positive
  have here : r.contains (r.value / r.denominator) = true := by
    rw [Nat.mul_comm] at parts
    unfold contains
    dsimp only
    split_ifs
    · simp only [Bool.and_eq_true, decide_eq_true_eq]
      omega
    · simp only [Bool.and_eq_true, decide_eq_true_eq]
      omega
  unfold nearest?
  dsimp only
  rw [here]
  cases r.contains (r.value / r.denominator + 1)
  · exact ⟨_, rfl⟩
  · dsimp only
    split_ifs <;> exact ⟨_, rfl⟩

/-- A power is the quotient of two that are natural numbers. -/
lemma zpow_eq_div (b : Nat) (e : Int) :
    (b : ℚ) ^ e = b ^ e.toNat / b ^ (-e).toNat := by
  rcases le_total 0 e with nonneg | nonpos
  · obtain ⟨n, rfl⟩ := Int.eq_ofNat_of_zero_le nonneg
    simp
  · obtain ⟨n, hn⟩ := Int.eq_ofNat_of_zero_le (Int.neg_nonneg.2 nonpos)
    obtain rfl : e = -n := by omega
    simp

lemma le_of_contains_overTen (positive : 0 < r.denominator)
    (h : (r.overTen k).contains c = true) : (c * 10 ^ k : ℚ) ≤ r.high / r.denominator := by
  have le : c * (r.denominator * 10 ^ k.toNat) ≤ r.high * 10 ^ (-k).toNat := le_high_of_contains h
  have le : (c * (r.denominator * 10 ^ k.toNat) : ℚ) ≤ r.high * 10 ^ (-k).toNat := by
    exact_mod_cast le
  have power := zpow_eq_div 10 k
  push_cast at power
  rw [power, le_div_iff₀ (by exact_mod_cast positive), mul_div_assoc', div_mul_eq_mul_div,
    div_le_iff₀ (by positivity)]
  linarith

end RoundingInterval

/-! ## The search -/

/-- If some grid is found, the search ends with the first one. -/
lemma nearest?_coarsest {r : RoundingInterval} {steps : Nat} {k : Int}
    (some : ∃ j < steps, ∃ c, (r.overTen (k - j)).nearest? = some c) :
    (r.overTen (coarsest r steps k).2).nearest? = .some (coarsest r steps k).1 := by
  induction steps generalizing k with
  | zero =>
    obtain ⟨j, none, -⟩ := some
    exact absurd none (Nat.not_lt_zero j)
  | succ steps ih =>
    rw [coarsest]
    split
    · rename_i c found
      exact found
    · rename_i none
      refine ih ?_
      obtain ⟨j, bound, c, found⟩ := some
      cases j with
      | zero =>
        rw [Nat.cast_zero, sub_zero, none] at found
        cases found
      | succ j =>
        refine ⟨j, Nat.lt_of_succ_lt_succ bound, c, ?_⟩
        rwa [show k - 1 - (j : Int) = k - (j + 1 : Nat) by push_cast; ring]

/-- To compare powers of ten and of two without fractions. -/
lemma ten_zpow_le_two_zpow {k e : Int} : (10 : ℚ) ^ k ≤ 2 ^ e ↔
    2 ^ (-e).toNat * 10 ^ k.toNat ≤ 2 ^ e.toNat * 10 ^ (-k).toNat := by
  have ten := RoundingInterval.zpow_eq_div 10 k
  have two := RoundingInterval.zpow_eq_div 2 e
  push_cast at ten two
  rw [ten, two, div_le_div_iff₀ (by positivity) (by positivity), mul_comm ((10 : ℚ) ^ _)]
  exact_mod_cast Iff.rfl

/-- The exponent of the last grid that is tried for a magnitude with `n` binary digits before the
point. -/
def lastGrid (n : Int) : Int := n * 1233 / 4096 - 22

/-- That one step of this grid is no longer than a quarter of a unit in the last of 53 places. -/
def FineGrid (n : Int) : Prop :=
  2 ^ (-(n - 55)).toNat * 10 ^ (lastGrid n).toNat ≤ 2 ^ (n - 55).toNat * 10 ^ (-lastGrid n).toNat

instance (n : Int) : Decidable (FineGrid n) := Nat.decLe _ _

lemma fineGrid : ∀ i < 2098, FineGrid (Int.ofNat i - 1073) := by decide +kernel

lemma lastGrid_fine {x : Binary64} (positive : x.significand ≠ 0) :
    (10 : ℚ) ^ lastGrid ((Nat.log2 x.significand + 1 : Nat) + (x.scale : Int) - 1074) ≤
      2 ^ ((x.scale : Int) - 1076) := by
  have bits : Nat.log2 x.significand < 53 :=
    (Nat.log2_lt positive).2 x.significand_lt
  have scale := x.scale_le
  have fine := fineGrid (Nat.log2 x.significand + x.scale) (by omega)
  generalize hn : Int.ofNat (Nat.log2 x.significand + x.scale) - 1073 = n at fine
  have same : (Nat.log2 x.significand + 1 : Nat) + (x.scale : Int) - 1074 = n := by
    rw [Int.ofNat_eq_natCast] at hn
    omega
  rw [same]
  refine (ten_zpow_le_two_zpow.2 fine).trans (zpow_le_zpow_right₀ (by norm_num) ?_)
  omega

/-- The lower end of the interval is a quarter of a unit in the last place below the value at least. -/
lemma low_add_le {x : Binary64} (positive : x.significand ≠ 0) :
    x.interval.low + 2 ^ (x.scale - 1076) ≤ x.interval.value := by
  have half : 4 * x.significand -
      (if x.significand = Nat.pow 2 52 ∧ x.scale ≠ 0 then 1 else 2) + 1 ≤ 4 * x.significand := by
    split_ifs <;> omega
  have more := Nat.mul_le_mul_right (2 ^ (x.scale - 1076)) half
  rwa [Nat.succ_mul] at more

lemma value_lt_high (x : Binary64) : x.interval.value < x.interval.high :=
  Nat.mul_lt_mul_of_pos_right (Nat.lt_add_of_pos_right (by decide)) (Nat.pow_pos (by decide))

/-- The search finds a multiple in the interval. -/
lemma nearest?_shortest {x : Binary64} (positive : x.significand ≠ 0) :
    (x.interval.overTen x.shortest.2).nearest? = some x.shortest.1 := by
  unfold shortest
  refine nearest?_coarsest ⟨23, by decide, ?_⟩
  have fine := ten_zpow_le_two_zpow.1 (lastGrid_fine positive)
  generalize ((Nat.log2 x.significand + 1 : Nat) + (x.scale : Int) - 1074) = n at fine ⊢
  rw [show n * 1233 / 4096 + 1 - (23 : Nat) = lastGrid n by unfold lastGrid; push_cast; ring]
  generalize lastGrid n = k at fine ⊢
  have above : (0 : Nat) < 10 ^ (-k).toNat := Nat.pow_pos (by decide)
  rw [show (-((x.scale : Int) - 1076)).toNat = 1076 - x.scale by omega,
    show ((x.scale : Int) - 1076).toNat = x.scale - 1076 by omega] at fine
  refine RoundingInterval.exists_nearest? ?_ ?_ ?_
  · exact Nat.mul_pos (Nat.pow_pos (by decide)) (Nat.pow_pos (by decide))
  · calc x.interval.low * 10 ^ (-k).toNat + 2 ^ (1076 - x.scale) * 10 ^ k.toNat
        ≤ x.interval.low * 10 ^ (-k).toNat + 2 ^ (x.scale - 1076) * 10 ^ (-k).toNat :=
          Nat.add_le_add_left fine _
      _ = (x.interval.low + 2 ^ (x.scale - 1076)) * 10 ^ (-k).toNat := by ring
      _ ≤ x.interval.value * 10 ^ (-k).toNat := Nat.mul_le_mul_right _ (low_add_le positive)
  · exact Nat.mul_lt_mul_of_pos_right (value_lt_high x) above

/-- The decimal of a double is not above the upper end of the reals that round to it. -/
theorem shortest_le {x : Binary64} (positive : x.significand ≠ 0) :
    (x.shortest.1 * 10 ^ x.shortest.2 : ℚ) ≤
      (4 * x.significand + 2) * 2 ^ ((x.scale : Int) - 1076) := by
  have found := RoundingInterval.contains_of_nearest? (nearest?_shortest positive)
  have denominator : 0 < x.interval.denominator := Nat.pow_pos (by decide)
  refine (RoundingInterval.le_of_contains_overTen denominator found).trans (le_of_eq ?_)
  have power := RoundingInterval.zpow_eq_div 2 ((x.scale : Int) - 1076)
  rw [show (-((x.scale : Int) - 1076)).toNat = 1076 - x.scale by omega,
    show ((x.scale : Int) - 1076).toNat = x.scale - 1076 by omega] at power
  have high : x.interval.high = (4 * x.significand + 2) * 2 ^ (x.scale - 1076) := rfl
  have low : x.interval.denominator = 2 ^ (1076 - x.scale) := rfl
  rw [high, low]
  push_cast at power ⊢
  rw [power, mul_div_assoc]

end KanaSettings.Binary64
