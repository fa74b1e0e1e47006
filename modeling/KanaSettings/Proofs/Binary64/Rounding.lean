import KanaSettings.Binary64.Basic
import Mathlib.Tactic

/-!
# Rounding to doubles

Every operation with doubles is exact arithmetic and one rounding.  The rounding keeps the order: of
two fractions the larger one has no smaller double.  So if a fraction is small enough to have a double
at all, every smaller one has, and it is enough to look at the largest operands to see that an
operation has a result.
-/

namespace KanaSettings.Binary64

/-! ## Quotients -/

variable {a b a' b' : Nat}

/-- A rounded quotient is off by a half at most, and by just a half only if it is even. -/
lemma roundedQuotient_near (positive : 0 < b) :
    2 * (b * roundedQuotient a b) ≤ 2 * a + b ∧ 2 * a ≤ 2 * (b * roundedQuotient a b) + b ∧
      (2 * (b * roundedQuotient a b) = 2 * a + b ∨ 2 * a = 2 * (b * roundedQuotient a b) + b →
        roundedQuotient a b % 2 = 0) := by
  have parts := Nat.div_add_mod a b
  have rest := Nat.mod_lt a positive
  unfold roundedQuotient
  dsimp only
  split_ifs with less more
  · omega
  · rw [Nat.mul_add]
    omega
  · rcases Nat.mod_two_eq_zero_or_one (a / b) with even | odd
    · rw [even, Nat.add_zero]
      omega
    · rw [odd, Nat.mul_add]
      omega

lemma roundedQuotient_or (a b : Nat) :
    roundedQuotient a b = a / b ∨ roundedQuotient a b = a / b + 1 := by
  unfold roundedQuotient
  dsimp only
  split_ifs <;> omega

lemma roundedQuotient_mono (positive : 0 < b) (positive' : 0 < b') (le : a * b' ≤ a' * b) :
    roundedQuotient a b ≤ roundedQuotient a' b' := by
  obtain ⟨low, -, tie⟩ := roundedQuotient_near (a := a) positive
  obtain ⟨-, high, tie'⟩ := roundedQuotient_near (a := a') positive'
  by_contra more
  have next : roundedQuotient a' b' + 1 ≤ roundedQuotient a b := not_le.1 more
  generalize roundedQuotient a b = q at *
  generalize roundedQuotient a' b' = q' at *
  -- Both fractions would have to be in the middle between the two quotients, which are neighbours.
  have apart : b * b' * q' + b * b' ≤ b * b' * q := by
    rw [← Nat.mul_succ]
    exact Nat.mul_le_mul_left _ next
  have above : 2 * (b * b' * q) ≤ 2 * (a * b') + b * b' := by
    calc 2 * (b * b' * q) = 2 * (b * q) * b' := by ring
      _ ≤ (2 * a + b) * b' := Nat.mul_le_mul_right b' low
      _ = 2 * (a * b') + b * b' := by ring
  have below : 2 * (a' * b) ≤ 2 * (b * b' * q') + b * b' := by
    calc 2 * (a' * b) = 2 * a' * b := by ring
      _ ≤ (2 * (b' * q') + b') * b := Nat.mul_le_mul_right b high
      _ = 2 * (b * b' * q') + b * b' := by ring
  have even : q % 2 = 0 := by
    refine tie (.inl (Nat.eq_of_mul_eq_mul_right positive' ?_))
    calc 2 * (b * q) * b' = 2 * (b * b' * q) := by ring
      _ = 2 * (a * b') + b * b' := by omega
      _ = (2 * a + b) * b' := by ring
  have even' : q' % 2 = 0 := by
    refine tie' (.inr (Nat.eq_of_mul_eq_mul_right positive ?_))
    calc 2 * a' * b = 2 * (a' * b) := by ring
      _ = 2 * (b * b' * q') + b * b' := by omega
      _ = (2 * (b' * q') + b') * b := by ring
  have neighbours : q = q' + 1 := by
    refine Nat.eq_of_mul_eq_mul_left (Nat.mul_pos positive positive') ?_
    rw [Nat.mul_succ]
    omega
  omega

/-! ## Doubles -/

/-- A magnitude in units of the least positive double. -/
def units (x : Binary64) : Nat := x.significand * 2 ^ x.scale

/-- How many units make one. -/
def perOne : Nat := Nat.pow 2 1074

/-- The scale of the largest finite doubles. -/
def maxScale : Nat := 2045

/-- The largest finite double in these units. -/
def maxUnits : Nat := (2 ^ 53 - 1) * 2 ^ maxScale

lemma perOne_pos : 0 < perOne := by
  unfold perOne
  generalize 1074 = k
  exact Nat.two_pow_pos k

lemma units_le (x : Binary64) : x.units ≤ maxUnits := by
  have bits : x.significand ≤ 2 ^ 53 - 1 := Nat.le_sub_one_of_lt x.significand_lt
  exact Nat.mul_le_mul bits (Nat.pow_le_pow_right (by decide) x.scale_le)

/-- The exponent of the power of two that a fraction is rounded to a multiple of, in units. -/
def grid (a b : Nat) : Nat := Nat.log2 (a * perOne / b) - 52

/-- How many times this power goes into the fraction, rounded. -/
def digits (a b : Nat) : Nat := roundedQuotient (a * perOne) (b * 2 ^ grid a b)

/-- A fraction in units, rounded. -/
def rounded (a b : Nat) : Nat := digits a b * 2 ^ grid a b

lemma ofRatio_eq (a b : Nat) : ofRatio a b =
    if digits a b < 2 ^ 53 then ofParts? (digits a b) (grid a b)
    else ofParts? (digits a b / 2) (grid a b + 1) := by
  unfold ofRatio digits grid perOne
  rfl

lemma units_of_ofParts? {significand scale : Nat} {x : Binary64}
    (h : ofParts? significand scale = some x) : x.units = significand * 2 ^ scale := by
  unfold ofParts? at h
  split_ifs at h
  cases h
  rfl

lemma exists_ofParts? {significand scale : Nat} (bits : significand < 2 ^ 53)
    (le : scale ≤ 2045) (normal : scale = 0 ∨ 2 ^ 52 ≤ significand) :
    ∃ x, ofParts? significand scale = some x := by
  unfold ofParts?
  rw [dif_pos ⟨bits, le, normal⟩]
  exact ⟨_, rfl⟩

lemma digits_le (a b : Nat) : digits a b ≤ 2 ^ 53 := by
  have whole : a * perOne / (b * 2 ^ grid a b) < 2 ^ 53 := by
    have bits : a * perOne / b < 2 ^ (Nat.log2 (a * perOne / b) + 1) := Nat.lt_log2_self
    rw [← Nat.div_div_eq_div_mul, Nat.div_lt_iff_lt_mul (Nat.pow_pos (by decide)), ← Nat.pow_add]
    refine lt_of_lt_of_le bits (Nat.pow_le_pow_right (by decide) ?_)
    unfold grid
    omega
  rcases roundedQuotient_or (a * perOne) (b * 2 ^ grid a b) with same | next
  · rw [digits, same]
    exact whole.le
  · rw [digits, next]
    exact whole

lemma le_digits (coarse : 0 < grid a b) : 2 ^ 52 ≤ digits a b := by
  have whole : 2 ^ 52 ≤ a * perOne / (b * 2 ^ grid a b) := by
    have log : grid a b + 52 = Nat.log2 (a * perOne / b) := by
      unfold grid at coarse ⊢
      omega
    have some : a * perOne / b ≠ 0 := by
      intro none
      rw [none] at log
      simp at log
    rw [← Nat.div_div_eq_div_mul, Nat.le_div_iff_mul_le (Nat.pow_pos (by decide)), ← Nat.pow_add,
      Nat.add_comm, log]
    exact Nat.log2_self_le some
  rcases roundedQuotient_or (a * perOne) (b * 2 ^ grid a b) with same | next
  · rwa [digits, same]
  · rw [digits, next]
    exact whole.trans (Nat.le_succ _)

lemma units_of_ofRatio {x : Binary64} (h : ofRatio a b = some x) : x.units = rounded a b := by
  rw [ofRatio_eq] at h
  split_ifs at h with fits
  · exact units_of_ofParts? h
  · have full : digits a b = 2 ^ 53 := le_antisymm (digits_le a b) (not_lt.1 fits)
    rw [units_of_ofParts? h, rounded, full, Nat.pow_succ]
    ring

/-- A significand with all its bits does not go with a scale above that of the largest doubles. -/
lemma scale_le_of_le_maxUnits {significand scale : Nat} (full : 2 ^ 52 ≤ significand)
    (le : significand * 2 ^ scale ≤ maxUnits) : scale ≤ maxScale := by
  by_contra above
  have more : 2 ^ 53 * 2 ^ maxScale ≤ significand * 2 ^ scale := by
    calc 2 ^ 53 * 2 ^ maxScale = 2 ^ 52 * 2 ^ (maxScale + 1) := by ring
      _ ≤ significand * 2 ^ scale :=
        Nat.mul_le_mul full (Nat.pow_le_pow_right (by decide) (not_le.1 above))
  have less : maxUnits < 2 ^ 53 * 2 ^ maxScale :=
    Nat.mul_lt_mul_of_pos_right (by decide) (Nat.pow_pos (by decide))
  omega

/-- A fraction that is rounded to no more than the largest double has a double. -/
lemma exists_ofRatio_of_rounded_le (le : rounded a b ≤ maxUnits) : ∃ x, ofRatio a b = some x := by
  rw [ofRatio_eq]
  rcases Nat.eq_zero_or_pos (grid a b) with fine | coarse
  · rw [fine]
    split_ifs with fits
    · exact exists_ofParts? fits (by decide) (.inl rfl)
    · have full : digits a b = 2 ^ 53 := le_antisymm (digits_le a b) (not_lt.1 fits)
      rw [full]
      exact exists_ofParts? (by decide) (by decide) (.inr (by decide))
  · split_ifs with fits
    · exact exists_ofParts? fits (scale_le_of_le_maxUnits (le_digits coarse) le)
        (.inr (le_digits coarse))
    · have full : digits a b = 2 ^ 53 := le_antisymm (digits_le a b) (not_lt.1 fits)
      rw [rounded, full, show 2 ^ 53 * 2 ^ grid a b = 2 ^ 52 * 2 ^ (grid a b + 1) by ring] at le
      rw [full]
      exact exists_ofParts? (by decide) (scale_le_of_le_maxUnits le_rfl le) (.inr (by decide))

/-! ## Order -/

lemma div_le_div_of_mul_le (positive : 0 < b) (positive' : 0 < b') (le : a * b' ≤ a' * b) :
    a / b ≤ a' / b' := by
  rw [Nat.le_div_iff_mul_le positive']
  refine Nat.le_of_mul_le_mul_right ?_ positive
  calc a / b * b' * b = a / b * b * b' := by ring
    _ ≤ a * b' := Nat.mul_le_mul_right b' (Nat.div_mul_le_self a b)
    _ ≤ a' * b := le

lemma grid_mono (positive : 0 < b) (positive' : 0 < b') (le : a * b' ≤ a' * b) :
    grid a b ≤ grid a' b' := by
  have units : a * perOne / b ≤ a' * perOne / b' := by
    refine div_le_div_of_mul_le positive positive' ?_
    calc a * perOne * b' = a * b' * perOne := by ring
      _ ≤ a' * b * perOne := Nat.mul_le_mul_right perOne le
      _ = a' * perOne * b := by ring
  unfold grid
  rw [Nat.log2_eq_log_two, Nat.log2_eq_log_two]
  exact Nat.sub_le_sub_right (Nat.log_mono_right units) 52

lemma rounded_mono (positive : 0 < b) (positive' : 0 < b') (le : a * b' ≤ a' * b) :
    rounded a b ≤ rounded a' b' := by
  rcases (grid_mono positive positive' le).eq_or_lt with same | finer
  · unfold rounded digits
    rw [← same]
    generalize grid a b = scale
    have power : 0 < 2 ^ scale := Nat.pow_pos (by decide)
    refine Nat.mul_le_mul_right _ (roundedQuotient_mono (Nat.mul_pos positive power)
      (Nat.mul_pos positive' power) ?_)
    calc a * perOne * (b' * 2 ^ scale) = a * b' * (perOne * 2 ^ scale) := by ring
      _ ≤ a' * b * (perOne * 2 ^ scale) := Nat.mul_le_mul_right _ le
      _ = a' * perOne * (b * 2 ^ scale) := by ring
  · -- On a finer grid there are not digits enough to come beyond the coarser one.
    calc rounded a b ≤ 2 ^ 53 * 2 ^ grid a b := Nat.mul_le_mul_right _ (digits_le a b)
      _ = 2 ^ 52 * 2 ^ (grid a b + 1) := by ring
      _ ≤ rounded a' b' := Nat.mul_le_mul (le_digits (Nat.zero_lt_of_lt finer))
        (Nat.pow_le_pow_right (by decide) finer)

/-- If a fraction has a double, a smaller one has a double that is not larger. -/
theorem exists_ofRatio_of_le (positive : 0 < b) (positive' : 0 < b') (le : a * b' ≤ a' * b)
    {y : Binary64} (some : ofRatio a' b' = some y) :
    ∃ x, ofRatio a b = .some x ∧ x.units ≤ y.units := by
  have mono := rounded_mono positive positive' le
  rw [← units_of_ofRatio some] at mono
  obtain ⟨x, found⟩ := exists_ofRatio_of_rounded_le (mono.trans y.units_le)
  exact ⟨x, found, (units_of_ofRatio found).trans_le mono⟩

/-! ## Operations -/

variable {x x' y y' z : Binary64}

/-- If a natural number has a double, a smaller one has a double that is not larger. -/
lemma exists_ofNat_of_le {n n' : Nat} (le : n ≤ n') (some : ofNat n' = some y) :
    ∃ x, ofNat n = .some x ∧ x.units ≤ y.units :=
  exists_ofRatio_of_le Nat.one_pos Nat.one_pos (Nat.mul_le_mul_right 1 le) some

lemma times_eq (x y : Binary64) : x.times y = ofRatio (x.units * y.units) (Nat.pow 2 2148) := by
  have product : x.significand * y.significand * Nat.pow 2 (x.scale + y.scale) =
      x.units * y.units := by
    show _ * 2 ^ (x.scale + y.scale) = _
    rw [units, units, Nat.pow_add]
    ring
  rw [times, product]

/-- If two doubles have a product, smaller ones have one. -/
lemma exists_times_of_le (le : x.units ≤ x'.units) (le' : y.units ≤ y'.units)
    (some : x'.times y' = some z) : ∃ w, x.times y = .some w := by
  rw [times_eq] at some ⊢
  have positive : 0 < Nat.pow 2 2148 := by
    generalize 2148 = k
    exact Nat.two_pow_pos k
  obtain ⟨w, found, -⟩ := exists_ofRatio_of_le positive positive
    (Nat.mul_le_mul_right _ (Nat.mul_le_mul le le')) some
  exact ⟨w, found⟩

/-- The largest double is one, and so is the largest power of ten that is used; the least of these
powers is one exactly. -/
lemma isSome_largest : (ofRatio maxUnits perOne).isSome ∧ (tenPow 308).isSome ∧
    (tenPow 0).map units = some perOne := by
  decide +kernel

/-- To divide by one or more never leads beyond the largest double. -/
lemma exists_dividedBy (x : Binary64) (one : perOne ≤ y.units) : ∃ z, x.dividedBy y = some z := by
  obtain ⟨m, some⟩ := Option.isSome_iff_exists.1 isSome_largest.1
  obtain ⟨z, found, -⟩ := exists_ofRatio_of_le (perOne_pos.trans_le one) perOne_pos
    (Nat.mul_le_mul x.units_le one) some
  exact ⟨z, found⟩

/-! ## Powers of ten -/

lemma exists_tenPow_of_le {k l : Nat} (le : k ≤ l) (some : tenPow l = some y) :
    ∃ x, tenPow k = .some x ∧ x.units ≤ y.units :=
  exists_ofNat_of_le (Nat.pow_le_pow_right (by decide) le) some

lemma exists_tenPow {k : Nat} (small : k ≤ 308) :
    ∃ y, tenPow k = some y ∧ perOne ≤ y.units := by
  obtain ⟨-, largest, value⟩ := isSome_largest
  obtain ⟨m, largest⟩ := Option.isSome_iff_exists.1 largest
  obtain ⟨y, found, -⟩ := exists_tenPow_of_le small largest
  obtain ⟨x, one, le⟩ := exists_tenPow_of_le (Nat.zero_le k) found
  have exact : x.units = perOne := by
    rw [one] at value
    exact Option.some.inj value
  exact ⟨y, found, exact ▸ le⟩

/-- The middle between the two largest finite doubles. -/
def belowMax : Nat := (2 ^ 54 - 3) * Nat.pow 2 970

lemma belowMax_bounds : belowMax < Nat.pow 10 309 ∧ 2 ^ 64 ≤ belowMax := by decide +kernel

lemma belowMax_lt_pow {k l : Nat} (lt : belowMax < Nat.pow 10 l) (le : l ≤ k) :
    belowMax < 10 ^ k :=
  lt_of_lt_of_le lt (Nat.pow_le_pow_right (by decide) le)

/-- The largest significand of 64 bits that stays below this middle with a power of ten. -/
def largestBeside (k : Nat) : Nat := min (2 ^ 64 - 1) (belowMax / Nat.pow 10 k)

/-- Up to here a significand of 64 bits is far from the middle. -/
def farPower : Nat := 288

/-- Up to there, and from there on, no roundings lead from below the middle to beyond the largest
double. -/
lemma isSome_times : ((ofNat (2 ^ 64 - 1)).bind fun x => (tenPow farPower).bind x.times).isSome ∧
    ∀ k ≤ 308, farPower < k →
      ((ofNat (largestBeside k)).bind fun x => (tenPow k).bind x.times).isSome := by
  decide +kernel

lemma exists_times_tenPow {n k : Nat} (bits : n < 2 ^ 64) (small : k ≤ 308)
    (le : n * 10 ^ k ≤ belowMax) :
    ∃ x, ofNat n = some x ∧ ∃ y, tenPow k = some y ∧ ∃ z, x.times y = some z := by
  -- Larger operands, whose product was looked at.
  obtain ⟨m, l, larger, above, some⟩ : ∃ m l, n ≤ m ∧ k ≤ l ∧
      ((ofNat m).bind fun x => (tenPow l).bind x.times).isSome := by
    rcases Nat.lt_or_ge farPower k with near | far
    · refine ⟨largestBeside k, k, le_min (Nat.le_sub_one_of_lt bits) ?_, le_rfl,
        isSome_times.2 k small near⟩
      exact (Nat.le_div_iff_mul_le (Nat.pow_pos (by decide))).2 le
    · exact ⟨2 ^ 64 - 1, farPower, Nat.le_sub_one_of_lt bits, far, isSome_times.1⟩
  obtain ⟨z, product⟩ := Option.isSome_iff_exists.1 some
  simp only [Option.bind_eq_some_iff] at product
  obtain ⟨x', found, y', found', product⟩ := product
  obtain ⟨x, rounds, le⟩ := exists_ofNat_of_le larger found
  obtain ⟨y, rounds', le'⟩ := exists_tenPow_of_le above found'
  exact ⟨x, rounds, y, rounds', exists_times_of_le le le' product⟩

lemma exists_ofNat {n : Nat} (bits : n < 2 ^ 64) : ∃ x, ofNat n = some x := by
  obtain ⟨z, product⟩ := Option.isSome_iff_exists.1 isSome_times.1
  obtain ⟨y, found, -⟩ := Option.bind_eq_some_iff.1 product
  obtain ⟨x, rounds, -⟩ := exists_ofNat_of_le (Nat.le_sub_one_of_lt bits) found
  exact ⟨x, rounds⟩

lemma exists_scaleTen_negSucc (x : Binary64) (j : Nat) :
    ∃ y, x.scaleTen (.negSucc j) = some y := by
  rw [scaleTen]
  split_ifs with small medium
  · obtain ⟨p, power, one⟩ := exists_tenPow small
    rw [power, Option.bind_some]
    exact exists_dividedBy x one
  · obtain ⟨p, power, one⟩ := exists_tenPow le_rfl
    obtain ⟨y, quotient⟩ := exists_dividedBy x one
    obtain ⟨p', power', one'⟩ := exists_tenPow (k := j + 1 - 308) (by omega)
    rw [power, Option.bind_some, quotient, Option.bind_eq_bind, Option.bind_some, power',
      Option.bind_some]
    exact exists_dividedBy y one'
  · exact ⟨_, rfl⟩

/-- A significand of 64 bits can be scaled by a power of ten if the product is not above the middle
between the two largest finite doubles, however the roundings fall out. -/
theorem exists_scaleTen {n : Nat} (bits : n < 2 ^ 64) {exponent : Int}
    (le : (n * 10 ^ exponent : ℚ) ≤ belowMax) :
    ∃ x, ofNat n = some x ∧ ∃ y, x.scaleTen exponent = some y := by
  cases exponent with
  | ofNat k =>
    have le : n * 10 ^ k ≤ belowMax := by
      rw [Int.ofNat_eq_natCast, zpow_natCast] at le
      exact_mod_cast le
    rcases Nat.lt_or_ge 308 k with large | small
    · -- Only zero can stand beside so large a power.
      have beyond := belowMax_lt_pow belowMax_bounds.1 large
      obtain rfl : n = 0 := by
        by_contra some
        have := Nat.le_mul_of_pos_left (10 ^ k) (Nat.pos_of_ne_zero some)
        omega
      obtain ⟨x, rounds⟩ := exists_ofNat bits
      have none : x.significand = 0 := by
        have whole : x.units = rounded 0 1 := units_of_ofRatio rounds
        simpa [units, rounded, digits, roundedQuotient] using whole
      refine ⟨x, rounds, x, ?_⟩
      rw [scaleTen, if_neg (not_le.2 large)]
      exact if_pos none
    · obtain ⟨x, rounds, y, power, z, product⟩ := exists_times_tenPow bits small le
      refine ⟨x, rounds, z, ?_⟩
      rw [scaleTen, if_pos small, power, Option.bind_some, product]
  -- To divide can always be rounded.
  | negSucc j =>
    obtain ⟨x, rounds⟩ := exists_ofNat bits
    exact ⟨x, rounds, exists_scaleTen_negSucc x j⟩

end KanaSettings.Binary64
