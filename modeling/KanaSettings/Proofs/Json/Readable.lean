import KanaSettings.Proofs.Binary64.Rounding
import KanaSettings.Proofs.Binary64.Shortest
import KanaSettings.Proofs.Json.Kept
import KanaSettings.Proofs.Json.Reading

/-!
# Every number that is written can be read

A token just below the largest double may be refused, because it is read with roundings of its own.
But no token is that a double is written as, so what a document holds can always be read after it was
written, though not always as the same number.
-/

namespace KanaSettings

namespace Json.Numeral

/-! ## Digits that are collected -/

lemma mul_pow_le_foldl_digits (n : Nat) (ds : List Nat) :
    n * 10 ^ ds.length ≤ ds.foldl (fun n d => n * 10 + d) n := by
  induction ds generalizing n with
  | nil => simp
  | cons d ds ih =>
    calc n * 10 ^ (ds.length + 1) = n * 10 * 10 ^ ds.length := by ring
      _ ≤ (n * 10 + d) * 10 ^ ds.length := Nat.mul_le_mul_right _ (Nat.le_add_right _ _)
      _ ≤ ds.foldl (fun n d => n * 10 + d) (n * 10 + d) := ih _

/-- What is collected and what is left over make up all the digits. -/
lemma foldl_collect (n : Nat) (ds : List Nat) :
    (collect n ds).2.foldl (fun n d => n * 10 + d) (collect n ds).1 =
      ds.foldl (fun n d => n * 10 + d) n := by
  induction ds generalizing n with
  | nil => rfl
  | cons d ds ih =>
    rw [collect]
    split_ifs
    · exact ih _
    · rfl

lemma collect_lt {n : Nat} (small : n < Nat.pow 2 64) (ds : List Nat) :
    (collect n ds).1 < Nat.pow 2 64 := by
  induction ds generalizing n with
  | nil => exact small
  | cons d ds ih =>
    rw [collect]
    split_ifs with fits
    · exact ih fits
    · exact small

lemma length_collect_le (n : Nat) (ds : List Nat) : (collect n ds).2.length ≤ ds.length := by
  induction ds generalizing n with
  | nil => exact le_rfl
  | cons d ds ih =>
    rw [collect]
    split_ifs
    · exact (ih _).trans (Nat.le_succ _)
    · exact le_rfl

/-- A digit is left over only if it does not fit. -/
lemma le_of_collect_eq_cons {n d : Nat} {ds rest : List Nat}
    (left : (collect n ds).2 = d :: rest) : Nat.pow 2 64 ≤ (collect n ds).1 * 10 + d := by
  induction ds generalizing n with
  | nil => cases left
  | cons e ds ih =>
    rw [collect] at left ⊢
    split_ifs at left ⊢ with fits
    · exact ih left
    · cases left
      exact not_lt.1 fits

/-- Nothing is collected, or there is one digit less left over at least. -/
lemma collect_eq_or_lt (n : Nat) (ds : List Nat) :
    collect n ds = (n, ds) ∨ (collect n ds).2.length < ds.length := by
  cases ds with
  | nil => exact .inl rfl
  | cons d ds =>
    rw [collect]
    split_ifs
    · exact .inr (Nat.lt_succ_of_le (length_collect_le _ _))
    · exact .inl rfl

/-- The significand that is collected, with zeros in the places of the digits that are left over, is
never more than all the digits form. -/
lemma collected_le (whole fraction : List Nat) :
    let first := collect 0 whole
    let second := collect first.1 fraction
    second.1 * 10 ^ (first.2.length + second.2.length) ≤ amount (whole ++ fraction) := by
  intro first second
  have total : amount (whole ++ fraction) =
      fraction.foldl (fun n d => n * 10 + d)
        (first.2.foldl (fun n d => n * 10 + d) first.1) := by
    rw [foldl_collect, amount, List.foldl_append]
  rw [total]
  cases dropped : first.2 with
  | nil =>
    rw [List.foldl_nil, ← foldl_collect, List.length_nil, Nat.zero_add]
    exact mul_pow_le_foldl_digits _ _
  | cons d ds =>
    rw [← List.foldl_append]
    rcases collect_eq_or_lt first.1 fraction with none | some
    · rw [show second = (first.1, fraction) from none, ← List.length_append]
      exact mul_pow_le_foldl_digits _ _
    · -- A digit after the point was taken though one before it was not: it is too small to matter.
      have bits : second.1 ≤ first.1 * 10 + d :=
        (collect_lt (collect_lt (by decide) whole) fraction).le.trans
          (le_of_collect_eq_cons dropped)
      have places : (d :: ds).length + second.2.length ≤ (ds ++ fraction).length := by
        have less : second.2.length < fraction.length := some
        rw [List.length_cons, List.length_append]
        omega
      calc second.1 * 10 ^ ((d :: ds).length + second.2.length)
          ≤ (first.1 * 10 + d) * 10 ^ (ds ++ fraction).length :=
            Nat.mul_le_mul bits (Nat.pow_le_pow_right (by decide) places)
        _ ≤ (d :: ds ++ fraction).foldl (fun n d => n * 10 + d) first.1 :=
            mul_pow_le_foldl_digits _ _

/-! ## Tokens that are kept -/

variable {token : Numeral}

lemma abs_value (token : Numeral) : |token.value| =
    amount (token.whole ++ token.fraction) * 10 ^ (token.exponent.getD 0 - token.fraction.length) := by
  have power : (0 : ℚ) < 10 ^ (token.exponent.getD 0 - token.fraction.length) := by positivity
  rw [value, abs_mul, abs_mul, abs_of_pos power, Nat.abs_cast]
  split_ifs <;> simp

lemma exists_scaled (negative : Bool) {n : Nat} (bits : n < 2 ^ 64) {exponent : Int}
    (le : (n * 10 ^ exponent : ℚ) ≤ Binary64.belowMax) :
    ∃ m, scaled negative n exponent = some m := by
  obtain ⟨x, rounds, y, product⟩ := Binary64.exists_scaleTen bits le
  simp [scaled, rounds, product]

lemma exists_plainNumber (negative : Bool) {n : Nat} (bits : n < 2 ^ 64) :
    ∃ m, plainNumber negative n = some m := by
  unfold plainNumber
  split_ifs
  · exact ⟨_, rfl⟩
  · exact ⟨_, rfl⟩
  · refine exists_scaled true bits ?_
    rw [zpow_zero, mul_one]
    exact_mod_cast bits.le.trans Binary64.belowMax_bounds.2

/-- Up to the middle between the two largest finite doubles every token is kept. -/
theorem exists_number?_of_abs_le (le : |token.value| ≤ Binary64.belowMax) :
    ∃ n, token.number? = some n := by
  have bits : (collect 0 token.whole).1 < Nat.pow 2 64 := collect_lt (by decide) token.whole
  unfold number?
  dsimp only
  split_ifs
  · exact exists_plainNumber _ bits
  · refine exists_scaled _ (collect_lt bits token.fraction) (le_trans ?_ le)
    have total := collected_le token.whole token.fraction
    have left := length_collect_le (collect 0 token.whole).1 token.fraction
    dsimp only at total
    generalize collect 0 token.whole = first at *
    generalize collect first.1 token.fraction = second at *
    have places : (first.2.length : Int) - (token.fraction.length - second.2.length : Nat) +
        token.exponent.getD 0 = (first.2.length + second.2.length : Nat) +
          (token.exponent.getD 0 - token.fraction.length) := by
      omega
    have power : (0 : ℚ) ≤ 10 ^ (token.exponent.getD 0 - token.fraction.length) := by positivity
    rw [abs_value, places, zpow_add₀ (by norm_num), zpow_natCast, ← mul_assoc]
    refine mul_le_mul_of_nonneg_right ?_ power
    exact_mod_cast total

end Json.Numeral

/-! ## Doubles -/

namespace Binary64

/-- The largest finite double, with either sign. -/
def largest (negative : Bool) : Binary64 :=
  ⟨negative, 2 ^ 53 - 1, 2045, by decide, by decide, by decide⟩

variable {x : Binary64}

lemma abs_decimal (positive : x.significand ≠ 0) :
    |x.decimal| = x.shortest.1 * 10 ^ x.shortest.2 := by
  have power : (0 : ℚ) < 10 ^ x.shortest.2 := by positivity
  rw [decimal, if_neg positive, abs_mul, abs_mul, abs_of_pos power, Nat.abs_cast]
  split_ifs <;> simp

lemma belowMax_eq : (belowMax : ℚ) = (2 ^ 54 - 3) * 2 ^ ((970 : Nat) : Int) := by
  rw [belowMax]
  generalize 970 = k
  have power : ((Nat.pow 2 k : Nat) : ℚ) = 2 ^ k := Nat.cast_pow 2 k
  rw [Nat.cast_mul, power, zpow_natCast]
  norm_num

/-- What any other double is written as is not above the middle between the two largest ones. -/
lemma abs_decimal_le (other : x ≠ largest x.negative) : |x.decimal| ≤ belowMax := by
  by_cases zero : x.significand = 0
  · rw [decimal, if_pos zero, abs_zero]
    exact Nat.cast_nonneg _
  · rw [abs_decimal zero, belowMax_eq]
    refine (shortest_le zero).trans ?_
    have bits : x.significand < 2 ^ 53 := x.significand_lt
    -- At the greatest scale the significand is not full; at any other there is a factor two to spare.
    rcases x.scale_le.eq_or_lt with top | lower
    · have less : x.significand + 2 ≤ 2 ^ 53 := by
        by_contra more
        refine other ?_
        have full : x.significand = 2 ^ 53 - 1 := by omega
        cases x
        cases top
        cases full
        rfl
      have digits : (4 * x.significand + 2 : ℚ) ≤ (2 ^ 54 - 3) * 2 := by
        have whole : (x.significand + 2 : ℚ) ≤ 2 ^ 53 := by exact_mod_cast less
        linarith
      have power : (2 : ℚ) ^ ((970 : Nat) : Int) = 2 * 2 ^ ((x.scale : Int) - 1076) := by
        rw [top, ← zpow_one_add₀ two_ne_zero]
        rfl
      rw [power, ← mul_assoc]
      exact mul_le_mul_of_nonneg_right digits (by positivity)
    · have digits : (4 * x.significand + 2 : ℚ) ≤ (2 ^ 54 - 3) * 4 := by
        have whole : (x.significand + 1 : ℚ) ≤ 2 ^ 53 := by exact_mod_cast bits
        linarith
      have power : (2 : ℚ) ^ ((x.scale : Int) - 1076) ≤ 2 ^ (968 : Int) :=
        zpow_le_zpow_right₀ one_le_two (by omega)
      have next : (2 : ℚ) ^ ((970 : Nat) : Int) = 4 * 2 ^ (968 : Int) := by
        rw [show (4 : ℚ) = 2 ^ (2 : Int) by norm_num, ← zpow_add₀ two_ne_zero]
        rfl
      rw [next, ← mul_assoc]
      exact mul_le_mul digits power (by positivity) (by norm_num)

end Binary64

/-! ## Numbers -/

namespace Number

open Json (Numeral Written)

lemma readable_iff {n : Number} : n.Readable ↔ ∃ m, n.token.number? = some m := by
  rw [Readable, Json.Reader.number, n.numeral_text]
  simp

lemma readable_of_abs_le {n : Number} (le : |n.denoted| ≤ Binary64.belowMax) : n.Readable :=
  readable_iff.2 (Numeral.exists_number?_of_abs_le (by rwa [value_token]))

/-- Whatever is written for a double can be read. -/
theorem readable_double (x : Binary64) : (double x).Readable := by
  by_cases other : x = .largest x.negative
  · have kept : ∀ negative, (double (.largest negative)).token.number?.isSome := by
      decide +kernel
    rw [other, readable_iff]
    exact Option.isSome_iff_exists.1 (kept _)
  · exact readable_of_abs_le (Binary64.abs_decimal_le other)

lemma readable_int {z : Int} (bits : z.natAbs < 2 ^ 64) : (int z).Readable := by
  refine readable_of_abs_le ?_
  have cast : |(z : ℚ)| = z.natAbs := by rw [Nat.cast_natAbs, Int.cast_abs]
  rw [denoted, cast]
  exact_mod_cast bits.le.trans Binary64.belowMax_bounds.2

/-- Whatever is kept for a token can be read after it was written. -/
theorem readable_of_number? {token : Numeral} {n : Number} (kept : token.number? = some n) :
    n.Readable := by
  cases n with
  | double x => exact readable_double x
  | int z =>
    refine readable_int ?_
    obtain ⟨-, -, rfl⟩ := Numeral.of_number?_int kept
    have bits : (Numeral.collect 0 token.whole).1 < 2 ^ 64 :=
      Numeral.collect_lt (by decide) token.whole
    split_ifs
    · simpa using bits
    · simpa using bits

end Number

/-! ## Values -/

namespace Json

lemma exists_of_forall₂ {α β : Type} {R : α → β → Prop} {as : List α} {bs : List β}
    (h : List.Forall₂ R as bs) {b : β} (mem : b ∈ bs) : ∃ a, R a b := by
  induction h with
  | nil => cases mem
  | cons related others ih =>
    rcases List.mem_cons.1 mem with rfl | mem
    · exact ⟨_, related⟩
    · exact ih mem

lemma readable_of_keeps {w : Written} {v : Json} (keeps : Written.Keeps w v) :
    ∀ n ∈ v.numbers, n.Readable := by
  induction v using Json.induction generalizing w with
  | null | bool value | string value => simp [numbers]
  | number n =>
    cases keeps with
    | number kept => simpa [numbers] using Number.readable_of_number? kept
  | array items ih =>
    cases keeps with
    | array each =>
      rw [numbers]
      intro n mem
      obtain ⟨item, mem, found⟩ := List.mem_flatMap.1 mem
      obtain ⟨spelled, keeps⟩ := exists_of_forall₂ each mem
      exact ih item mem keeps n found
  | object members ih =>
    cases keeps with
    | object each =>
      rw [numbers]
      intro n mem
      obtain ⟨m, mem, found⟩ := List.mem_flatMap.1 mem
      obtain ⟨spelled, keeps⟩ := exists_of_forall₂ each (Members.mem_of_mem_ofPairs mem)
      cases keeps with
      | intro name keeps => exact ih _ mem keeps n found

/-- What a text holds can be read after it was written. -/
theorem readable_of_parse? {text : String} {v : Json} (h : parse? text = some v) : v.Readable := by
  obtain ⟨w, -, keeps⟩ := exists_spelled_of_parse? h
  obtain ⟨rest, reads⟩ := value_of_parse? h
  exact ⟨distinct_of_value reads, readable_of_keeps keeps⟩

end Json

end KanaSettings
