import KanaSettings.Proofs.Json.Written

/-!
# What becomes of number tokens

A number token is kept as an integer or as a double, and what is written for that is another token.
An integer in range denotes afterwards what it denoted before.  Any other token denotes afterwards the
shortest decimal of its double, whatever it denoted before.
-/

namespace KanaSettings

namespace Json.Numeral

/-! ## Collecting digits -/

lemma le_foldl_digits (n : Nat) (ds : List Nat) : n ≤ ds.foldl (fun n d => n * 10 + d) n := by
  induction ds generalizing n with
  | nil => exact le_rfl
  | cons d ds ih =>
    have more := ih (n * 10 + d)
    rw [List.foldl_cons]
    omega

/-- No digit is left over exactly if the number that the digits form is below the limit. -/
lemma collect_eq_nil (n : Nat) (ds : List Nat) (small : n < Nat.pow 2 64) :
    (collect n ds).2 = [] ↔ ds.foldl (fun n d => n * 10 + d) n < Nat.pow 2 64 := by
  induction ds generalizing n with
  | nil => simpa [collect] using small
  | cons d ds ih =>
    rw [collect, List.foldl_cons]
    split_ifs with fits
    · exact ih _ fits
    · have more := le_foldl_digits (n * 10 + d) ds
      exact iff_of_false (by simp) (by omega)

lemma collect_of_eq_nil {n : Nat} {ds : List Nat} (all : (collect n ds).2 = []) :
    (collect n ds).1 = ds.foldl (fun n d => n * 10 + d) n := by
  induction ds generalizing n with
  | nil => rfl
  | cons d ds ih =>
    rw [collect] at all ⊢
    split_ifs at all ⊢ with fits
    exact ih all

/-! ## Integers -/

variable {token : Numeral}

lemma value_of_isPlain (plain : token.isPlain = true) :
    token.value = (if token.negative then -1 else 1) * amount token.whole := by
  simp only [isPlain, Bool.and_eq_true, List.isEmpty_iff, Option.isNone_iff_eq_none] at plain
  simp [value, plain.1, plain.2]

/-- A plain token whose digits are below the limit is kept as their number. -/
lemma number?_of_isPlain (plain : token.isPlain = true) (small : amount token.whole < Nat.pow 2 64) :
    token.number? = plainNumber token.negative (amount token.whole) := by
  have all := (collect_eq_nil 0 token.whole (by decide)).2 small
  have significand := collect_of_eq_nil all
  rw [number?, show collect 0 token.whole = (amount token.whole, []) from Prod.ext significand all]
  simp [plain]

/-- Only a plain token of which every digit fits is kept as an integer, and as the one that the digits
form. -/
lemma of_number?_int {z : Int} (kept : token.number? = some (.int z)) :
    token.isPlain = true ∧ (collect 0 token.whole).2 = [] ∧
      z = (if token.negative then -1 else 1) * ((collect 0 token.whole).1 : Int) := by
  have scaled_ne (negative : Bool) (n : Nat) (e : Int) : scaled negative n e ≠ some (.int z) := by
    intro same
    simp only [scaled, Option.bind_eq_bind, Option.bind_eq_some_iff] at same
    obtain ⟨x, -, y, -, made⟩ := same
    cases made
  unfold number? at kept
  dsimp only at kept
  split_ifs at kept with whole
  · simp only [Bool.and_eq_true, List.isEmpty_iff] at whole
    obtain ⟨plain, all⟩ := whole
    refine ⟨plain, all, ?_⟩
    unfold plainNumber at kept
    split_ifs at kept with positive range
    · cases kept
      simp_all
    · cases kept
      simp_all
    · exact absurd kept (scaled_ne _ _ _)
  · exact absurd kept (scaled_ne _ _ _)

lemma value_of_number?_int {z : Int} (kept : token.number? = some (.int z)) : token.value = z := by
  obtain ⟨plain, all, rfl⟩ := of_number?_int kept
  rw [value_of_isPlain plain, amount, collect_of_eq_nil all]
  push_cast
  rfl

/-- A whole number in range is kept as what it is. -/
lemma exists_number?_of_isPlain (plain : token.isPlain = true) (low : -2 ^ 63 ≤ token.value)
    (high : token.value < 2 ^ 64) : ∃ n, token.number? = some n ∧ n.denoted = token.value := by
  have value := value_of_isPlain plain
  cases sign : token.negative with
  | false =>
    have value : token.value = amount token.whole := by simpa [sign] using value
    have small : amount token.whole < Nat.pow 2 64 := by
      rw [value] at high
      exact_mod_cast high
    refine ⟨.int (amount token.whole), ?_, by simp [Number.denoted, value]⟩
    rw [number?_of_isPlain plain small, sign]
    rfl
  | true =>
    have value : token.value = -amount token.whole := by simpa [sign] using value
    have small : amount token.whole ≤ Nat.pow 2 63 := by
      rw [value, neg_le_neg_iff] at low
      exact_mod_cast low
    have kept := number?_of_isPlain plain (small.trans_lt (by decide))
    rw [sign] at kept
    by_cases zero : amount token.whole = 0
    · -- Zero with a minus is a double, of the same value.
      refine ⟨.double (.zero true), ?_, by simp [Number.denoted, Binary64.decimal, Binary64.zero,
        value, zero]⟩
      rw [kept, zero]
      decide +kernel
    · refine ⟨.int (-amount token.whole), ?_, by simp [Number.denoted, value]⟩
      rw [kept, plainNumber, if_neg (by simp), if_pos ⟨Nat.pos_of_ne_zero zero, small⟩]

/-- What becomes of a number token when what is kept for it is written. -/
structure Becomes (token other : Numeral) : Prop where
  kept : ∃ n, token.number? = some n ∧ other = n.token
  /-- What is kept as an integer denotes what it denoted. -/
  integer : ∀ z, token.number? = some (.int z) → other.value = token.value
  whole : token.isPlain = true → -2 ^ 63 ≤ token.value → token.value < 2 ^ 64 →
    other.value = token.value
  /-- What is kept as a double denotes the decimal that the double is written as. -/
  double : ∀ x, token.number? = some (.double x) → other.value = x.decimal

theorem becomes_token {n : Number} (kept : token.number? = some n) : token.Becomes n.token where
  kept := ⟨n, kept, rfl⟩
  integer := by
    intro z same
    rw [kept] at same
    cases same
    rw [Number.value_token, value_of_number?_int kept, Number.denoted]
  whole := by
    intro plain low high
    obtain ⟨m, same, value⟩ := exists_number?_of_isPlain plain low high
    rw [kept] at same
    cases same
    rw [Number.value_token, value]
  double := by
    intro x same
    rw [kept] at same
    cases same
    rw [Number.value_token, Number.denoted]

end Json.Numeral

end KanaSettings
