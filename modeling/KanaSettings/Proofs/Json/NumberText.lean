import KanaSettings.Proofs.Json.Tokens

/-!
# The texts of numbers

Whatever number a document keeps, its text is one number token, and the token denotes an exact
decimal: an integer itself, and a double the decimal that was searched for it.  Whether the token
would be kept as the same number is another question.
-/

namespace KanaSettings

/-! ## What a token denotes -/

namespace Json.Numeral

/-- The natural number that digits form. -/
def amount (ds : List Nat) : Nat := ds.foldl (fun n d => n * 10 + d) 0

/-- The number that a token denotes. -/
def value (token : Numeral) : ℚ :=
  (if token.negative then -1 else 1) * amount (token.whole ++ token.fraction) *
    10 ^ (token.exponent.getD 0 - token.fraction.length)

end Json.Numeral

/-- The decimal that a double is written as. -/
def Binary64.decimal (x : Binary64) : ℚ :=
  if x.significand = 0 then 0
  else (if x.negative then -1 else 1) * (x.shortest.1 * 10 ^ x.shortest.2)

/-- The number that the text of a number denotes. -/
def Number.denoted : Number → ℚ
  | .int value => value
  | .double value => value.decimal

namespace Json

open Numeral

/-! ## Digits -/

/-- The values of digits. -/
def digitValues (cs : List Char) : List Nat := cs.map fun d => d.toNat - '0'.toNat

@[simp] lemma digitValues_append (cs ds : List Char) :
    digitValues (cs ++ ds) = digitValues cs ++ digitValues ds := List.map_append

@[simp] lemma length_digitValues (cs : List Char) : (digitValues cs).length = cs.length :=
  List.length_map _

lemma amount_digitValues (cs : List Char) :
    amount (digitValues cs) = Nat.ofDigitChars 10 cs 0 := by
  simp only [amount, digitValues, List.foldl_map, Nat.ofDigitChars_eq_foldl, Nat.mul_comm 10]

/-- A digit that is not followed by another one is the last. -/
def Stops (rest : List Char) : Prop := ∀ c ∈ rest.head?, c.isDigit = false

lemma digits_all {ds rest : List Char} (all : ∀ c ∈ ds, c.isDigit = true) (stops : Stops rest) :
    Reader.digits (ds ++ rest) = (digitValues ds, rest) := by
  have front : rest.takeWhile Char.isDigit = [] ∧ rest.dropWhile Char.isDigit = rest := by
    cases rest with
    | nil => exact ⟨rfl, rfl⟩
    | cons c rest => simp [stops c rfl]
  simp [Reader.digits, List.span_eq_takeWhile_dropWhile, List.takeWhile_append_of_pos all,
    List.dropWhile_append_of_pos all, front, digitValues]

lemma someDigits_all {ds rest : List Char} (all : ∀ c ∈ ds, c.isDigit = true) (some : ds ≠ [])
    (stops : Stops rest) : Reader.someDigits (ds ++ rest) = .some (digitValues ds, rest) := by
  obtain ⟨d, ds, rfl⟩ := List.exists_cons_of_ne_nil some
  rw [Reader.someDigits, digits_all all stops]
  rfl

lemma head?_toDigits_ne_zero {n : Nat} (h : 0 < n) : (Nat.toDigits 10 n).head? ≠ some '0' := by
  induction n using Nat.strong_induction_on with
  | _ n ih =>
    rcases Nat.lt_or_ge n 10 with small | large
    · interval_cases n <;> decide
    · rw [Nat.toDigits_of_base_le (by decide) large,
        List.head?_append_of_ne_nil _ Nat.toDigits_ne_nil]
      exact ih (n / 10) (by omega) (by omega)

lemma isDigit_of_mem_replicate_zero {n : Nat} {c : Char} (h : c ∈ List.replicate n '0') :
    c.isDigit = true := by
  rw [List.eq_of_mem_replicate h]
  rfl

/-! ## Tokens by their parts -/

/-- Digits that can stand before the point. -/
structure Whole (whole : List Char) : Prop where
  digits : ∀ c ∈ whole, c.isDigit = true
  some : whole ≠ []
  zero : whole.head? = .some '0' → whole = ['0']

lemma Whole.toDigits_append {n : Nat} (positive : 0 < n) {more : List Char}
    (digits : ∀ c ∈ more, c.isDigit = true) : Whole (Nat.toDigits 10 n ++ more) where
  digits := by
    intro c h
    rcases List.mem_append.1 h with h | h
    · exact Nat.isDigit_of_mem_toDigits (by decide) (by decide) h
    · exact digits c h
  some := by simp
  zero := by
    intro h
    rw [List.head?_append_of_ne_nil _ Nat.toDigits_ne_nil] at h
    exact absurd h (head?_toDigits_ne_zero positive)

lemma whole_zero : Whole ['0'] := ⟨by simp, by simp, fun _ => rfl⟩

lemma Whole.toDigits (n : Nat) : Whole (Nat.toDigits 10 n) := by
  rcases Nat.eq_zero_or_pos n with rfl | positive
  · exact whole_zero
  · have none : ∀ c ∈ ([] : List Char), c.isDigit = true := by simp
    simpa using Whole.toDigits_append positive none

lemma Whole.take_toDigits (n : Nat) {count : Nat} (positive : 0 < count) :
    Whole ((Nat.toDigits 10 n).take count) where
  digits := by
    intro c h
    exact (Whole.toDigits n).digits c (List.mem_of_mem_take h)
  some := by simp [positive.ne']
  zero := by
    intro h
    rw [List.head?_take, if_neg positive.ne'] at h
    rw [(Whole.toDigits n).zero h, List.take_of_length_le (Nat.succ_le_of_lt positive)]

lemma Whole.wholePart {whole rest : List Char} (h : Whole whole) (stops : Stops rest) :
    Reader.wholePart (whole ++ rest) = .some (digitValues whole, rest) := by
  obtain ⟨c, cs, rfl⟩ := List.exists_cons_of_ne_nil h.some
  by_cases zero : c = '0'
  · subst zero
    obtain rfl : cs = [] := by simpa using h.zero rfl
    have stop : rest.head?.any Char.isDigit = false := by
      cases rest with
      | nil => rfl
      | cons c rest => simp [stops c rfl]
    rw [List.singleton_append, Reader.wholePart_zero, if_neg (by simp [stop])]
    rfl
  · rw [List.cons_append, Reader.wholePart_of_ne zero, ← List.cons_append]
    exact someDigits_all h.digits h.some stops

/-- The point and the digits after it, if there are any. -/
def pointed (fraction : List Char) : List Char :=
  if fraction = [] then [] else '.' :: fraction

/-- What can follow the digits of a token: nothing, or a power of ten. -/
structure Tail (tail : List Char) (exponent : Option Int) : Prop where
  reads : Reader.exponentPart tail = some (exponent, [])
  /-- It does not start as the digits go on. -/
  apart : ∀ c ∈ tail.head?, c.isDigit = false ∧ c ≠ '.'

lemma tail_nil : Tail [] none := ⟨rfl, by simp⟩

lemma tail_exponent (negative : Bool) (n : Nat) :
    Tail ('e' :: (if negative then '-' else '+') :: Nat.toDigits 10 n)
      (some (if negative then -(n : Int) else n)) := by
  have digits : Reader.digits (Nat.toDigits 10 n) = (digitValues (Nat.toDigits 10 n), []) := by
    have ends : Stops [] := by simp [Stops]
    simpa using digits_all (Whole.toDigits n).digits ends
  have read : Reader.exponentDigits negative (Nat.toDigits 10 n) =
      some (some (if negative then -(n : Int) else n), []) := by
    have total := amount_digitValues (Nat.toDigits 10 n)
    rw [Nat.ofDigitChars_ten_toDigits] at total
    obtain ⟨d, ds, cons⟩ := List.exists_cons_of_ne_nil (Nat.toDigits_ne_nil (b := 10) (n := n))
    rw [cons] at digits total
    rw [Reader.exponentDigits, cons, digits]
    simp only [digitValues, List.map_cons, amount] at total ⊢
    rw [total]
  refine ⟨?_, by simp⟩
  rw [Reader.exponentPart_cons, if_pos (.inl rfl)]
  cases negative
  · exact read
  · exact read

lemma unsigned_parts (negative : Bool) {whole fraction tail : List Char} {exponent : Option Int}
    (h : Whole whole) (digits : ∀ c ∈ fraction, c.isDigit = true) (last : Tail tail exponent) :
    Reader.unsigned negative (whole ++ (pointed fraction ++ tail)) =
      some (⟨negative, digitValues whole, digitValues fraction, exponent⟩, []) := by
  have stops : Stops tail := fun c mem => (last.apart c mem).1
  have point : Stops (pointed fraction ++ tail) := by
    unfold pointed
    split_ifs
    · exact stops
    · rintro c ⟨⟩
      rfl
  have after : Reader.fractionPart (pointed fraction ++ tail) =
      some (digitValues fraction, tail) := by
    unfold pointed
    split_ifs with none
    · subst none
      cases tail with
      | nil => rfl
      | cons c tail => exact Reader.fractionPart_of_ne (last.apart c rfl).2 tail
    · exact someDigits_all digits none stops
  simp only [Reader.unsigned, h.wholePart point, after, last.reads]

/-! ## The texts -/

/-- The text is that of an unsigned token which denotes a number. -/
structure Denotes (text : List Char) (q : ℚ) : Prop where
  reads : ∀ negative, ∃ token, Reader.unsigned negative text = some (token, []) ∧
    token.value = (if negative then -1 else 1) * q
  unsigned : ∃ c cs, text = c :: cs ∧ c ≠ '-'

lemma denotes_parts {whole fraction tail : List Char} {exponent : Option Int} {q : ℚ}
    (h : Whole whole) (digits : ∀ c ∈ fraction, c.isDigit = true) (last : Tail tail exponent)
    (total : (Nat.ofDigitChars 10 (whole ++ fraction) 0 : ℚ) *
      10 ^ (exponent.getD 0 - fraction.length) = q) :
    Denotes (whole ++ (pointed fraction ++ tail)) q := by
  refine ⟨fun negative => ⟨_, unsigned_parts negative h digits last, ?_⟩, ?_⟩
  · rw [Numeral.value, ← digitValues_append, amount_digitValues, length_digitValues, mul_assoc, total]
  · obtain ⟨c, cs, rfl⟩ := List.exists_cons_of_ne_nil h.some
    refine ⟨c, _, rfl, ?_⟩
    rintro rfl
    exact absurd (h.digits '-' List.mem_cons_self) (by decide)

variable {c : Nat} {k : Int}

lemma denotes_whole (h : 0 < c ∨ k ≤ 0) (positive : 0 ≤ k) :
    Denotes (Nat.toDigits 10 c ++ List.replicate k.toNat '0' ++ ['.', '0']) (c * 10 ^ k) := by
  obtain ⟨zeros, rfl⟩ := Int.eq_ofNat_of_zero_le positive
  have whole : Whole (Nat.toDigits 10 c ++ List.replicate zeros '0') := by
    rcases h with h | h
    · exact .toDigits_append h fun c => isDigit_of_mem_replicate_zero
    · obtain rfl : zeros = 0 := by omega
      simpa using Whole.toDigits c
  have digits : Nat.ofDigitChars 10 (Nat.toDigits 10 c ++ List.replicate zeros '0' ++ ['0']) 0 =
      10 * (10 ^ zeros * c) := by
    rw [Nat.ofDigitChars_append, Nat.ofDigitChars_append, Nat.ofDigitChars_ten_toDigits,
      Nat.ofDigitChars_replicate_zero]
    simp [Nat.ofDigitChars]
  have zero : ∀ c ∈ ['0'], c.isDigit = true := by simp
  refine denotes_parts whole zero tail_nil ?_
  rw [digits]
  simp
  ring

lemma denotes_inner (negative : k < 0) (point : 0 < (Nat.toDigits 10 c).length + k) :
    Denotes ((Nat.toDigits 10 c).take ((Nat.toDigits 10 c).length + k).toNat ++
      '.' :: (Nat.toDigits 10 c).drop ((Nat.toDigits 10 c).length + k).toNat) (c * 10 ^ k) := by
  generalize he : ((Nat.toDigits 10 c).length + k).toNat = count
  have whole : Whole ((Nat.toDigits 10 c).take count) := .take_toDigits c (by omega)
  have fraction : ∀ d ∈ (Nat.toDigits 10 c).drop count, d.isDigit = true :=
    fun d mem => (Whole.toDigits c).digits d (List.mem_of_mem_drop mem)
  have some : (Nat.toDigits 10 c).drop count ≠ [] := by
    rw [Ne, List.drop_eq_nil_iff]
    omega
  have text := denotes_parts (q := c * 10 ^ k) whole fraction tail_nil ?_
  · rwa [pointed, if_neg some, List.append_nil] at text
  · rw [List.take_append_drop, Nat.ofDigitChars_ten_toDigits, List.length_drop]
    congr 2
    simp only [Option.getD_none]
    omega

lemma denotes_fraction (point : (Nat.toDigits 10 c).length + k ≤ 0) :
    Denotes ('0' :: '.' :: (List.replicate (-((Nat.toDigits 10 c).length + k)).toNat '0' ++
      Nat.toDigits 10 c)) (c * 10 ^ k) := by
  generalize he : (-((Nat.toDigits 10 c).length + k)).toNat = zeros
  have digits : ∀ d ∈ List.replicate zeros '0' ++ Nat.toDigits 10 c, d.isDigit = true := by
    intro d mem
    rcases List.mem_append.1 mem with mem | mem
    · exact isDigit_of_mem_replicate_zero mem
    · exact (Whole.toDigits c).digits d mem
  have text := denotes_parts (q := c * 10 ^ k) whole_zero digits tail_nil ?_
  · simpa [pointed] using text
  · rw [List.singleton_append, Nat.ofDigitChars_cons, Nat.ofDigitChars_append,
      Nat.ofDigitChars_replicate_zero]
    simp only [List.length_append, List.length_replicate, Option.getD_none]
    rw [show 10 ^ zeros * (10 * 0 + ('0'.toNat - '0'.toNat)) = 0 by simp,
      Nat.ofDigitChars_ten_toDigits]
    congr 2
    omega

/-- A number with one digit before the point, if there are more, and a power of ten. -/
lemma denotes_exponent : Denotes
    ((Nat.toDigits 10 c).take 1 ++ (pointed ((Nat.toDigits 10 c).drop 1) ++
      ('e' :: (if (Nat.toDigits 10 c).length + k - 1 < 0 then '-' else '+') ::
        Nat.toDigits 10 ((Nat.toDigits 10 c).length + k - 1).natAbs))) (c * 10 ^ k) := by
  generalize he : ((Nat.toDigits 10 c).length + k - 1 : Int) = e
  have tail := tail_exponent (e < 0) e.natAbs
  simp only [decide_eq_true_eq] at tail
  refine denotes_parts (Whole.take_toDigits c Nat.one_pos)
    (fun d mem => (Whole.toDigits c).digits d (List.mem_of_mem_drop mem)) tail ?_
  have length : 0 < (Nat.toDigits 10 c).length := Nat.length_toDigits_pos
  rw [List.take_append_drop, Nat.ofDigitChars_ten_toDigits, List.length_drop]
  congr 2
  simp only [Option.getD_some]
  split_ifs <;> omega

lemma toList_fraction {ds : List Char} (some : ds ≠ []) :
    (if ds.length = 1 then "" else "." ++ String.ofList (ds.drop 1)).toList =
      pointed (ds.drop 1) := by
  obtain ⟨d, ds, rfl⟩ := List.exists_cons_of_ne_nil some
  cases ds <;> simp [pointed]

/-- Whatever the layout, the text of a decimal denotes it. -/
theorem denotes_text (l : Binary64.Layout) (h : 0 < c ∨ k ≤ 0) :
    Denotes (l.text c k).toList (c * 10 ^ k) := by
  dsimp only [Binary64.Layout.text]
  split
  · split_ifs with whole inner
    · simpa using denotes_whole h whole
    · simpa using denotes_inner (not_le.1 whole) inner
    · simpa using denotes_fraction (not_lt.1 inner)
  · have text := denotes_exponent (c := c) (k := k)
    rw [← toList_fraction Nat.toDigits_ne_nil] at text
    convert text using 1
    simp only [String.toList_append, String.toList_ofList]
    split_ifs <;> simp

end Json

/-! ## Doubles -/

namespace Binary64

lemma pos_of_contains {r : RoundingInterval} (low : 0 < r.low) {c : Nat} (h : r.contains c = true) :
    0 < c := by
  rcases Nat.eq_zero_or_pos c with rfl | positive
  · have : 0 < r.low := low
    simp [RoundingInterval.contains] at h
    omega
  · exact positive

lemma pos_of_nearest? {r : RoundingInterval} (low : 0 < r.low) {c : Nat}
    (h : r.nearest? = some c) : 0 < c := by
  have pos {c : Nat} := pos_of_contains low (c := c)
  unfold RoundingInterval.nearest? at h
  dsimp only at h
  split at h
  · rename_i here next
    have := pos here
    split_ifs at h <;> cases h <;> omega
  · rename_i here next
    cases h
    exact pos here
  · cases h
    exact Nat.succ_pos _
  · cases h

/-- The search ends with a number that is in the interval, or after its last step. -/
lemma coarsest_spec {r : RoundingInterval} (low : 0 < r.low) (steps : Nat) (k : Int) :
    0 < (coarsest r steps k).1 ∨ coarsest r steps k = (r.value / r.denominator, k - steps) := by
  induction steps generalizing k with
  | zero => exact .inr (by simp [coarsest])
  | succ steps ih =>
    have scaled : 0 < (r.overTen k).low := Nat.mul_pos low (Nat.pow_pos (by decide))
    unfold coarsest
    split
    · rename_i c found
      exact .inl (pos_of_nearest? scaled found)
    · rcases ih (k - 1) with positive | last
      · exact .inl positive
      · refine .inr (last.trans ?_)
        congr 1
        omega

lemma low_pos {x : Binary64} (positive : x.significand ≠ 0) : 0 < x.interval.low := by
  refine Nat.mul_pos ?_ (Nat.pow_pos (by decide))
  split_ifs <;> omega

/-- A magnitude below one has a logarithm that is not positive. -/
lemma magnitude_nonpos {x : Binary64} (positive : x.significand ≠ 0)
    (below : x.interval.value / x.interval.denominator = 0) :
    (Nat.log2 x.significand + 1 : Nat) + (x.scale : Int) - 1074 ≤ 0 := by
  have less : 4 * x.significand * 2 ^ (x.scale - 1076) < 2 ^ (1076 - x.scale) := by
    rcases Nat.div_eq_zero_iff.1 below with zero | less
    · exact absurd zero (Nat.pow_pos (by decide)).ne'
    · exact less
  have bits : 2 ^ (Nat.log2 x.significand + 2) < 2 ^ (1076 - x.scale) := by
    refine lt_of_le_of_lt ?_ less
    have log : 2 ^ Nat.log2 x.significand ≤ x.significand := Nat.log2_self_le positive
    have unit : 1 ≤ 2 ^ (x.scale - 1076) := Nat.one_le_two_pow
    calc 2 ^ (Nat.log2 x.significand + 2) = 4 * 2 ^ Nat.log2 x.significand := by ring
      _ ≤ 4 * x.significand := Nat.mul_le_mul_left 4 log
      _ ≤ 4 * x.significand * 2 ^ (x.scale - 1076) := Nat.le_mul_of_pos_right _ unit
  have exponents := (Nat.pow_lt_pow_iff_right (by decide)).1 bits
  omega

lemma shortest_spec {x : Binary64} (positive : x.significand ≠ 0) :
    0 < x.shortest.1 ∨ x.shortest.2 ≤ 0 := by
  rw [or_iff_not_imp_left]
  intro zero
  unfold shortest at zero ⊢
  rcases coarsest_spec (low_pos positive) 24 _ with found | last
  · exact absurd found zero
  · dsimp only at zero ⊢
    rw [last] at zero ⊢
    have magnitude := magnitude_nonpos positive (Nat.eq_zero_of_not_pos zero)
    dsimp only
    omega

end Binary64

/-! ## Numbers -/

namespace Json

lemma denotes_zero : Denotes "0.0".toList 0 := by
  simpa using denotes_whole (c := 0) (k := 0) (.inr le_rfl) le_rfl

lemma Denotes.signed {text : List Char} {q : ℚ} (h : Denotes text q) (negative : Bool) :
    ∃ token, Reader.numeral ((if negative then ['-'] else []) ++ text) = some (token, []) ∧
      token.value = (if negative then -1 else 1) * q := by
  obtain ⟨c, cs, rfl, unsigned⟩ := h.unsigned
  cases negative with
  | false =>
    obtain ⟨token, reads, value⟩ := h.reads false
    exact ⟨token, (Reader.numeral_of_ne unsigned cs).trans reads, value⟩
  | true => exact h.reads true

lemma denotes_nat (n : Nat) : Denotes (Nat.toDigits 10 n) n := by
  have none : ∀ c ∈ ([] : List Char), c.isDigit = true := by simp
  have text := denotes_parts (q := n) (Whole.toDigits n) none tail_nil (by simp)
  simpa [pointed] using text

end Json

namespace Number

open Json

lemma toList_text_int (z : Int) : (Number.int z).text.toList =
    (if decide (z < 0) then ['-'] else []) ++ Nat.toDigits 10 z.natAbs := by
  rw [text, Int.toString_eq_repr, Int.repr_eq_if]
  rcases lt_or_ge z 0 with negative | nonneg
  · have amount : (-z).toNat = z.natAbs := by omega
    simp [negative, not_le.2 negative, amount]
  · have amount : z.toNat = z.natAbs := by omega
    simp [nonneg, not_lt.2 nonneg, amount]

lemma exists_numeral_int (z : Int) : ∃ token,
    Reader.numeral (Number.int z).text.toList = some (token, []) ∧ token.value = z := by
  obtain ⟨token, reads, value⟩ := (denotes_nat z.natAbs).signed (z < 0)
  refine ⟨token, toList_text_int z ▸ reads, value.trans ?_⟩
  rw [Nat.cast_natAbs]
  rcases lt_or_ge z 0 with negative | nonneg
  · simp [negative, abs_of_neg negative]
  · simp [not_lt.2 nonneg, abs_of_nonneg nonneg]

lemma toList_text_double (x : Binary64) : (Number.double x).text.toList =
    (if x.negative then ['-'] else []) ++
      (if x.significand = 0 then "0.0"
        else Binary64.documentLayout.text x.shortest.1 x.shortest.2).toList := by
  simp only [text, Binary64.text]
  split_ifs <;> simp

lemma exists_numeral_double (x : Binary64) : ∃ token,
    Reader.numeral (Number.double x).text.toList = some (token, []) ∧ token.value = x.decimal := by
  rw [toList_text_double, Binary64.decimal]
  by_cases zero : x.significand = 0
  · obtain ⟨token, reads, value⟩ := denotes_zero.signed x.negative
    rw [if_pos zero, if_pos zero]
    exact ⟨token, reads, value.trans (mul_zero _)⟩
  · rw [if_neg zero, if_neg zero]
    exact (denotes_text Binary64.documentLayout (Binary64.shortest_spec zero)).signed x.negative

/-- The text of a number is one token, which denotes the number or its decimal. -/
theorem exists_numeral_text (n : Number) : ∃ token,
    Reader.numeral n.text.toList = some (token, []) ∧ token.value = n.denoted := by
  cases n with
  | int z => exact exists_numeral_int z
  | double x => exact exists_numeral_double x

/-- The text of a number starts with a minus or a digit. -/
lemma exists_text_eq (n : Number) :
    ∃ c cs, n.text.toList = c :: cs ∧ (c = '-' ∨ c.isDigit) := by
  obtain ⟨token, reads, -⟩ := n.exists_numeral_text
  exact Reader.exists_of_numeral reads

end Number

end KanaSettings
