import KanaSettings.Json.Reader
import KanaSettings.Proofs.Json.Spelling

/-!
# Reading tokens back

A quoted text reads as the text it was written for.  A number reads as itself if nothing follows it;
then it does so too if what follows could not belong to a number.
-/

namespace KanaSettings.Json.Reader

/-! ## Blanks -/

lemma skipBlanks_append {gap : List Char} (h : ∀ c ∈ gap, isBlank c = true) (cs : List Char) :
    skipBlanks (gap ++ cs) = skipBlanks cs := List.dropWhile_append_of_pos h

@[simp] lemma skipBlanks_nil : skipBlanks [] = [] := rfl

lemma skipBlanks_cons {c : Char} (h : isBlank c = false) (cs : List Char) :
    skipBlanks (c :: cs) = c :: cs := List.dropWhile_cons_of_neg (by simp [h])

lemma isBlank_of_mem_lineBreak {layout : Layout} {c : Char} (h : c ∈ layout.lineBreak) :
    isBlank c = true := by
  cases layout with
  | compact => cases h
  | indented level =>
    rcases List.mem_cons.1 h with rfl | h
    · rfl
    · rw [List.eq_of_mem_replicate h]
      rfl

/-! ## Texts -/

lemma hexValue?_hexDigit (n : Nat) : hexValue? (hexDigit n) = some (n % 16) := by
  have all : ∀ digit : Fin 16, hexValue? (Nat.digitChar digit) = some digit.val := by decide
  exact all ⟨n % 16, Nat.mod_lt _ (by decide)⟩

lemma unit?_control {n : Nat} (h : n < 0x20) :
    unit? '0' '0' (hexDigit (n / 16)) (hexDigit n) = some n := by
  have zero : hexValue? '0' = some 0 := rfl
  simp only [unit?, zero, hexValue?_hexDigit, Option.bind_eq_bind, Option.bind_some,
    Option.pure_def, Option.some.injEq]
  omega

lemma quoted_shortEscape {c letter : Char} (h : shortEscape? letter = some c) (out : String)
    (rest : List Char) : quoted out ('\\' :: letter :: rest) = quoted (out.push c) rest := by
  have short : letter ≠ 'u' := by
    rintro rfl
    cases h
  rw [quoted]
  · simp only [h]
  · exact fun _ _ _ _ _ long _ => short long

/-- A character reads as itself however it is written. -/
lemma quoted_escape (c : Char) (out : String) (rest : List Char) :
    quoted out (escape c ++ rest) = quoted (out.push c) rest := by
  unfold escape
  split_ifs with quote backslash control b t n f r
  · exact quoted_shortEscape (by rw [quote]; rfl) out rest
  · exact quoted_shortEscape (by rw [backslash]; rfl) out rest
  · exact quoted_shortEscape (by rw [b]; rfl) out rest
  · exact quoted_shortEscape (by rw [t]; rfl) out rest
  · exact quoted_shortEscape (by rw [n]; rfl) out rest
  · exact quoted_shortEscape (by rw [f]; rfl) out rest
  · exact quoted_shortEscape (by rw [r]; rfl) out rest
  · -- A control character is far below the halves of surrogate pairs.
    have high : isHighSurrogate c.toNat = false := by
      rw [isHighSurrogate, decide_eq_false (by omega), Bool.false_and]
    have low : isLowSurrogate c.toNat = false := by
      rw [isLowSurrogate, decide_eq_false (by omega), Bool.false_and]
    simp [quoted, unit?_control control, high, low]
  · simp [quoted, backslash, control]

lemma quoted_flatMap_escape (cs : List Char) (out : String) (rest : List Char) :
    quoted out (cs.flatMap escape ++ '"' :: rest) = some (pushAll out cs, rest) := by
  induction cs generalizing out with
  | nil => simp [quoted, pushAll]
  | cons c cs ih => rw [List.flatMap_cons, List.append_assoc, quoted_escape, ih]; rfl

/-- A text reads as itself, after its opening quote. -/
theorem quoted_text (text : String) (rest : List Char) :
    quoted "" (text.toList.flatMap escape ++ '"' :: rest) = some (text, rest) := by
  rw [quoted_flatMap_escape]
  simp only [Option.some.injEq, Prod.mk.injEq, and_true]
  exact String.toList_injective (by simp)

lemma skipBlanks_spellText (text : String) (cs : List Char) :
    skipBlanks (spellText text ++ cs) = spellText text ++ cs := skipBlanks_cons rfl _

lemma string_spellText (text : String) (rest : List Char) :
    string (spellText text ++ rest) = some (text, rest) := by
  simpa [spellText, string] using quoted_text text rest

/-! ## Numbers -/

/-- The character could go on with a number. -/
def goesOn (c : Char) : Bool := c.isDigit || c = '.' || c = 'e' || c = 'E'

/-- What follows a value does not go on with it. -/
def Ends (rest : List Char) : Prop := ∀ c ∈ rest.head?, goesOn c = false

lemma Ends.isDigit_eq_false {rest : List Char} (ends : Ends rest) {c : Char} (h : c ∈ rest.head?) :
    c.isDigit = false := by
  have := ends c h
  simp only [goesOn, Bool.or_eq_false_iff] at this
  exact this.1.1.1

/-- A reader that sees the end of what it reads wherever it ends. -/
def Local {α : Type} (read : Reader α) : Prop :=
  ∀ cs a left, read cs = some (a, left) → ∀ rest, Ends rest →
    read (cs ++ rest) = some (a, left ++ rest)

variable {rest : List Char}

lemma digits_append (ends : Ends rest) (cs : List Char) :
    digits (cs ++ rest) = ((digits cs).1, (digits cs).2 ++ rest) := by
  have stop : rest.takeWhile Char.isDigit = [] ∧ rest.dropWhile Char.isDigit = rest := by
    cases rest with
    | nil => simp
    | cons c rest =>
      simp [ends.isDigit_eq_false rfl]
  induction cs with
  | nil => simp [digits, List.span_eq_takeWhile_dropWhile, stop]
  | cons c cs ih =>
    simp only [digits, List.span_eq_takeWhile_dropWhile] at ih ⊢
    by_cases h : c.isDigit
    · simp_all
    · simp [h]

/-- One or more digits. -/
def someDigits : Reader (List Nat) := fun cs =>
  match digits cs with
  | ([], _) => none
  | (ds, rest) => some (ds, rest)

lemma local_someDigits : Local someDigits := by
  intro cs ds left h rest ends
  simp only [someDigits, digits_append ends] at h ⊢
  split at h
  · cases h
  · rename_i found
    simp only [Option.some.injEq, Prod.mk.injEq] at h
    obtain ⟨rfl, rfl⟩ := h
    simp [found]

lemma wholePart_of_ne {c : Char} (h : c ≠ '0') (cs : List Char) :
    wholePart (c :: cs) = someDigits (c :: cs) := by
  unfold wholePart
  split
  · rename_i same
    exact absurd (List.cons.inj same).1 h
  · rfl

lemma wholePart_zero (cs : List Char) :
    wholePart ('0' :: cs) = if cs.head?.any Char.isDigit then none else some ([0], cs) := by
  cases cs <;> rfl

lemma local_wholePart : Local wholePart := by
  intro cs ds left h rest ends
  rcases cs with _ | ⟨c, cs⟩
  · simp [wholePart, digits] at h
  · by_cases zero : c = '0'
    · subst zero
      rw [wholePart_zero] at h
      split at h
      · cases h
      · rename_i alone
        simp only [Option.some.injEq, Prod.mk.injEq] at h
        obtain ⟨rfl, rfl⟩ := h
        rw [List.cons_append, wholePart_zero]
        rcases cs with _ | ⟨d, cs⟩
        · rcases rest with _ | ⟨d, rest⟩
          · rfl
          · simp [ends.isDigit_eq_false rfl]
        · have alone : d.isDigit = false := by simpa using alone
          simp [alone]
    · rw [wholePart_of_ne zero] at h
      rw [List.cons_append, wholePart_of_ne zero]
      exact local_someDigits _ _ _ h rest ends

lemma fractionPart_of_ne {c : Char} (h : c ≠ '.') (cs : List Char) :
    fractionPart (c :: cs) = some ([], c :: cs) := by
  unfold fractionPart
  split
  · rename_i same
    exact absurd (List.cons.inj same).1 h
  · rfl

lemma local_fractionPart : Local fractionPart := by
  intro cs ds left h rest ends
  rcases cs with _ | ⟨c, cs⟩
  · cases h
    rcases rest with _ | ⟨c, rest⟩
    · rfl
    · refine fractionPart_of_ne ?_ rest
      rintro rfl
      cases ends '.' rfl
  · by_cases point : c = '.'
    · subst point
      exact local_someDigits cs ds left h rest ends
    · rw [fractionPart_of_ne point] at h
      cases h
      exact fractionPart_of_ne point _

/-- The digits of a power of ten, with its sign or without one. -/
def signedExponent : Reader (Option Int)
  | '+' :: cs => exponentDigits false cs
  | '-' :: cs => exponentDigits true cs
  | cs => exponentDigits false cs

lemma signedExponent_of_ne {c : Char} (plus : c ≠ '+') (minus : c ≠ '-') (cs : List Char) :
    signedExponent (c :: cs) = exponentDigits false (c :: cs) := by
  unfold signedExponent
  split
  · rename_i same
    exact absurd (List.cons.inj same).1 plus
  · rename_i same
    exact absurd (List.cons.inj same).1 minus
  · rfl

lemma local_exponentDigits (negative : Bool) : Local (exponentDigits negative) := by
  intro cs e left h rest ends
  simp only [exponentDigits, digits_append ends] at h ⊢
  split at h
  · cases h
  · rename_i found
    cases h
    simp [found]

lemma local_signedExponent : Local signedExponent := by
  intro cs e left h rest ends
  rcases cs with _ | ⟨c, cs⟩
  · simp [signedExponent, exponentDigits, digits] at h
  · by_cases plus : c = '+'
    · subst plus
      exact local_exponentDigits false cs e left h rest ends
    · by_cases minus : c = '-'
      · subst minus
        exact local_exponentDigits true cs e left h rest ends
      · rw [signedExponent_of_ne plus minus] at h
        rw [List.cons_append, signedExponent_of_ne plus minus]
        exact local_exponentDigits false _ e left h rest ends

lemma exponentPart_cons (c : Char) (cs : List Char) :
    exponentPart (c :: cs) =
      if c = 'e' ∨ c = 'E' then signedExponent cs else some (none, c :: cs) := rfl

lemma local_exponentPart : Local exponentPart := by
  intro cs e left h rest ends
  rcases cs with _ | ⟨c, cs⟩
  · cases h
    rcases rest with _ | ⟨c, rest⟩
    · rfl
    · have stop := ends c rfl
      simp only [goesOn, Bool.or_eq_false_iff, decide_eq_false_iff_not] at stop
      simp [exponentPart_cons, stop]
  · rw [exponentPart_cons] at h
    rw [List.cons_append, exponentPart_cons]
    split at h
    · rename_i letter
      rw [if_pos letter]
      exact local_signedExponent cs e left h rest ends
    · rename_i letter
      rw [if_neg letter]
      cases h
      rfl

/-- A number token without its sign. -/
def unsigned (negative : Bool) : Reader Numeral := fun cs =>
  match wholePart cs with
  | none => none
  | some (whole, cs) =>
    match fractionPart cs with
    | none => none
    | some (fraction, cs) =>
      match exponentPart cs with
      | none => none
      | some (exponent, cs) => some (⟨negative, whole, fraction, exponent⟩, cs)

lemma local_unsigned (negative : Bool) : Local (unsigned negative) := by
  intro cs n left h rest ends
  unfold unsigned at h ⊢
  split at h
  · cases h
  · rename_i whole cs hwhole
    rw [local_wholePart _ _ _ hwhole rest ends]
    dsimp only
    split at h
    · cases h
    · rename_i fraction cs hfraction
      rw [local_fractionPart _ _ _ hfraction rest ends]
      dsimp only
      split at h
      · cases h
      · rename_i exponent cs hexponent
        rw [local_exponentPart _ _ _ hexponent rest ends]
        cases h
        rfl

lemma numeral_of_ne {c : Char} (h : c ≠ '-') (cs : List Char) :
    numeral (c :: cs) = unsigned false (c :: cs) := by
  unfold numeral
  split
  rename_i sign
  split at sign
  · rename_i same
    exact absurd (List.cons.inj same).1 h
  · cases sign
    rfl

lemma local_numeral : Local numeral := by
  intro cs n left h rest ends
  rcases cs with _ | ⟨c, cs⟩
  · cases h
  · by_cases minus : c = '-'
    · subst minus
      exact local_unsigned true cs n left h rest ends
    · rw [numeral_of_ne minus] at h
      rw [List.cons_append, numeral_of_ne minus]
      exact local_unsigned false _ n left h rest ends

/-- A number does not depend on what follows it. -/
theorem local_number : Local number := by
  intro cs n left h rest ends
  unfold number at h ⊢
  split at h
  · cases h
  · rename_i numeral left' found
    rw [local_numeral _ _ _ found rest ends]
    cases value : numeral.number? with
    | none => simp [value] at h
    | some number =>
      simp only [value, Option.map_some, Option.some.injEq, Prod.mk.injEq] at h ⊢
      obtain ⟨rfl, rfl⟩ := h
      simp

lemma isDigit_of_wholePart {c : Char} {cs left : List Char} {ds : List Nat}
    (h : wholePart (c :: cs) = some (ds, left)) : c.isDigit := by
  by_cases zero : c = '0'
  · subst zero
    rfl
  · by_contra digit
    rw [wholePart_of_ne zero] at h
    simp [someDigits, digits, digit] at h

/-- A number token starts with a minus or a digit. -/
lemma exists_of_numeral {cs left : List Char} {token : Numeral}
    (h : numeral cs = some (token, left)) :
    ∃ c rest, cs = c :: rest ∧ (c = '-' ∨ c.isDigit) := by
  rcases cs with _ | ⟨c, cs⟩
  · cases h
  · refine ⟨c, cs, rfl, or_iff_not_imp_left.2 fun minus => ?_⟩
    rw [numeral_of_ne minus] at h
    unfold unsigned at h
    cases whole : wholePart (c :: cs) with
    | none => simp [whole] at h
    | some found => exact isDigit_of_wholePart whole

end KanaSettings.Json.Reader
