import KanaSettings.Text.Blank
import Mathlib.Data.List.DropRight
import Mathlib.Tactic

/-!
# Trimmed texts

A field of a row is trimmed when it is kept, and what is kept is compared, so it matters that
trimming a second time changes nothing.
-/

namespace KanaSettings.Text

lemma trimChars_eq (cs : List Char) :
    trimChars cs = (cs.dropWhile isBlank).rdropWhile isBlank := rfl

/-- What is trimmed at its end does not get a blank at its start. -/
lemma dropWhile_trimChars (cs : List Char) : (trimChars cs).dropWhile isBlank = trimChars cs := by
  rw [trimChars_eq, List.dropWhile_eq_self_iff]
  intro some
  have start := List.dropWhile_get_zero_not isBlank cs
  have below := List.rdropWhile_prefix isBlank (l := cs.dropWhile isBlank)
  rw [below.getElem some]
  exact start (some.trans_le below.length_le)

@[simp] lemma trim_trim (s : String) : trim (trim s) = trim s := by
  have same : trimChars (trimChars s.toList) = trimChars s.toList := by
    rw [trimChars_eq (trimChars _), dropWhile_trimChars, trimChars_eq, List.rdropWhile_idempotent]
  rw [trim, toList_trim, same, trim]

end KanaSettings.Text
