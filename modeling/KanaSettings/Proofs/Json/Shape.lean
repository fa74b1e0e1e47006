import KanaSettings.Proofs.Json.Members
import KanaSettings.Proofs.Json.Spelling

/-!
# The shape of a value

How deep a value nests, which numbers stand in it, and whether its objects have no name twice.  These
decide whether a value that is written reads back.
-/

namespace KanaSettings.Json

/-! ## Definitions -/

/-- How many arrays and objects stand inside one another. -/
def nesting : Json → Nat
  | .null => 0
  | .bool _ => 0
  | .number _ => 0
  | .string _ => 0
  | .array items => (items.map fun item => nesting item).foldr max 0 + 1
  | .object members => (members.map fun member => nesting member.2).foldr max 0 + 1
termination_by value => sizeOf value
decreasing_by
  · exact sizeOf_item ‹_›
  · exact sizeOf_member ‹_›

/-- The numbers in a value. -/
def numbers : Json → List Number
  | .null => []
  | .bool _ => []
  | .number value => [value]
  | .string _ => []
  | .array items => items.flatMap fun item => numbers item
  | .object members => members.flatMap fun member => numbers member.2
termination_by value => sizeOf value
decreasing_by
  · exact sizeOf_item ‹_›
  · exact sizeOf_member ‹_›

/-- No object in a value has a name twice. -/
def Distinct : Json → Prop
  | .null => True
  | .bool _ => True
  | .number _ => True
  | .string _ => True
  | .array items => ∀ item ∈ items, Distinct item
  | .object members => (Members.keys members).Nodup ∧ ∀ member ∈ members, Distinct member.2
termination_by value => sizeOf value
decreasing_by
  · exact sizeOf_item ‹_›
  · exact sizeOf_member ‹_›

/-! ## Nesting -/

lemma foldr_max_le {α : Type} {f : α → Nat} {as : List α} {n : Nat} :
    (as.map f).foldr max 0 ≤ n ↔ ∀ a ∈ as, f a ≤ n := by
  induction as with
  | nil => simp
  | cons a as ih => simp [ih]

lemma nesting_array_le {items : List Json} {depth : Nat} :
    (array items).nesting ≤ depth ↔
      ∃ below, depth = below + 1 ∧ ∀ item ∈ items, item.nesting ≤ below := by
  rw [nesting]
  cases depth with
  | zero => simp
  | succ depth => simp [foldr_max_le]

lemma nesting_object_le {members : List (String × Json)} {depth : Nat} :
    (object members).nesting ≤ depth ↔
      ∃ below, depth = below + 1 ∧ ∀ member ∈ members, member.2.nesting ≤ below := by
  rw [nesting]
  cases depth with
  | zero => simp
  | succ depth => simp [foldr_max_le]

end KanaSettings.Json
