import KanaSettings.Proofs.Json.Reading
import KanaSettings.Proofs.Json.RoundTrip

/-!
# Legible values

What makes a value read back is a property of its parts: an array is legible if its items are, and an
object if its members are and no two have the same name, each one level less deep.  Values that were
read are legible but for their numbers.
-/

namespace KanaSettings.Json

/-- A value that can be read as it is written by a reader that goes so deep: no object in it has a
name twice, its numbers read back, and it nests no deeper. -/
structure Legible (depth : Nat) (value : Json) : Prop where
  distinct : value.Distinct
  numbers : ∀ n ∈ value.numbers, n.ReadsBack
  nesting : value.nesting ≤ depth

variable {depth : Nat} {value : Json}

lemma Legible.mono (h : Legible depth value) {deeper : Nat} (le : depth ≤ deeper) :
    Legible deeper value :=
  ⟨h.distinct, h.numbers, h.nesting.trans le⟩

lemma legible_array {items : List Json} : Legible depth (.array items) ↔
    ∃ below, depth = below + 1 ∧ ∀ item ∈ items, Legible below item := by
  constructor
  · rintro ⟨distinct, numbers, nesting⟩
    obtain ⟨below, deep, within⟩ := nesting_array_le.1 nesting
    rw [Distinct] at distinct
    refine ⟨below, deep, fun item mem => ⟨distinct item mem, fun n h => ?_, within item mem⟩⟩
    exact numbers n (by simpa [Json.numbers] using ⟨item, mem, h⟩)
  · rintro ⟨below, deep, each⟩
    refine ⟨?_, ?_, nesting_array_le.2 ⟨below, deep, fun item mem => (each item mem).nesting⟩⟩
    · rw [Distinct]
      exact fun item mem => (each item mem).distinct
    · intro n h
      rw [Json.numbers] at h
      obtain ⟨item, mem, h⟩ := List.mem_flatMap.1 h
      exact (each item mem).numbers n h

lemma legible_object {members : Members Json} : Legible depth (.object members) ↔
    ∃ below, depth = below + 1 ∧ members.keys.Nodup ∧ ∀ m ∈ members, Legible below m.2 := by
  constructor
  · rintro ⟨distinct, numbers, nesting⟩
    obtain ⟨below, deep, within⟩ := nesting_object_le.1 nesting
    rw [Distinct] at distinct
    refine ⟨below, deep, distinct.1, fun m mem => ⟨distinct.2 m mem, fun n h => ?_, within m mem⟩⟩
    exact numbers n (by simpa [Json.numbers] using ⟨m.1, m.2, mem, h⟩)
  · rintro ⟨below, deep, nodup, each⟩
    refine ⟨?_, ?_, nesting_object_le.2 ⟨below, deep, fun m mem => (each m mem).nesting⟩⟩
    · rw [Distinct]
      exact ⟨nodup, fun m mem => (each m mem).distinct⟩
    · intro n h
      rw [Json.numbers] at h
      obtain ⟨m, mem, h⟩ := List.mem_flatMap.1 h
      exact (each m mem).numbers n h

lemma legible_bool (depth : Nat) (flag : Bool) : Legible depth (.bool flag) :=
  ⟨by rw [Distinct]; trivial, by simp [Json.numbers], by rw [nesting]; exact Nat.zero_le _⟩

lemma legible_string (depth : Nat) (text : String) : Legible depth (.string text) :=
  ⟨by rw [Distinct]; trivial, by simp [Json.numbers], by rw [nesting]; exact Nat.zero_le _⟩

lemma legible_put {members : Members Json} (nodup : members.keys.Nodup)
    (each : ∀ m ∈ members, Legible depth m.2) (name : String) (new : Legible depth value) :
    Legible (depth + 1) (.object (members.put name value)) := by
  refine legible_object.2 ⟨depth, rfl, Members.nodup_keys_put nodup name value, fun m mem => ?_⟩
  rcases Members.mem_put mem with rfl | mem
  · exact new
  · exact each m mem

lemma legible_of_parse? {text : String} (h : parse? text = some value)
    (back : ∀ n ∈ value.numbers, n.ReadsBack) : Legible maxDepth value := by
  obtain ⟨rest, reads⟩ := value_of_parse? h
  exact ⟨distinct_of_value reads, back, nesting_le_of_value reads⟩

end KanaSettings.Json
