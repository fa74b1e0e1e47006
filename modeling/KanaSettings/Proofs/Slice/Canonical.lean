import KanaSettings.Document
import KanaSettings.Proofs.Slice.Stable

/-!
# The canonical form

Whatever a document holds for a slice, or holds nothing, there is a canonical form of it: what the
value that is read is written as.  Reading and writing are apart from each other, with names of
their own, so it is not the definitions that make the form canonical.  It is that what is written
is read as what was written.
-/

namespace KanaSettings.Slice

variable {name : SliceName}

/-- The names of the texts of a row, in the order in which they are written. -/
def rowKeys : SliceName → List String
  | .romajiTable => ["input", "output", "next_input"]
  | .userDictionary => ["reading", "word"]
  | _ => []

/-- The shape that a slice has in canonical form. -/
inductive Shaped (name : SliceName) : Json → Prop
  /-- A record has its fields in their order, each with something that it can be, and no other
  members.  The symbols are in the order of their keys. -/
  | record {members : Members Json} (record : name.isSequence = false)
      (each : List.Forall₂ (fun field member => member.1 = field.key ∧
        ∃ content, member.2 = field.write content) (fields name) members)
      (ascending : name = .symbolWidth → members.keys.Pairwise (· < ·)) :
      Shaped name (.object members)
  /-- Each row of a sequence has its texts in their order, and no other members. -/
  | sequence {rows : List Json} (sequence : name.isSequence = true)
      (each : ∀ row ∈ rows, ∃ members : Members Json, row = .object members ∧
        members.keys = rowKeys name ∧ ∀ member ∈ members, ∃ text, member.2 = .string text) :
      Shaped name (.array rows)

/-! ## The shape of what is written -/

lemma shaped_encode_record (record : name.isSequence = false) {value : name.Value}
    (closed : Closed name value) : Shaped name (encode name value) := by
  rw [encode_eq record closed]
  refine .record record ?_ ?_
  · rw [List.forall₂_map_right_iff, List.forall₂_same]
    exact fun field _ => ⟨rfl, _, rfl⟩
  · rintro rfl
    have keys : Members.keys ((fields .symbolWidth).map fun field =>
        (field.key, field.write (field.get value))) = symbolKeys := by
      simp [Members.keys, fields, Field.flag, Function.comp_def]
    rw [keys]
    exact SymbolWidth.ascending_symbolKeys

lemma shaped_encode {value : name.Value} (closed : Closed name value) :
    Shaped name (encode name value) := by
  cases name with
  | shortcuts | general | zenzai | symbolWidth | widthGroups =>
    exact shaped_encode_record rfl closed
  | romajiTable =>
    refine .sequence rfl fun row mem => ?_
    obtain ⟨rule, -, rfl⟩ := List.mem_map.1 mem
    exact ⟨_, rfl, rfl, by simp⟩
  | userDictionary =>
    refine .sequence rfl fun row mem => ?_
    obtain ⟨entry, -, rfl⟩ := List.mem_map.1 mem
    exact ⟨_, rfl, rfl, by simp⟩

/-! ## Any stored value -/

/-- The canonical form of whatever a document holds is canonical: it is its own canonical form and
has the shape of its slice, it is read as the same value, and it is what that value is written as.
So the typed and the untyped look at a document agree. -/
theorem canonical_laws (name : SliceName) (raw : Option Json) :
    canonical name (some (canonical name raw)) = canonical name raw ∧
      Shaped name (canonical name raw) ∧
      normalize name (some (canonical name raw)) = normalize name raw ∧
      canonical name raw = encode name (normalize name raw) ∧
      ∀ document : Document, document.canonical name = encode name (document.read name) := by
  have closed := closed_normalize name raw
  have again : normalize name (some (canonical name raw)) = normalize name raw :=
    normalize_encode closed
  refine ⟨?_, shaped_encode closed, again, rfl, fun document => rfl⟩
  exact congrArg (encode name) again

end KanaSettings.Slice
