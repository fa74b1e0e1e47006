import KanaSettings.Proofs.Document.Aged
import KanaSettings.Proofs.Editor.Step
import KanaSettings.Proofs.Slice.Valid

/-!
# Documents that were edited

All that any number of editors can make of a document is to store values that were accepted, one
after another.  So in a document that was edited, whoever did it and whatever was lost on the way,
each slice is untouched or holds a value that was accepted, and all else is what it was.
-/

namespace KanaSettings.Document

/-- A document in which any number of values were stored, each of which a check has accepted. -/
inductive Edited (start : Document) : Document → Prop where
  | refl : Edited start start
  | write {document : Document} {name : SliceName} {candidate value : name.Value}
      (before : Edited start document) (accepted : Slice.prepare name candidate = .ok value) :
      Edited start (document.write name value)

lemma Edited.edit {start document : Document} {name : SliceName}
    {change : name.Value → Outcome name.Value} {value : name.Value} (before : Edited start document)
    (h : document.edit name change = .settled value) :
    Edited start (document.write name value) := by
  obtain ⟨candidate, -, accepted⟩ := edit_eq_settled h
  exact before.write accepted

/-- When a document that was edited ages, so does what is left of the first one. -/
lemma Edited.ages {wears : Prop} {first start document other : Document}
    (ages : AgesTo wears first start) (edited : Edited start document)
    (later : AgesTo wears document other) :
    ∃ later, AgesTo wears first later ∧ Edited later other := by
  obtain ⟨times, worn, rfl⟩ := later
  refine ⟨start.aged times, ages.trans ⟨times, worn, rfl⟩, ?_⟩
  induction edited with
  | refl => exact .refl
  | write before accepted ih =>
    rw [aged_write]
    exact ih.write accepted

/-- A slice of a document that was edited: it is what it was, missing or not, or it holds a value
that was accepted. -/
def Holds (name : SliceName) (start document : Document) : Prop :=
  document.slice? name = start.slice? name ∨
    ∃ candidate value, Slice.prepare name candidate = .ok value ∧
      document.slice? name = some (Slice.encode name value)

namespace Edited

variable {start document : Document}

lemma holds (h : Edited start document) (name : SliceName) : Holds name start document := by
  induction h with
  | refl => exact .inl rfl
  | @write document other candidate value before accepted ih =>
    by_cases same : name = other
    · subst same
      exact .inr ⟨candidate, value, accepted, slice?_write_self document name value⟩
    · -- What is stored for another slice is not seen here.
      rw [Holds, slice?_write_of_ne same]
      exact ih

lemma preserves (h : Edited start document) : Preserves start document := by
  induction h with
  | refl => exact .refl start
  | @write document other candidate value before accepted ih =>
    exact ih.trans (preserves_put document other _)

end Edited

/-! ## What is left of a document that has aged -/

/-- What editors leave of the slices of a document. -/
structure KeepsSlices (wears : Prop) (initial document : Document) : Prop where
  /-- Each slice is what it has become with age, or a value that was accepted. -/
  aged : ∃ first, AgesTo wears initial first ∧ ∀ name, Holds name first document
  /-- It has not become anything else if its numbers read back. -/
  same : ∀ name, (¬ wears ∨ ∀ raw, initial.slice? name = some raw → ∀ n ∈ raw.numbers, n.ReadsBack) →
    Holds name initial document
  /-- A slice that may be stored, or is missing, is one that may be stored ever after. -/
  valid : ∀ name, (∀ raw, initial.slice? name = some raw → Slice.Valid name raw) →
    ∀ raw, document.slice? name = some raw → Slice.Valid name raw

/-- What editors leave of all that belongs to no slice. -/
structure KeepsRest (wears : Prop) (initial document : Document) : Prop where
  aged : ∃ first, AgesTo wears initial first ∧ Preserves first document
  /-- A member is the same if its numbers read back. -/
  member : ∀ m ∈ initial.members, SliceName.foreign m.1 →
    (¬ wears ∨ ∀ n ∈ m.2.numbers, n.ReadsBack) → m ∈ document.members
  /-- So is one beside a slice. -/
  sibling : ∀ name : SliceName, name.path.2.isSome → ∀ inner : Members Json,
    initial.members.get? name.path.1 = some (.object inner) →
    ∃ inner' : Members Json, document.members.get? name.path.1 = some (.object inner') ∧
      ∀ m ∈ inner, SliceName.foreignIn name.path.1 m.1 →
        (¬ wears ∨ ∀ n ∈ m.2.numbers, n.ReadsBack) → m ∈ inner'
  same : (¬ wears ∨ ∀ n ∈ initial.toJson.numbers, n.ReadsBack) → Preserves initial document

section

variable {wears : Prop} {initial first document : Document}

lemma mapNumbers_reread_eq_self {v : Json} {times : Nat} (worn : times ≠ 0 → wears)
    (same : ¬ wears ∨ ∀ n ∈ v.numbers, n.ReadsBack) : v.mapNumbers Number.reread^[times] = v := by
  refine Json.mapNumbers_eq_self fun n mem => ?_
  rcases same with fresh | back
  · rw [not_not.1 fun more => fresh (worn more), Function.iterate_zero, id]
  · exact Function.iterate_fixed (back n mem).reread_eq times

lemma AgesTo.slice?_eq (h : AgesTo wears initial first) {name : SliceName}
    (same : ¬ wears ∨ ∀ raw, initial.slice? name = some raw → ∀ n ∈ raw.numbers, n.ReadsBack) :
    first.slice? name = initial.slice? name := by
  obtain ⟨times, worn, rfl⟩ := h
  rw [Document.aged, slice?_mapNumbers]
  cases found : initial.slice? name with
  | none => rfl
  | some raw =>
    rw [Option.map_some, mapNumbers_reread_eq_self worn (same.imp_right fun back => back raw found)]

lemma Edited.keepsSlices (ages : AgesTo wears initial first) (edited : Edited first document) :
    KeepsSlices wears initial document where
  aged := ⟨first, ages, edited.holds⟩
  same name back := by
    have holds := edited.holds name
    rwa [Holds, ages.slice?_eq back] at holds
  valid name valid raw found := by
    rcases edited.holds name with same | ⟨candidate, value, accepted, stored⟩
    · obtain ⟨times, -, rfl⟩ := ages
      exact valid_slice?_aged valid (same ▸ found)
    · rw [stored] at found
      cases found
      exact Slice.valid_encode_of_prepare accepted

lemma Edited.keepsRest (ages : AgesTo wears initial first) (edited : Edited first document) :
    KeepsRest wears initial document := by
  have preserves := edited.preserves
  refine ⟨⟨first, ages, preserves⟩, ?_, ?_, fun back => ages.eq_self back ▸ preserves⟩
  · rintro ⟨key, value⟩ mem foreign same
    obtain ⟨times, worn, rfl⟩ := ages
    have kept : (key, value) ∈ (initial.aged times).members := by
      rw [Document.aged, mapNumbers]
      refine List.mem_map.2 ⟨_, mem, ?_⟩
      rw [mapNumbers_reread_eq_self worn same]
    have found := preserves.members ▸ List.mem_filter.2 ⟨kept, foreign⟩
    exact (List.mem_filter.1 found).1
  · intro name nested inner found
    obtain ⟨times, worn, rfl⟩ := ages
    have held : (initial.aged times).members.get? name.path.1 =
        some (.object (inner.map fun m => (m.1, m.2.mapNumbers Number.reread^[times]))) := by
      rw [Document.aged, mapNumbers, Members.get?_map, found, Option.map_some, Json.mapNumbers]
    obtain ⟨inner', held', members, -⟩ := preserves.siblings name nested _ held
    refine ⟨inner', held', ?_⟩
    rintro ⟨key, value⟩ mem foreign same
    have kept : (key, value) ∈ inner.map fun m => (m.1, m.2.mapNumbers Number.reread^[times]) := by
      refine List.mem_map.2 ⟨_, mem, ?_⟩
      rw [mapNumbers_reread_eq_self worn same]
    exact (List.mem_filter.1 (members ▸ List.mem_filter.2 ⟨kept, foreign⟩)).1

end

end KanaSettings.Document
