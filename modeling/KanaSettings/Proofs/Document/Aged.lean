import KanaSettings.Editor.Call
import KanaSettings.Proofs.Document.Outline

/-!
# Documents that were written and read

Each time a document is written and read again, its numbers may come back as others.  Nothing else
changes, and no slice sees it.
-/

namespace KanaSettings

namespace Document

variable {document : Document}

/-- A document after it was written and read again so many times. -/
def aged (document : Document) (times : Nat) : Document := document.mapNumbers Number.reread^[times]

@[simp] lemma aged_zero (document : Document) : document.aged 0 = document :=
  mapNumbers_eq_self fun _ _ => rfl

@[simp] lemma aged_aged (document : Document) (m n : Nat) :
    (document.aged m).aged n = document.aged (m + n) := by
  rw [aged, aged, mapNumbers_mapNumbers, ← Function.iterate_add, Nat.add_comm, aged]

lemma aged_eq_self (back : ∀ n ∈ document.toJson.numbers, n.ReadsBack) (times : Nat) :
    document.aged times = document :=
  mapNumbers_eq_self fun n mem => Function.iterate_fixed (back n mem).reread_eq times

lemma toJson_aged_one (document : Document) : (document.aged 1).toJson = document.toJson.reread :=
  toJson_mapNumbers _ document

lemma Distinct.aged (distinct : document.Distinct) (times : Nat) : (document.aged times).Distinct :=
  distinct_mapNumbers.2 distinct

@[simp] lemma outline_aged (document : Document) (times : Nat) :
    (document.aged times).outline = document.outline := mapNumbers_mapNumbers _ _ document

@[simp] lemma aged_write (document : Document) (name : SliceName) (value : name.Value) (times : Nat) :
    (document.write name value).aged times = (document.aged times).write name value :=
  mapNumbers_write _ document name value

@[simp] lemma read_aged (document : Document) (times : Nat) (name : SliceName) :
    (document.aged times).read name = document.read name := read_mapNumbers _ document name

/-- To a change it makes no difference how old the document is. -/
@[simp] lemma edit_aged (document : Document) (times : Nat) (name : SliceName)
    (change : name.Value → Outcome name.Value) :
    (document.aged times).edit name change = document.edit name change := by
  rw [edit, edit, read_aged]

/-- What a document can become on its way in and out of a store.  If the store writes and reads it,
it ages; else it stays the same. -/
def AgesTo (wears : Prop) (document other : Document) : Prop :=
  ∃ times, (times ≠ 0 → wears) ∧ other = document.aged times

namespace AgesTo

variable {wears : Prop} {other third : Document}

lemma refl (document : Document) : AgesTo wears document document :=
  ⟨0, fun h => absurd rfl h, (document.aged_zero).symm⟩

lemma aged (worn : wears) (document : Document) (times : Nat) :
    AgesTo wears document (document.aged times) :=
  ⟨times, fun _ => worn, rfl⟩

lemma trans (first : AgesTo wears document other) (second : AgesTo wears other third) :
    AgesTo wears document third := by
  obtain ⟨m, worn, rfl⟩ := first
  obtain ⟨n, worn', rfl⟩ := second
  refine ⟨m + n, fun more => ?_, document.aged_aged m n⟩
  by_cases none : m = 0
  · exact worn' (by omega)
  · exact worn none

/-- A document whose numbers read back stays the same in any store. -/
lemma eq_self (h : AgesTo wears document other)
    (same : ¬ wears ∨ ∀ n ∈ document.toJson.numbers, n.ReadsBack) : other = document := by
  obtain ⟨times, worn, rfl⟩ := h
  rcases same with fresh | back
  · rw [not_not.1 fun more => fresh (worn more), aged_zero]
  · exact aged_eq_self back times

end AgesTo

lemma valid_slice?_aged {name : SliceName} {times : Nat}
    (valid : ∀ raw, document.slice? name = some raw → Slice.Valid name raw) {raw : Json}
    (found : (document.aged times).slice? name = some raw) : Slice.Valid name raw := by
  rw [aged, slice?_mapNumbers] at found
  obtain ⟨first, held, rfl⟩ := Option.map_eq_some_iff.1 found
  exact Slice.valid_mapNumbers (valid first held)

end Document

/-! ## Files -/

namespace SettingsFile

variable {file : SettingsFile} {document other : Document}

/-- What contents are read as is the document that they were made for, with its numbers as they are
read. -/
lemma eq_aged_of_decode_encode (distinct : document.Distinct)
    (h : file.decode (encode document) = .ok other) : other = document.aged 1 := by
  obtain ⟨text, valid, found⟩ := decode_eq_ok.1 h
  rw [encode, fromUTF8?_toUTF8] at valid
  cases valid
  apply Document.toJson_injective
  rw [Document.toJson_aged_one, Json.eq_reread_of_parse?_pretty distinct found]

lemma outline_of_decode_encode (distinct : document.Distinct)
    (h : file.decode (encode document) = .ok other) : other.outline = document.outline := by
  rw [eq_aged_of_decode_encode distinct h, Document.outline_aged]

end SettingsFile

end KanaSettings
