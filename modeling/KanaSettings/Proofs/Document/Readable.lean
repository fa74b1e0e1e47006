import KanaSettings.Proofs.Document.Aged
import KanaSettings.Proofs.Json.Readable

/-!
# Documents that can be loaded again

A document that was loaded can be loaded again after a value of a slice was stored in it and it was
saved, whatever numbers stand in it.  The slice is then what was stored, and all else has the outline
that it had.
-/

namespace KanaSettings

open Json (maxDepth Readable)

namespace Document

variable {document : Document}

lemma mem_numbers_put {members : Members Json} {key : String} {value : Json} {n : Number}
    (mem : n ∈ (Json.object (members.put key value)).numbers) :
    n ∈ value.numbers ∨ n ∈ (Json.object members).numbers := by
  rw [Json.numbers] at mem ⊢
  obtain ⟨m, mem, found⟩ := List.mem_flatMap.1 mem
  rcases Members.mem_put mem with rfl | mem
  · exact .inl found
  · exact .inr (List.mem_flatMap.2 ⟨m, mem, found⟩)

lemma mem_numbers_containerMembers {key : String} {n : Number}
    (mem : n ∈ (Json.object (containerMembers (document.members.get? key))).numbers) :
    n ∈ document.toJson.numbers := by
  cases found : document.members.get? key with
  | none => simp [found, containerMembers, Json.numbers] at mem
  | some value =>
    cases value with
    | object members =>
      rw [found, containerMembers] at mem
      rw [toJson, Json.numbers]
      exact List.mem_flatMap.2 ⟨_, Members.mem_of_get?_eq_some found, mem⟩
    | _ => simp [found, containerMembers, Json.numbers] at mem

/-- To store a value of a slice brings no number in. -/
lemma mem_numbers_of_write {name : SliceName} {value : name.Value} {n : Number}
    (mem : n ∈ (document.write name value).toJson.numbers) : n ∈ document.toJson.numbers := by
  have bare : n ∉ (Slice.encode name value).numbers := by simp [Slice.numbers_encode]
  rw [toJson] at mem
  cases hp : name.path with
  | mk container inner =>
    cases inner with
    | none =>
      rw [Document.write, members_put_of_path_none hp] at mem
      exact (mem_numbers_put mem).resolve_left bare
    | some key =>
      rw [Document.write, members_put_of_path hp] at mem
      rcases mem_numbers_put mem with inner | other
      · exact mem_numbers_containerMembers ((mem_numbers_put inner).resolve_left bare)
      · exact other

/-- A document that can be loaded from the contents that are made for it. -/
structure Loadable (document : Document) : Prop where
  readable : Readable document.toJson
  nesting : document.toJson.nesting ≤ maxDepth

lemma Loadable.write (h : document.Loadable) (name : SliceName) (value : name.Value) :
    (document.write name value).Loadable where
  readable :=
    ⟨Distinct.write h.readable.distinct name value,
      fun n mem => h.readable.numbers n (mem_numbers_of_write mem)⟩
  nesting := nesting_write h.readable.distinct h.nesting name value

end Document

/-! ## Files -/

namespace SettingsFile

variable {file : SettingsFile} {tree : FileTree} {document : Document}

lemma loadable_of_load (loads : file.load tree = .ok document) : document.Loadable := by
  unfold load at loads
  split at loads
  · obtain ⟨text, -, parsed⟩ := decode_eq_ok.1 loads
    obtain ⟨rest, reads⟩ := Json.value_of_parse? parsed
    exact ⟨Json.readable_of_parse? parsed, Json.nesting_le_of_value reads⟩
  · cases loads
    have legible := Document.legible_empty
    exact ⟨⟨legible.distinct, fun n mem => (legible.numbers n mem).readable⟩, legible.nesting⟩
  · cases loads

/-- A document that can be loaded has aged when it is. -/
theorem decode_encode_of_loadable (h : document.Loadable) :
    file.decode (encode document) = .ok (document.aged 1) := by
  have parsed := Json.parse?_pretty_reread h.readable h.nesting
  rw [← Document.toJson_aged_one] at parsed
  exact decode_eq_ok.2 ⟨_, fromUTF8?_toUTF8 _, parsed⟩

/-- A document that was loaded can be loaded again after a value of a slice was stored in it. -/
lemma decode_encode_write (loads : file.load tree = .ok document) (name : SliceName)
    (value : name.Value) :
    file.decode (encode (document.write name value)) = .ok ((document.aged 1).write name value) := by
  rw [decode_encode_of_loadable ((loadable_of_load loads).write name value), Document.aged_write]

end SettingsFile

end KanaSettings
