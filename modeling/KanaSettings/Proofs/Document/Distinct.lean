import KanaSettings.Proofs.Document.Place
import KanaSettings.Proofs.Json.Legible
import KanaSettings.Proofs.Slice.Symbols
import KanaSettings.Store.File

/-!
# Documents without a name twice

A document that was read has no name twice in any object, and no value that is stored brings one in.
So every document that is ever about to be written is of this kind.
-/

namespace KanaSettings

/-! ## Values of slices -/

namespace Slice

open Json

lemma legible_encode_choice {α : Type} [Choice α] (depth : Nat) (a : α) :
    Legible depth (Choice.encode a) :=
  legible_string depth _

/-- What a value is written as is an object of plain values, or a list of such objects. -/
theorem legible_encode (name : SliceName) (value : name.Value) : Legible 2 (encode name value) := by
  cases name with
  | shortcuts => exact legible_object.2 ⟨1, rfl, by simp, by simp [legible_bool]⟩
  | general => exact legible_object.2 ⟨1, rfl, by simp, by simp [legible_encode_choice]⟩
  | zenzai =>
    exact legible_object.2 ⟨1, rfl, by simp, by
      simp [legible_bool, legible_string, legible_encode_choice]⟩
  | symbolWidth =>
    refine legible_object.2 ⟨1, rfl, ?_, fun m mem => ?_⟩
    · simpa [Members.keys, Function.comp_def] using value.nodup_keys
    · obtain ⟨entry, -, rfl⟩ := List.mem_map.1 mem
      exact legible_bool 1 _
  | widthGroups => exact legible_object.2 ⟨1, rfl, by simp, by simp [legible_encode_choice]⟩
  | romajiTable =>
    refine legible_array.2 ⟨1, rfl, fun item mem => ?_⟩
    obtain ⟨rule, -, rfl⟩ := List.mem_map.1 mem
    exact legible_object.2 ⟨0, rfl, by simp, by simp [legible_string]⟩
  | userDictionary =>
    refine legible_array.2 ⟨1, rfl, fun item mem => ?_⟩
    obtain ⟨entry, -, rfl⟩ := List.mem_map.1 mem
    exact legible_object.2 ⟨0, rfl, by simp, by simp [legible_string]⟩

lemma distinct_encode (name : SliceName) (value : name.Value) : (encode name value).Distinct :=
  (legible_encode name value).distinct

end Slice

/-! ## Documents -/

namespace Document

/-- No object in a document has a name twice. -/
def Distinct (document : Document) : Prop := document.toJson.Distinct

variable {document : Document}

lemma distinct_iff : document.Distinct ↔
    document.members.keys.Nodup ∧ ∀ m ∈ document.members, m.2.Distinct := by
  rw [Distinct, toJson, Json.Distinct]

lemma distinct_empty : Document.empty.Distinct := by simp [distinct_iff, empty]

lemma distinct_members_put {members : Members Json} (key : String) {value : Json}
    (distinct : members.keys.Nodup ∧ ∀ m ∈ members, m.2.Distinct) (new : value.Distinct) :
    (members.put key value).keys.Nodup ∧ ∀ m ∈ members.put key value, m.2.Distinct := by
  refine ⟨Members.nodup_keys_put distinct.1 key value, fun m mem => ?_⟩
  rcases Members.mem_put mem with rfl | mem
  · exact new
  · exact distinct.2 m mem

lemma distinct_containerMembers (distinct : document.Distinct) (key : String) :
    (containerMembers (document.members.get? key)).keys.Nodup ∧
      ∀ m ∈ containerMembers (document.members.get? key), m.2.Distinct := by
  rw [distinct_iff] at distinct
  cases found : document.members.get? key with
  | none => simp [containerMembers]
  | some value =>
    have inner := distinct.2 _ (Members.mem_of_get?_eq_some found)
    cases value with
    | object members =>
      rw [Json.Distinct] at inner
      exact inner
    | _ => simp [containerMembers]

/-- To store a value brings no name in twice. -/
theorem Distinct.write (distinct : document.Distinct) (name : SliceName) (value : name.Value) :
    (document.write name value).Distinct := by
  have new := Slice.distinct_encode name value
  rw [distinct_iff]
  cases hp : name.path with
  | mk container inner =>
    cases inner with
    | none =>
      rw [Document.write, members_put_of_path_none hp]
      exact distinct_members_put container (distinct_iff.1 distinct) new
    | some key =>
      rw [Document.write, members_put_of_path hp]
      refine distinct_members_put container (distinct_iff.1 distinct) ?_
      rw [Json.Distinct]
      exact distinct_members_put key (distinct_containerMembers distinct container) new

end Document

/-! ## Files -/

namespace SettingsFile

variable {file : SettingsFile} {contents : ByteArray} {document : Document}

lemma decode_eq_ok : file.decode contents = .ok document ↔
    ∃ text, String.fromUTF8? contents = some text ∧ Json.parse? text = some document.toJson := by
  constructor
  · intro h
    unfold decode at h
    split at h
    · cases h
    · rename_i text valid
      split at h
      · cases h
      · rename_i value found
        split at h
        · cases h
        · rename_i read
          cases h
          exact ⟨text, valid, by rw [found, Document.toJson_of_ofJson? read]⟩
  · rintro ⟨text, valid, found⟩
    simp only [decode, valid, found, Document.ofJson?_toJson]

/-- A document that a file holds has no name twice. -/
theorem distinct_of_load {tree : FileTree} (h : file.load tree = .ok document) :
    document.Distinct := by
  unfold load at h
  split at h
  · obtain ⟨text, -, found⟩ := decode_eq_ok.1 h
    obtain ⟨rest, reads⟩ := Json.value_of_parse? found
    exact Json.distinct_of_value reads
  · cases h
    exact Document.distinct_empty
  · cases h

end SettingsFile

end KanaSettings
