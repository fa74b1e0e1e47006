import KanaSettings.Proofs.Document.Distinct

/-!
# Documents that read back

The value of a slice holds no number and is shallow, and it is stored at most one level below the top.
So a document that reads back still does after a slice is written: nothing that is stored brings it
nearer to the depth at which a reader gives up.
-/

namespace KanaSettings

open Json (Legible maxDepth legible_object legible_put)

namespace Document

variable {document : Document} {depth : Nat}

lemma legible_empty : Legible maxDepth Document.empty.toJson :=
  legible_object.2 ⟨126, rfl, List.nodup_nil, by simp [empty]⟩

/-- The members of a container are as legible as those of the document, one level further down. -/
lemma legible_containerMembers (each : ∀ m ∈ document.members, Legible (depth + 1) m.2)
    (key : String) :
    (containerMembers (document.members.get? key)).keys.Nodup ∧
      ∀ m ∈ containerMembers (document.members.get? key), Legible depth m.2 := by
  cases found : document.members.get? key with
  | none => simp [containerMembers]
  | some value =>
    have inner := each _ (Members.mem_of_get?_eq_some found)
    cases value with
    | object members =>
      obtain ⟨below, deep, nodup, each⟩ := legible_object.1 inner
      cases deep
      exact ⟨nodup, each⟩
    | _ => simp [containerMembers]

/-- To write a slice of a document that reads back gives one that reads back, if a reader goes as deep
as slices are. -/
theorem legible_write (legible : Legible (depth + 4) document.toJson) (name : SliceName)
    (value : name.Value) : Legible (depth + 4) (document.write name value).toJson := by
  obtain ⟨below, deep, nodup, each⟩ := legible_object.1 legible
  obtain rfl : below = depth + 3 := by omega
  have new := Slice.legible_encode name value
  rw [toJson]
  cases hp : name.path with
  | mk container inner =>
    cases inner with
    | none =>
      rw [Document.write, members_put_of_path_none hp]
      exact legible_put nodup each container (new.mono (by omega))
    | some key =>
      rw [Document.write, members_put_of_path hp]
      obtain ⟨nodupInner, eachInner⟩ := legible_containerMembers each container
      exact legible_put nodup each container
        (legible_put nodupInner eachInner key (new.mono (by omega)))

end Document

namespace SettingsFile

variable {file : SettingsFile} {contents : ByteArray} {document : Document}

lemma legible_of_decode (h : file.decode contents = .ok document)
    (back : ∀ n ∈ document.toJson.numbers, n.ReadsBack) : Legible maxDepth document.toJson := by
  obtain ⟨text, -, found⟩ := decode_eq_ok.1 h
  exact Json.legible_of_parse? found back

end SettingsFile

end KanaSettings
