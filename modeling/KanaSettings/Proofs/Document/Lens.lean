import KanaSettings.Proofs.Document.Place
import KanaSettings.Proofs.Json.Members

/-!
# Slices as lenses

What was stored for a slice is found, to store what is found changes nothing, and of two values the
second one stays.  Slices are not seen through one another, even where two of them share a container
that had to be made first.
-/

namespace KanaSettings.Document

variable {document : Document} {name : SliceName} {value : Json}

lemma put_of_slice?_eq_some (h : document.slice? name = some value) :
    document.put name value = document := by
  cases hp : name.path with
  | mk container inner =>
    cases inner with
    | none =>
      rw [slice?_of_path_none hp] at h
      have members : (document.put name value).members = _ := members_put_of_path_none hp value
      rw [Members.put_of_get?_eq_some h] at members
      exact congrArg mk members
    | some key =>
      -- Something is there, so the container is an object already.
      rw [slice?_of_path hp] at h
      have members : (document.put name value).members = _ := members_put_of_path hp value
      rw [Members.put_of_get?_eq_some h] at members
      cases found : document.members.get? container with
      | none => simp [found, containerMembers] at h
      | some whole =>
        cases whole with
        | object inner =>
          simp only [found, containerMembers] at members
          rw [Members.put_of_get?_eq_some found] at members
          exact congrArg mk members
        | _ => simp [found, containerMembers] at h

/-- What is stored for two slices in one container, or twice for one of them: what the first one has
made of the container is found by the second one. -/
lemma members_put_put {one other : SliceName} {container key key' : String}
    (hp : one.path = (container, some key)) (hp' : other.path = (container, some key'))
    (value value' : Json) :
    ((document.put one value).put other value').members = Members.put container
      (.object (Members.put key' value'
        (Members.put key value (containerMembers (document.members.get? container)))))
      document.members := by
  rw [members_put_of_path hp', get?_put_of_path hp, members_put_of_path hp,
    Members.put_put_self]
  rfl

/-- Of two values that are stored for a slice the second one stays, in the place that the first one
had. -/
lemma put_put_self (document : Document) (name : SliceName) (value other : Json) :
    (document.put name value).put name other = document.put name other := by
  suffices members : ((document.put name value).put name other).members =
      (document.put name other).members from congrArg mk members
  cases hp : name.path with
  | mk container inner =>
    cases inner with
    | none =>
      simp only [members_put_of_path_none hp]
      exact Members.put_put_self container other value document.members
    | some key =>
      rw [members_put_put hp hp, Members.put_put_self, members_put_of_path hp]

/-- In every document, whatever it holds at the places of slices and above them: what was stored for a
slice is found, and the other slices are what they were; of two values that are stored for one slice the
second one stays; and to store what is found leaves the document as it is, with all members in their
order. -/
theorem lens_laws (document : Document) (name : SliceName) :
    (∀ value, (document.put name value).slice? name = some value) ∧
    (∀ value other, (document.put name value).put name other = document.put name other) ∧
    (∀ value, document.slice? name = some value → document.put name value = document) ∧
    ∀ value other, other ≠ name →
      (document.put name value).slice? other = document.slice? other := by
  refine ⟨slice?_put_self document name, put_put_self document name, ?_, ?_⟩
  · exact fun value => put_of_slice?_eq_some
  · exact fun value other apart => slice?_put_of_ne apart document value

/-- Two slices share a container that is no object, and then one that holds a stranger before them. -/
theorem lens_laws_shared :
    let number : Document := ⟨[("x", .null), ("character_width", .ofNat 42)]⟩
    let widths : Json := .object [("y", .bool true), ("symbol_fullwidth", .null), ("groups", .array [])]
    let object : Document := ⟨[("character_width", widths), ("x", .null)]⟩
    (number.put .widthGroups .null).slice? .symbolWidth = none ∧
      object.slice? .symbolWidth = some .null ∧ object.put .symbolWidth .null = object := by
  intro number widths object
  obtain ⟨-, -, -, apart⟩ := lens_laws number .widthGroups
  obtain ⟨-, -, back, -⟩ := lens_laws object .symbolWidth
  exact ⟨apart .null .symbolWidth (by decide), rfl, back .null rfl⟩

end KanaSettings.Document
