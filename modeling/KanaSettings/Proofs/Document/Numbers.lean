import KanaSettings.Proofs.Document.Legible
import KanaSettings.Proofs.Slice.Numbers

/-!
# Documents with other numbers

No slice is stored with numbers, and none sees them where it is read.  So to put other numbers in
the place of those in a document, and to read or store a slice, do not get in each other's way.
-/

namespace KanaSettings.Document

variable {document : Document} {f : Number → Number}

/-- A document in which each number is replaced by what a function makes of it. -/
def mapNumbers (f : Number → Number) (document : Document) : Document :=
  ⟨document.members.map fun m => (m.1, m.2.mapNumbers f)⟩

@[simp] lemma toJson_mapNumbers (f : Number → Number) (document : Document) :
    (document.mapNumbers f).toJson = document.toJson.mapNumbers f := by
  rw [toJson, toJson, Json.mapNumbers, mapNumbers]

lemma mapNumbers_mapNumbers (f g : Number → Number) (document : Document) :
    (document.mapNumbers f).mapNumbers g = document.mapNumbers (g ∘ f) := by
  apply toJson_injective
  simp only [toJson_mapNumbers, Json.mapNumbers_mapNumbers]

lemma mapNumbers_eq_self (same : ∀ n ∈ document.toJson.numbers, f n = n) :
    document.mapNumbers f = document := by
  apply toJson_injective
  rw [toJson_mapNumbers, Json.mapNumbers_eq_self same]

lemma distinct_mapNumbers : (document.mapNumbers f).Distinct ↔ document.Distinct := by
  rw [Distinct, toJson_mapNumbers, Json.distinct_mapNumbers, Distinct]

/-! ## Looking up and storing -/

lemma slice?_mapNumbers (f : Number → Number) (document : Document) (name : SliceName) :
    (document.mapNumbers f).slice? name = (document.slice? name).map (Json.mapNumbers f) := by
  unfold slice?
  cases name.path with
  | mk container inner =>
    cases inner with
    | none => exact Members.get?_map _ _ _
    | some key =>
      simp only [mapNumbers, Members.get?_map, Option.bind_map, Option.map_bind, Function.comp_def,
        Json.field?_mapNumbers]

/-- What is stored for a slice with other numbers is there with those that stand there. -/
lemma slice?_eq_of_mapNumbers {name : SliceName} {value : name.Value}
    (held : (document.mapNumbers f).slice? name = some (Slice.encode name value)) :
    document.slice? name = some (Slice.encode name value) := by
  rw [slice?_mapNumbers] at held
  obtain ⟨v, found, same⟩ := Option.map_eq_some_iff.1 held
  rw [found, Json.eq_of_mapNumbers_eq same (Slice.numbers_encode name value)]

/-- The value of a slice does not depend on numbers. -/
@[simp] lemma read_mapNumbers (f : Number → Number) (document : Document) (name : SliceName) :
    (document.mapNumbers f).read name = document.read name := by
  rw [read, slice?_mapNumbers, Slice.normalize_mapNumbers, read]

lemma containerMembers_mapNumbers (f : Number → Number) (raw : Option Json) :
    containerMembers (raw.map (Json.mapNumbers f)) =
      (containerMembers raw).map fun m => (m.1, m.2.mapNumbers f) := by
  cases raw with
  | none => rfl
  | some value =>
    cases value with
    | object members => rw [Option.map_some, Json.mapNumbers]; rfl
    | _ => rw [Option.map_some, Json.mapNumbers]; rfl

/-- To store a value of a slice and to replace numbers can be done in either order. -/
lemma mapNumbers_write (f : Number → Number) (document : Document) (name : SliceName)
    (value : name.Value) :
    (document.write name value).mapNumbers f = (document.mapNumbers f).write name value := by
  have bare := Slice.mapNumbers_encode (f := f) name value
  suffices members : ((document.write name value).mapNumbers f).members =
      ((document.mapNumbers f).write name value).members from congrArg mk members
  rw [mapNumbers]
  cases hp : name.path with
  | mk container inner =>
    cases inner with
    | none =>
      rw [Document.write, members_put_of_path_none hp, ← Members.put_map, bare, Document.write,
        members_put_of_path_none hp, mapNumbers]
    | some key =>
      rw [Document.write, members_put_of_path hp, ← Members.put_map, Json.mapNumbers,
        ← Members.put_map, bare, ← containerMembers_mapNumbers, ← Members.get?_map, Document.write,
        members_put_of_path hp, mapNumbers]

/-- To store a value of a slice makes a document nest no deeper than slices do, whatever its numbers
are. -/
lemma nesting_write (distinct : document.Distinct) {depth : Nat}
    (deep : document.toJson.nesting ≤ depth + 4) (name : SliceName) (value : name.Value) :
    (document.write name value).toJson.nesting ≤ depth + 4 := by
  -- With zeros for numbers, the document is legible.
  have legible : Json.Legible (depth + 4) (document.mapNumbers fun _ => .int 0).toJson := by
    rw [toJson_mapNumbers]
    refine ⟨Json.distinct_mapNumbers.2 distinct, ?_, by rwa [Json.nesting_mapNumbers]⟩
    intro n mem
    rw [Json.numbers_mapNumbers] at mem
    obtain ⟨-, -, rfl⟩ := List.mem_map.1 mem
    rfl
  have written := (legible_write legible name value).nesting
  rwa [← mapNumbers_write, toJson_mapNumbers, Json.nesting_mapNumbers] at written

end KanaSettings.Document
