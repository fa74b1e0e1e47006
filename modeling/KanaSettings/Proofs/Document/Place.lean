import KanaSettings.Document
import Mathlib.Tactic

/-!
# The places of slices

What is stored at the place of a slice is found there again, and nothing is moved or lost anywhere
else.  Two slices have one container between them, and a container can be missing or be anything
but an object, so the laws are not those of a flat map: `slice?_put_of_ne` says that they hold all
the same, and `changedAt_put` lists what else stays when one slice is stored.
-/

namespace KanaSettings

namespace SliceName

/-- Whether a top-level key belongs to no slice. -/
def foreign (key : String) : Bool :=
  (Choice.all : List SliceName).all fun name => name.path.1 ≠ key

/-- Whether a key in a container belongs to no slice. -/
def foreignIn (container key : String) : Bool :=
  (Choice.all : List SliceName).all fun name => name.path ≠ (container, some key)

lemma mem_all (name : SliceName) : name ∈ (Choice.all : List SliceName) := by
  cases name <;> decide

lemma foreign_container (name : SliceName) : foreign name.path.1 = false := by
  simp only [foreign, List.all_eq_false]
  exact ⟨name, mem_all name, by simp⟩

lemma foreignIn_key {name : SliceName} {container key : String}
    (h : name.path = (container, some key)) : foreignIn container key = false := by
  simp only [foreignIn, List.all_eq_false]
  exact ⟨name, mem_all name, by simp [h]⟩

/-- Two slices stand under different top-level keys, or under different keys of one container. -/
lemma path_of_ne {name other : SliceName} (h : other ≠ name) :
    other.path.1 ≠ name.path.1 ∨
      ∃ container key key', name.path = (container, some key) ∧
        other.path = (container, some key') ∧ key ≠ key' := by
  cases name <;> cases other <;> simp_all [path]

/-- A container with slices in it is no slice itself. -/
lemma isSome_path_of_container_eq {name other : SliceName} (nested : name.path.2.isSome)
    (same : other.path.1 = name.path.1) : other.path.2.isSome := by
  cases name <;> cases other <;> simp_all [path]

end SliceName

namespace Document

/-! ## Looking up and storing -/

lemma get?_containerMembers (raw : Option Json) (key : String) :
    (containerMembers raw).get? key = raw.bind (·.field? key) := by
  cases raw with
  | none => rfl
  | some value => cases value <;> rfl

lemma slice?_of_path {document : Document} {name : SliceName} {container key : String}
    (h : name.path = (container, some key)) :
    document.slice? name = (containerMembers (document.members.get? container)).get? key := by
  rw [get?_containerMembers, slice?, h]

lemma slice?_of_path_none {document : Document} {name : SliceName} {container : String}
    (h : name.path = (container, none)) :
    document.slice? name = document.members.get? container := by
  rw [slice?, h]

lemma members_put_of_path {document : Document} {name : SliceName} {container key : String}
    (h : name.path = (container, some key)) (value : Json) :
    (document.put name value).members = Members.put container
      (.object (Members.put key value (containerMembers (document.members.get? container))))
      document.members := by
  rw [put, h]

lemma members_put_of_path_none {document : Document} {name : SliceName} {container : String}
    (h : name.path = (container, none)) (value : Json) :
    (document.put name value).members = Members.put container value document.members := by
  rw [put, h]

/-- What a document holds under the container of a slice once something is stored there. -/
lemma get?_put_of_path {document : Document} {name : SliceName} {container key : String}
    (h : name.path = (container, some key)) (value : Json) :
    (document.put name value).members.get? container = some
      (.object (Members.put key value (containerMembers (document.members.get? container)))) := by
  rw [members_put_of_path h, Members.get?_put_self]

lemma get?_put_of_container_ne {name : SliceName} {key : String} (h : key ≠ name.path.1)
    (document : Document) (value : Json) :
    (document.put name value).members.get? key = document.members.get? key := by
  cases hp : name.path with
  | mk container inner =>
    rw [hp] at h
    cases inner with
    | none => rw [members_put_of_path_none hp, Members.get?_put_of_ne h.symm]
    | some inner => rw [members_put_of_path hp, Members.get?_put_of_ne h.symm]

@[simp] lemma slice?_put_self (document : Document) (name : SliceName) (value : Json) :
    (document.put name value).slice? name = some value := by
  cases hp : name.path with
  | mk container inner =>
    cases inner with
    | none => rw [slice?_of_path_none hp, members_put_of_path_none hp, Members.get?_put_self]
    | some key =>
      rw [slice?_of_path hp, get?_put_of_path hp]
      exact Members.get?_put_self _ _ _

lemma slice?_put_of_ne {name other : SliceName} (h : other ≠ name) (document : Document)
    (value : Json) : (document.put name value).slice? other = document.slice? other := by
  rcases SliceName.path_of_ne h with hc | ⟨container, key, key', hp, ho, hk⟩
  · have same := get?_put_of_container_ne hc document value
    cases hp : other.path with
    | mk container inner =>
      rw [hp] at same
      cases inner with
      | none => rw [slice?_of_path_none hp, slice?_of_path_none hp, same]
      | some key => rw [slice?_of_path hp, slice?_of_path hp, same]
  · -- The two slices share a container, whatever it was before.
    rw [slice?_of_path ho, slice?_of_path ho, get?_put_of_path hp]
    exact Members.get?_put_of_ne hk _ _

@[simp] lemma slice?_write_self (document : Document) (name : SliceName) (value : name.Value) :
    (document.write name value).slice? name = some (Slice.encode name value) :=
  slice?_put_self document name _

lemma slice?_write_of_ne {name other : SliceName} (h : other ≠ name) (document : Document)
    (value : name.Value) : (document.write name value).slice? other = document.slice? other :=
  slice?_put_of_ne h document _

/-! ## What one stored slice leaves as it is -/

/-- A document in which one slice was stored.  Everything else is what and where it was; a key that
the place needs and that was missing is the last one. -/
structure ChangedAt (before : Document) (name : SliceName) (after : Document) : Prop where
  others : after.members.filter (fun m => m.1 ≠ name.path.1) =
    before.members.filter fun m => m.1 ≠ name.path.1
  /-- At most the container is new among the keys, and then it is the last one. -/
  order : after.members.keys = if name.path.1 ∈ before.members.keys then before.members.keys
    else before.members.keys ++ [name.path.1]
  /-- In the container of a nested slice, the same holds of the slice's own key. -/
  siblings : ∀ key, name.path.2 = some key →
    ∃ inner : Members Json, after.members.get? name.path.1 = some (.object inner) ∧
      inner.filter (fun m => m.1 ≠ key) =
        (containerMembers (before.members.get? name.path.1)).filter (fun m => m.1 ≠ key) ∧
      inner.keys = if key ∈ (containerMembers (before.members.get? name.path.1)).keys
        then (containerMembers (before.members.get? name.path.1)).keys
        else (containerMembers (before.members.get? name.path.1)).keys ++ [key]
  slices : ∀ other, other ≠ name → after.slice? other = before.slice? other

theorem changedAt_put (document : Document) (name : SliceName) (value : Json) :
    ChangedAt document name (document.put name value) := by
  have hput : ∃ v, (document.put name value).members =
      Members.put name.path.1 v document.members := by
    cases hp : name.path with
    | mk container inner =>
      cases inner with
      | none => exact ⟨_, members_put_of_path_none hp value⟩
      | some key => exact ⟨_, members_put_of_path hp value⟩
  obtain ⟨v, hv⟩ := hput
  refine ⟨?_, ?_, ?_, fun other h => slice?_put_of_ne h document value⟩
  · rw [hv]
    exact Members.filter_put (fun key => key ≠ name.path.1) (by simp) _ _
  · rw [hv, Members.keys_put]
  · intro key hk
    have hp : name.path = (name.path.1, some key) := by rw [← hk]
    refine ⟨_, get?_put_of_path hp value, ?_, ?_⟩
    · exact Members.filter_put (fun k => k ≠ key) (by simp) _ _
    · rw [Members.keys_put]

/-! ## What any number of stored slices leave as it is -/

/-- Everything that belongs to no slice is kept. -/
structure Preserves (before after : Document) : Prop where
  /-- The members that belong to no slice are the same, in the same order. -/
  members : after.members.filter (fun m => SliceName.foreign m.1) =
    before.members.filter fun m => SliceName.foreign m.1
  /-- The keys that were there are still the first ones, in the same order. -/
  order : before.members.keys <+: after.members.keys
  /-- A container of slices that was an object is still one, and the same holds in it. -/
  siblings : ∀ name : SliceName, name.path.2.isSome → ∀ inner : Members Json,
    before.members.get? name.path.1 = some (.object inner) →
    ∃ inner' : Members Json, after.members.get? name.path.1 = some (.object inner') ∧
      inner'.filter (fun m => SliceName.foreignIn name.path.1 m.1) =
        inner.filter (fun m => SliceName.foreignIn name.path.1 m.1) ∧
      inner.keys <+: inner'.keys

lemma Preserves.refl (document : Document) : Preserves document document :=
  ⟨rfl, List.prefix_refl _, fun _ _ inner h => ⟨inner, h, rfl, List.prefix_refl _⟩⟩

lemma Preserves.trans {a b c : Document} (hab : Preserves a b) (hbc : Preserves b c) :
    Preserves a c := by
  refine ⟨hbc.members.trans hab.members, hab.order.trans hbc.order, ?_⟩
  intro name nested inner ha
  obtain ⟨inner', hb, members, order⟩ := hab.siblings name nested inner ha
  obtain ⟨inner'', hc, members', order'⟩ := hbc.siblings name nested inner' hb
  exact ⟨inner'', hc, members'.trans members, order.trans order'⟩

lemma preserves_put (document : Document) (name : SliceName) (value : Json) :
    Preserves document (document.put name value) := by
  have changed := changedAt_put document name value
  refine ⟨?_, ?_, ?_⟩
  · -- A key that belongs to no slice is not the container of this one.
    have key_ne : ∀ m : String × Json, SliceName.foreign m.1 = true → m.1 ≠ name.path.1 := by
      intro m hm h
      rw [h, SliceName.foreign_container] at hm
      exact absurd hm (by decide)
    have split (ms : Members Json) : ms.filter (fun m => SliceName.foreign m.1) =
        (ms.filter fun m => m.1 ≠ name.path.1).filter fun m => SliceName.foreign m.1 := by
      rw [List.filter_filter]
      refine List.filter_congr fun m _ => ?_
      by_cases hm : SliceName.foreign m.1 = true
      · simp [hm, key_ne m hm]
      · simp [hm]
    rw [split, changed.others, ← split]
  · rw [changed.order]
    split
    · exact List.prefix_refl _
    · exact List.prefix_append _ _
  · intro other nested inner hget
    -- A sibling may be in the container that the slice is in, or in another one.
    by_cases same : other.path.1 = name.path.1
    · have nested' := SliceName.isSome_path_of_container_eq nested same.symm
      obtain ⟨key, hkey⟩ := Option.isSome_iff_exists.1 nested'
      have hp : name.path = (other.path.1, some key) := by rw [same, ← hkey]
      have hin : containerMembers (document.members.get? other.path.1) = inner := by rw [hget]; rfl
      refine ⟨_, get?_put_of_path hp value, ?_, ?_⟩
      · rw [hin]
        exact Members.filter_put (SliceName.foreignIn other.path.1)
          (SliceName.foreignIn_key hp) _ _
      · rw [hin]
        exact Members.keys_prefix_put _ _ _
    · exact ⟨inner, (get?_put_of_container_ne same document value).trans hget, rfl,
        List.prefix_refl _⟩

end Document

end KanaSettings
