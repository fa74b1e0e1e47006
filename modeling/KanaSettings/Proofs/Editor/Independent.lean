import KanaSettings.Proofs.Document.Lens
import KanaSettings.Proofs.Editor.Confined
import KanaSettings.Proofs.Json.Shape

/-!
# Edits of different slices are independent

Two edits of different slices can change places: neither notices the other, and the two orders lead
to the same document, but for the order of keys that an edit had to append.
-/

namespace KanaSettings

/-! ## The order of members -/

namespace Json

/-- That two values are the same but for the order of the members of objects in them. -/
inductive Reordered : Json → Json → Prop where
  | refl (v : Json) : Reordered v v
  | trans {u v w : Json} (first : Reordered u v) (second : Reordered v w) : Reordered u w
  | members {ms ms' : Members Json} (perm : ms.Perm ms') : Reordered (.object ms) (.object ms')
  /-- Two objects that differ under one name, and there in the order only. -/
  | member {v w : Json} (before after : Members Json) (key : String) (value : Reordered v w) :
      Reordered (.object (before ++ (key, v) :: after)) (.object (before ++ (key, w) :: after))
  /-- Two arrays that differ in one item, and there in the order only. -/
  | item {v w : Json} (before after : List Json) (value : Reordered v w) :
      Reordered (.array (before ++ v :: after)) (.array (before ++ w :: after))

lemma Reordered.put {v w : Json} (value : Reordered v w) (key : String) (ms : Members Json) :
    Reordered (.object (Members.put key v ms)) (.object (Members.put key w ms)) := by
  obtain ⟨before, after, h⟩ := Members.exists_put_eq_append key ms
  rw [h, h]
  exact .member before after key value

end Json

namespace Document

variable {document : Document} {one other : SliceName}

/-- To store something at a slice's place is to put a value under the slice's top-level key, and
what stands there already decides which. -/
lemma exists_members_put (name : SliceName) (value : Json) :
    ∃ whole : Option Json → Json, ∀ document : Document,
      (document.put name value).members = Members.put name.path.1
        (whole (document.members.get? name.path.1)) document.members := by
  cases hp : name.path with
  | mk container inner =>
    cases inner with
    | none => exact ⟨fun _ => value, fun document => members_put_of_path_none hp value⟩
    | some key =>
      exact ⟨fun found => .object (Members.put key value (containerMembers found)),
        fun document => members_put_of_path hp value⟩

lemma exists_members_put_put (containers : other.path.1 ≠ one.path.1) (document : Document)
    (value value' : Json) :
    ∃ whole whole', ((document.put one value).put other value').members =
        Members.put other.path.1 whole' (Members.put one.path.1 whole document.members) ∧
      ((document.put other value').put one value).members =
        Members.put one.path.1 whole (Members.put other.path.1 whole' document.members) := by
  obtain ⟨whole, put⟩ := exists_members_put one value
  obtain ⟨whole', put'⟩ := exists_members_put other value'
  refine ⟨whole (document.members.get? one.path.1), whole' (document.members.get? other.path.1),
    ?_, ?_⟩
  · rw [put', put, Members.get?_put_of_ne containers.symm]
  · rw [put, put', Members.get?_put_of_ne containers]

/-- Two slices are stored in either order: the documents differ in the order of members at most. -/
lemma reordered_put_put (apart : one ≠ other) (document : Document) (value value' : Json) :
    ((document.put one value).put other value').toJson.Reordered
      ((document.put other value').put one value).toJson := by
  rcases SliceName.path_of_ne apart.symm with containers | ⟨container, key, key', hp, hp', keys⟩
  · obtain ⟨whole, whole', first, second⟩ :=
      exists_members_put_put containers document value value'
    rw [toJson, toJson, first, second]
    exact .members (Members.put_comm_perm containers.symm _ _ _)
  · rw [toJson, toJson, members_put_put hp hp', members_put_put hp' hp]
    exact .put (.members (Members.put_comm_perm keys _ _ _)) _ _

lemma mem_keys_of_slice? {name : SliceName} (present : (document.slice? name).isSome) :
    name.path.1 ∈ document.members.keys := by
  cases found : document.members.get? name.path.1 with
  | some whole => exact Members.mem_keys_of_get?_eq_some found
  | none =>
    cases hp : name.path with
    | mk container inner =>
      rw [hp] at found
      cases inner with
      | none => simp [slice?_of_path_none hp, found] at present
      | some key => simp [slice?_of_path hp, found, containerMembers] at present

lemma mem_inner_keys_of_slice? {name : SliceName} {container key : String}
    (hp : name.path = (container, some key)) (present : (document.slice? name).isSome) :
    key ∈ (containerMembers (document.members.get? container)).keys := by
  rw [slice?_of_path hp] at present
  obtain ⟨_, found⟩ := Option.isSome_iff_exists.1 present
  exact Members.mem_keys_of_get?_eq_some found

/-- If the document has one of the two slices already, the documents are the same. -/
lemma put_put_comm (apart : one ≠ other)
    (present : (document.slice? one).isSome ∨ (document.slice? other).isSome)
    (value value' : Json) :
    (document.put one value).put other value' = (document.put other value').put one value := by
  suffices same : ((document.put one value).put other value').members =
      ((document.put other value').put one value).members from congrArg mk same
  rcases SliceName.path_of_ne apart.symm with containers | ⟨container, key, key', hp, hp', keys⟩
  · obtain ⟨whole, whole', first, second⟩ :=
      exists_members_put_put containers document value value'
    rw [first, second]
    exact Members.put_comm_of_mem containers.symm
      (present.imp mem_keys_of_slice? mem_keys_of_slice?) _ _
  · have inner := present.imp (mem_inner_keys_of_slice? hp) (mem_inner_keys_of_slice? hp')
    rw [members_put_put hp hp', members_put_put hp' hp, Members.put_comm_of_mem keys inner]

/-! ## Two edits -/

/-- An edit fails, or it returns a value of its slice. -/
lemma answer_edit (document : Document) (name : SliceName)
    (change : name.Value → Outcome name.Value) :
    (∃ error, document.answer (.edit name change) = .error error) ∨
      ∃ value, document.answer (.edit name change) = .ok (.value name value) := by
  cases edit : document.edit name change with
  | settled value => exact .inr ⟨value, by simp [answer, edit]⟩
  | refused objections => exact .inl ⟨.rejected objections, by simp [answer, edit]⟩
  | crashed reason => exact .inl ⟨.ofCrash (.edit name change) reason, by simp [answer, edit]⟩

/-- An edit leaves the other slices as they are, also if it fails. -/
lemma slice?_afterAnswer_edit (apart : other ≠ one) (document : Document)
    (change : one.Value → Outcome one.Value) :
    (document.afterAnswer (document.answer (.edit one change))).slice? other =
      document.slice? other := by
  rw [slice?_afterAnswer, stored?_answer (by simpa [Call.edits] using apart.symm), Option.none_or]

lemma reordered_afterAnswer (apart : one ≠ other) (document : Document)
    (change : one.Value → Outcome one.Value) (change' : other.Value → Outcome other.Value) :
    let first := document.answer (.edit one change)
    let second := document.answer (.edit other change')
    let ends := (document.afterAnswer first).afterAnswer second
    let ends' := (document.afterAnswer second).afterAnswer first
    ends.toJson.Reordered ends'.toJson ∧
      ((∃ error, first = .error error) ∨ (∃ error, second = .error error) ∨
        (document.slice? one).isSome ∨ (document.slice? other).isSome → ends = ends') := by
  intro first second ends ends'
  rcases document.answer_edit one change with ⟨error, failed⟩ | ⟨value, done⟩
  · have same : ends = ends' := by
      simp only [ends, ends', first, failed]
      rfl
    exact ⟨same ▸ .refl _, fun _ => same⟩
  rcases document.answer_edit other change' with ⟨error, failed⟩ | ⟨value', done'⟩
  · have same : ends = ends' := by
      simp only [ends, ends', second, failed]
      rfl
    exact ⟨same ▸ .refl _, fun _ => same⟩
  · simp only [ends, ends', first, second, done, done', reduceCtorEq, exists_false, false_or]
    exact ⟨reordered_put_put apart document _ _,
      fun present => put_put_comm apart present _ _⟩

end Document

variable {σ : Type} {store : Store σ} {good : σ → Prop} {held : σ → Document}

/-- An edit after one of another slice gives the answer that it gives alone, and stores its value beside
the value of the other one. -/
lemma Store.Durable.attempt_after {wears : Prop} {documents : Document → Prop}
    (h : store.Durable wears documents good held) {one other : SliceName} (apart : one ≠ other)
    (change : one.Value → Outcome one.Value) (change' : other.Value → Outcome other.Value) {state : σ}
    (fine : good state) :
    let after := store.attempt (.edit other change') (store.attempt (.edit one change) state).2
    after.1 = (held state).answer (.edit other change') ∧
      Document.AgesTo wears
        (((held state).afterAnswer ((held state).answer (.edit one change))).afterAnswer
          ((held state).answer (.edit other change'))) (held after.2) := by
  have edits : Call.edits other (.edit other change') := by simp [Call.edits]
  obtain ⟨-, fine', ages⟩ := h.attempt fine (.edit one change)
  obtain ⟨answer, -, ages'⟩ := h.attempt fine' (.edit other change')
  have untouched := Document.slice?_afterAnswer_edit apart.symm (held state) change
  rw [Document.answer_of_ages ages edits, Document.answer_congr untouched edits] at answer ages'
  exact ⟨answer, (ages.afterAnswer _).trans ages'⟩

/-- Two edits of different slices, one after the other over a store that does not fail.  Each of them
gives the same answer, whether it comes first or second.  The two orders end in documents that hold the
same of every slice and differ in the order of keys at most, or in what these have become with age; and
in what has become of the same document, if an edit fails or one of the two slices is there already. -/
theorem Store.Durable.edits_commute_aged {wears : Prop} {documents : Document → Prop}
    (h : store.Durable wears documents good held) {one other : SliceName} (apart : one ≠ other)
    (change : one.Value → Outcome one.Value) (change' : other.Value → Outcome other.Value) {state : σ}
    (fine : good state) :
    let first := store.attempt (.edit one change) state
    let second := store.attempt (.edit other change') state
    let firstAfter := store.attempt (.edit one change) second.2
    let secondAfter := store.attempt (.edit other change') first.2
    (firstAfter.1 = first.1 ∧ Document.Alike wears wears one (held firstAfter.2) (held first.2)) ∧
    (secondAfter.1 = second.1 ∧
      Document.Alike wears wears other (held secondAfter.2) (held second.2)) ∧
    (∀ name, Document.Alike wears wears name (held secondAfter.2) (held firstAfter.2)) ∧
    ∃ ends ends', Document.AgesTo wears ends (held secondAfter.2) ∧
      Document.AgesTo wears ends' (held firstAfter.2) ∧ ends.toJson.Reordered ends'.toJson ∧
      ((∃ error, first.1 = .error error) ∨ (∃ error, second.1 = .error error) ∨
        ((held state).slice? one).isSome ∨ ((held state).slice? other).isSome → ends = ends') := by
  intro first second firstAfter secondAfter
  obtain ⟨answer, -, left⟩ := h.attempt fine (.edit one change)
  obtain ⟨answer', -, left'⟩ := h.attempt fine (.edit other change')
  obtain ⟨late, ages⟩ := h.attempt_after apart.symm change' change fine
  obtain ⟨late', ages'⟩ := h.attempt_after apart change change' fine
  have unasked {name slice : SliceName} (ne : name ≠ slice)
      (change : slice.Value → Outcome slice.Value) :
      stored? name ((held state).answer (.edit slice change)) = none :=
    Document.stored?_answer (by simpa [Call.edits] using ne.symm) _
  obtain ⟨reordered, same⟩ := Document.reordered_afterAnswer apart (held state) change change'
  refine ⟨⟨late.trans answer.symm, .of_ages ages left ?_⟩,
    ⟨late'.trans answer'.symm, .of_ages ages' left' ?_⟩, fun name => .of_ages ages' ages ?_,
    _, _, ages', ages, reordered, ?_⟩
  · simp only [Document.slice?_afterAnswer, unasked apart, Option.none_or]
  · simp only [Document.slice?_afterAnswer, unasked apart.symm, Option.none_or]
  · simp only [Document.slice?_afterAnswer]
    by_cases slice : name = one
    · rw [unasked (slice ▸ apart)]
      simp
    · rw [unasked slice]
      simp
  · rw [show first.1 = _ from answer, show second.1 = _ from answer']
    exact same

/-- Two edits of different slices, one after the other over a store that does not fail.  Each of them
returns the same value, is refused for the same reasons or crashes alike, whether it comes first or
second, and it leaves the same in its slice.  The two orders end in documents that hold the same of
every slice and differ in the order of keys at most; and in the same document, if an edit fails or
one of the two slices is there already. -/
theorem Store.Reliable.edits_commute (h : store.Reliable good held) {one other : SliceName}
    (apart : one ≠ other) (change : one.Value → Outcome one.Value)
    (change' : other.Value → Outcome other.Value) {state : σ} (fine : good state) :
    let first := store.attempt (.edit one change) state
    let second := store.attempt (.edit other change') state
    let firstAfter := store.attempt (.edit one change) second.2
    let secondAfter := store.attempt (.edit other change') first.2
    (firstAfter.1 = first.1 ∧
      (held firstAfter.2).slice? one = (held first.2).slice? one) ∧
    (secondAfter.1 = second.1 ∧
      (held secondAfter.2).slice? other = (held second.2).slice? other) ∧
    (∀ name, (held secondAfter.2).slice? name = (held firstAfter.2).slice? name) ∧
    (held secondAfter.2).toJson.Reordered (held firstAfter.2).toJson ∧
    ((∃ error, first.1 = .error error) ∨ (∃ error, second.1 = .error error) ∨
      ((held state).slice? one).isSome ∨ ((held state).slice? other).isSome →
      held secondAfter.2 = held firstAfter.2) := by
  intro first second firstAfter secondAfter
  obtain ⟨⟨late, slice⟩, ⟨late', slice'⟩, each, ends, ends', ages, ages', reordered, same⟩ :=
    h.durable.edits_commute_aged apart change change' fine
  obtain rfl := ages.eq_self (.inl not_false)
  obtain rfl := ages'.eq_self (.inl not_false)
  exact ⟨⟨late, slice.slice?_eq⟩, ⟨late', slice'.slice?_eq⟩, fun name => (each name).slice?_eq,
    reordered, same⟩

/-- The widths of the groups and of the symbols are stored for the first time, in a container that is a
text so far: the two orders lead to the same members in different orders. -/
theorem Store.Reliable.edits_commute_widths :
    let state := Memory.ofDocument ⟨[("character_width", .string "wide")]⟩
    let first := Memory.store.attempt (.edit .widthGroups .settled) state
    let second := Memory.store.attempt (.edit .symbolWidth .settled) state
    (Memory.store.attempt (.edit .symbolWidth .settled) first.2).2.document.toJson.Reordered
      (Memory.store.attempt (.edit .widthGroups .settled) second.2).2.document.toJson :=
  (edits_commute Memory.reliable (by decide) .settled .settled ⟨rfl, rfl⟩).2.2.2.1

end KanaSettings
