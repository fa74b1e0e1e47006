import KanaSettings.Editor.Call
import KanaSettings.Proofs.Document.Outline
import KanaSettings.Proofs.Slice.Overlay

/-!
# Maps that were changed freely

Any key can be put into a map of widths or taken out of it.  The closed set is restored in two ways,
going through the entries or through the symbols, which come to the same map.
-/

namespace KanaSettings.SymbolWidth

/-! ## Changes -/

/-- A change of a map. -/
inductive Change where
  /-- The width of a symbol is set.  For a key that is no symbol nothing happens. -/
  | set (key : String) (fullwidth : Bool)
  | insert (key : String) (fullwidth : Bool)
  | erase (key : String)

namespace Change

/-- The map after a change. -/
def apply (m : SymbolWidth) : Change → SymbolWidth
  | set key fullwidth => (m.set? key fullwidth).getD m
  | insert key fullwidth => m.insert key fullwidth
  | erase key => m.erase key

/-- What a change leaves under a key, which may be nothing, if the change is about that key. -/
def leaves? (key : String) : Change → Option (Option Bool)
  | set symbol fullwidth =>
    if symbol = key ∧ symbol ∈ symbols.map Prod.fst then some (some fullwidth) else none
  | insert other fullwidth => if other = key then some (some fullwidth) else none
  | erase other => if other = key then some none else none

/-- What the last change that is about a key leaves under it, if there is one. -/
def lastLeaves? (key : String) (changes : List Change) : Option (Option Bool) :=
  changes.reverse.findSome? (leaves? key)

end Change

/-- The map after changes that are made one after another. -/
def changed (m : SymbolWidth) (changes : List Change) : SymbolWidth :=
  changes.foldl Change.apply m

lemma isFullwidth?_erase (m : SymbolWidth) (key other : String) :
    (m.erase key).isFullwidth? other = if key = other then none else m.isFullwidth? other := by
  split
  · rename_i same
    subst same
    exact Members.get?_filter_self
  · rename_i apart
    exact Members.get?_filter_ne apart

/-- A change leaves a key alone or says what is under it, whatever the map was. -/
lemma isFullwidth?_apply (m : SymbolWidth) (change : Change) (key : String) :
    (change.apply m).isFullwidth? key = (change.leaves? key).getD (m.isFullwidth? key) := by
  cases change with
  | set symbol fullwidth =>
    simp only [Change.apply, Change.leaves?, isFullwidth?_set?_getD, isSome_standardWidth?_iff]
    split <;> rfl
  | insert other fullwidth =>
    simp only [Change.apply, Change.leaves?, isFullwidth?_insert]
    split <;> rfl
  | erase other =>
    simp only [Change.apply, Change.leaves?, isFullwidth?_erase]
    split <;> rfl

/-- Of the changes that are about a key the last one says what is under it, and without such a change it
is what it was. -/
lemma isFullwidth?_changed (m : SymbolWidth) (changes : List Change) (key : String) :
    (m.changed changes).isFullwidth? key =
      (Change.lastLeaves? key changes).getD (m.isFullwidth? key) := by
  -- The changes are made from the front and asked from the back: the first one has a say only if no
  -- later one is about the key.
  induction changes generalizing m with
  | nil => rfl
  | cons change changes ih =>
    have rest := ih (change.apply m)
    rw [isFullwidth?_apply] at rest
    rw [changed, List.foldl_cons, ← changed, rest, Change.lastLeaves?, Change.lastLeaves?,
      List.reverse_cons, List.findSome?_append, List.findSome?_singleton]
    cases changes.reverse.findSome? (Change.leaves? key) <;> rfl

lemma isFullwidth?_changed_erase (m : SymbolWidth) (keys : List String) (key : String) :
    (m.changed (keys.map .erase)).isFullwidth? key =
      if key ∈ keys then none else m.isFullwidth? key := by
  induction keys generalizing m with
  | nil => rfl
  | cons other keys ih =>
    have rest := ih (m.erase other)
    rw [isFullwidth?_erase] at rest
    rw [changed, List.map_cons, List.foldl_cons, ← changed, Change.apply, rest]
    by_cases here : other = key
    · simp [here]
    · simp [here, Ne.symm here]

lemma isFullwidth?_changed_insert (start m : SymbolWidth) (key : String) :
    (start.changed (m.entries.map fun entry => .insert entry.1 entry.2)).isFullwidth? key =
      (m.isFullwidth? key).or (start.isFullwidth? key) := by
  rw [changed, List.foldl_map]
  exact isFullwidth?_foldl_insert m.entries m.nodup_keys start key

/-- Every map can come of every other: all keys are taken out, and then the entries are put in. -/
lemma exists_changed_eq (start m : SymbolWidth) : ∃ changes, start.changed changes = m := by
  refine ⟨start.entries.keys.map .erase ++ m.entries.map fun entry => .insert entry.1 entry.2, ?_⟩
  refine ext_isFullwidth? fun key => ?_
  rw [changed, List.foldl_append, ← changed, ← changed, isFullwidth?_changed_insert,
    isFullwidth?_changed_erase]
  have cleared : (if key ∈ start.entries.keys then none else start.isFullwidth? key) = none := by
    split
    · rfl
    · rename_i absent
      exact Members.get?_eq_none_iff.2 absent
  rw [cleared, Option.or_none]

/-! ## Two ways to the closed set -/

/-- A symbol has the width that the map gives it, or else the one that it has unless a document says
otherwise; and no other key has one. -/
lemma isFullwidth?_canonical_eq_map (m : SymbolWidth) (key : String) :
    m.canonical.isFullwidth? key = (standardWidth? key).map (m.isFullwidth? key).getD := by
  rw [isFullwidth?_canonical]
  cases standardWidth? key with
  | none => rfl
  | some width => cases m.isFullwidth? key <;> rfl

/-- Through the entries of the map: these are the symbols, each with its width. -/
lemma entries_canonical_perm (m : SymbolWidth) : m.canonical.entries.Perm
    (symbols.map fun symbol => (symbol.1, (m.isFullwidth? symbol.1).getD symbol.2)) := by
  have distinct : (symbols.map fun symbol =>
      (symbol.1, (m.isFullwidth? symbol.1).getD symbol.2)).Nodup := by
    refine .of_map Prod.fst ?_
    rw [List.map_map]
    exact nodup_symbols
  refine (List.perm_ext_iff_of_nodup (.of_map _ m.canonical.nodup_keys) distinct).2 ?_
  rintro ⟨key, fullwidth⟩
  rw [mem_entries_iff, isFullwidth?_canonical_eq_map, Option.map_eq_some_iff, List.mem_map]
  constructor
  · rintro ⟨width, found, same⟩
    exact ⟨(key, width), standardWidth?_eq_some_iff.1 found, congrArg (Prod.mk key) same⟩
  · rintro ⟨⟨other, width⟩, mem, same⟩
    cases same
    exact ⟨width, standardWidth?_eq_some_iff.2 mem, rfl⟩

/-- A map under what another one is written as: a symbol has the width that the other one gives it, or
else the one that it had. -/
lemma isFullwidth?_overlay_encode (base m : SymbolWidth) (key : String) :
    (base.overlay m.encode).isFullwidth? key =
      if (standardWidth? key).isSome then (base.isFullwidth? key).map (m.isFullwidth? key).getD
      else base.isFullwidth? key := by
  have written : Patch.flag (m.entries.map fun entry => (entry.1, .bool entry.2)) key =
      (m.isFullwidth? key).getD := by
    funext current
    rw [Patch.flag_eq, Members.get?_map, isFullwidth?]
    cases m.entries.get? key <;> rfl
  rw [encode, isFullwidth?_overlay]
  exact if_congr Iff.rfl (congrArg (Option.map · (base.isFullwidth? key)) written) rfl

/-- Through the symbols: a map that stands in a document as it is is read as its canonical form. -/
lemma normalize_encode_eq_canonical (m : SymbolWidth) : normalize (some m.encode) = m.canonical := by
  refine ext_isFullwidth? fun key => ?_
  rw [normalize, Option.getD_some, isFullwidth?_overlay_encode, isFullwidth?_standard,
    isFullwidth?_canonical_eq_map]
  cases standardWidth? key <;> rfl

/-! ## The closed set restored -/

/-- What it means for the closed set to be restored in a map. -/
structure Restored (m : SymbolWidth) : Prop where
  /-- What is kept has the symbols and nothing else, each with the width that the map gives it or else
  the one that it has unless a document says otherwise. -/
  entries : m.canonical.entries.Perm
    (symbols.map fun symbol => (symbol.1, (m.isFullwidth? symbol.1).getD symbol.2))
  again : m.canonical.canonical = m.canonical
  read : normalize (some m.encode) = m.canonical

lemma restored (m : SymbolWidth) : Restored m where
  entries := entries_canonical_perm m
  again := canonical_of_closed (keys_canonical m)
  read := normalize_encode_eq_canonical m

/-- Maps come of each other by changes, so that an edit may end with any map, and of the changes that are
about a key the last one says what is under it.  In each of these maps the closed set is restored.  What
an edit settles on that makes the changes is the map with the closed set restored, and that is also what
is read where the map is put into the document as it is. -/
theorem restored_changed :
    (∀ start m : SymbolWidth, ∃ changes, start.changed changes = m) ∧
    (∀ (start : SymbolWidth) (changes : List Change),
      (∀ key, (start.changed changes).isFullwidth? key =
        (Change.lastLeaves? key changes).getD (start.isFullwidth? key)) ∧
      Restored (start.changed changes)) ∧
    ∀ (document : Document) (changes : List Change),
      let m := (document.read .symbolWidth).changed changes
      document.edit .symbolWidth (fun current => .settled (current.changed changes)) =
          .settled m.canonical ∧
        (document.write .symbolWidth m.canonical).read .symbolWidth = m.canonical ∧
        (document.put .symbolWidth m.encode).read .symbolWidth = m.canonical := by
  refine ⟨exists_changed_eq, fun start changes => ?_, fun document changes => ?_⟩
  · exact ⟨isFullwidth?_changed start changes, restored _⟩
  · intro m
    have read (written : SymbolWidth) :
        (document.put .symbolWidth written.encode).read .symbolWidth = written.canonical := by
      rw [Document.read, Document.slice?_put_self]
      exact normalize_encode_eq_canonical written
    exact ⟨rfl, (read m.canonical).trans (restored m).again, read m⟩

/-- A symbol is taken out that is full width unless a document says otherwise, one is set, and keys that
only look like symbols are put in and set. -/
example : (standard.changed [.erase "!", .insert "！" false, .set "～" false, .set "~" false]).canonical =
    standard.insert "~" false := by decide +kernel

end KanaSettings.SymbolWidth
