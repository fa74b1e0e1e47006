import KanaSettings.Proofs.Editor.Refusal
import KanaSettings.Proofs.Editor.Settled
import KanaSettings.Proofs.Slice.Restored

/-!
# Three ways to store a whole value

A value can be put in the place of a slice, a change can settle on it, and what it is written as can be
handed in as a patch.  It comes to the same, but for maps of widths: a patch takes nothing away, so one
that lacks a symbol says nothing of it.
-/

namespace KanaSettings

/-! ## What a value is written as, laid over another -/

namespace SymbolWidth

variable {base m : SymbolWidth}

/-- The widths of symbols that a map is written as overwrite those of any other, and widths of what
is no symbol are lost in the canonical form as they are in a patch. -/
lemma overlay_encode_of_covers (closed : Slice.Closed .symbolWidth base)
    (covers : ∀ key, (standardWidth? key).isSome → (m.isFullwidth? key).isSome) :
    base.overlay m.encode = m.canonical := by
  refine ext_isFullwidth? fun key => ?_
  have same := closed_iff.1 closed key
  rw [isFullwidth?_overlay_encode, isFullwidth?_canonical]
  by_cases known : (standardWidth? key).isSome
  · rw [if_pos known, if_pos known]
    obtain ⟨old, current⟩ := Option.isSome_iff_exists.1 (same.2 known)
    obtain ⟨new, own⟩ := Option.isSome_iff_exists.1 (covers key known)
    rw [current, own, Option.map_some, Option.getD_some, Option.some_or]
  · rw [if_neg known, if_neg known]
    exact Option.not_isSome_iff_eq_none.1 (mt same.1 known)

end SymbolWidth

namespace Rows.Form

/-- Rows that are written are taken when they are handed in. -/
lemma ofInput_map {α : Type} (form : Form α) (encode : α → Json)
    (written : ∀ row, form.row? (encode row) = some row) (rows : List α) :
    ofInput form.what form.row? (.array (rows.map encode)) = .ok rows := by
  refine (form.agrees.accepts _ _).2 ⟨?_, (Rows.filterMap_map_eq written rows).symm⟩
  intro item mem
  obtain ⟨row, -, rfl⟩ := List.mem_map.1 mem
  exact ⟨row, form.row?_eq_some_iff.1 (written row)⟩

end Rows.Form

namespace Slice

variable {name : SliceName}

/-- A value has at least the fields of its slice.  Only a map of widths could lack some. -/
def Covers : (name : SliceName) → name.Value → Prop
  | .symbolWidth, m => ∀ symbol ∈ SymbolWidth.symbols, symbol.1 ∈ m.entries.keys
  | _, _ => True

instance : (name : SliceName) → DecidablePred (Covers name)
  | .symbolWidth => fun m =>
    inferInstanceAs (Decidable (∀ symbol ∈ SymbolWidth.symbols, symbol.1 ∈ m.entries.keys))
  | .shortcuts | .general | .zenzai | .widthGroups | .romajiTable | .userDictionary => fun _ =>
    inferInstanceAs (Decidable True)

lemma covers_of_closed {value : name.Value} (closed : Closed name value) : Covers name value := by
  cases name with
  | symbolWidth => exact fun symbol mem => closed.mem_iff.2 (List.mem_map_of_mem mem)
  | _ => trivial

/-- What a value is written as leads from any other value to that one, as far as the check can
tell. -/
lemma patch_encode_bind_prepare {base value : name.Value} (closed : Closed name base)
    (covers : Covers name value) :
    (patch name base (encode name value)).bind (prepare name) = prepare name value := by
  cases name with
  | romajiTable =>
    have taken : RomajiTable.ofInput (RomajiTable.encode value) = .ok value :=
      RomajiTable.form.ofInput_map RomajiRule.encode RomajiRule.ofRow?_encode value
    simp only [patch, encode, taken, Except.bind]
  | userDictionary =>
    have taken : UserDictionary.ofInput (UserDictionary.encode value) = .ok value :=
      UserDictionary.form.ofInput_map DictionaryEntry.encode DictionaryEntry.ofRow?_encode value
    simp only [patch, encode, taken, Except.bind]
  | symbolWidth =>
    have covers' : ∀ key, (SymbolWidth.standardWidth? key).isSome →
        (value.isFullwidth? key).isSome := by
      intro key known
      obtain ⟨symbol, mem, rfl⟩ := List.mem_map.1 (SymbolWidth.isSome_standardWidth?_iff.1 known)
      exact SymbolWidth.isSome_isFullwidth?_iff.2 (covers symbol mem)
    -- The patch sets every symbol there is, so nothing of the base is left.
    have laid := SymbolWidth.overlay_encode_of_covers closed covers'
    have again : value.canonical.canonical = value.canonical :=
      SymbolWidth.canonical_of_closed (SymbolWidth.keys_canonical value)
    exact (congrArg (fun m : SymbolWidth => Except.ok m.canonical) laid).trans
      (congrArg Except.ok again)
  | shortcuts | general | zenzai | widthGroups =>
    exact congrArg Except.ok (overlay_encode rfl closed trivial)

/-- A map that lacks symbols says nothing of them in a patch. -/
example : (patch .symbolWidth (SymbolWidth.standard.insert "0" true) SymbolWidth.empty.encode).bind
    (prepare .symbolWidth) ≠ prepare .symbolWidth .empty := by decide +kernel

end Slice

/-! ## Calls -/

/-- Calls that put a value in the place of a slice, whatever the slice was. -/
inductive Call.Assigns (name : SliceName) (value : name.Value) : Call → Prop
  | replace : Assigns name value (.replace name value)
  | edit {change : name.Value → Outcome name.Value}
      (settles : ∀ current, change current = .settled value) :
      Assigns name value (.edit name change)
  | patch : Assigns name value (.patch name (Slice.encode name value))

namespace Call.Assigns

variable {name : SliceName} {value : name.Value} {call : Call} (assigns : call.Assigns name value)
  (covers : Slice.Covers name value)
include assigns covers

/-- Each of these calls is an edit of the slice that comes to the check of the value. -/
lemma exists_edit_eq : ∃ change, call = .edit name change ∧
    ∀ document : Document, document.edit name change = .ofExcept (Slice.prepare name value) := by
  cases assigns with
  | replace => exact ⟨_, rfl, fun document => rfl⟩
  | edit settles => exact ⟨_, rfl, fun document => by rw [Document.edit, settles]⟩
  | patch =>
    refine ⟨_, rfl, fun document => ?_⟩
    rw [document.edit_ofExcept]
    exact congrArg Outcome.ofExcept
      (Slice.patch_encode_bind_prepare (Slice.closed_normalize name _) covers)

section

variable {σ : Type} {store : Store σ} {document : Document} {state between : σ}
  (fetch : store.fetch state = (.ok document, between))
include fetch

lemma attempt_of_error {objections : List Objection}
    (refused : Slice.prepare name value = .error objections) :
    store.attempt call state = (.error (.rejected objections), between) := by
  obtain ⟨change, rfl, edit⟩ := assigns.exists_edit_eq covers
  simp only [Store.attempt, fetch, edit, refused, Outcome.ofExcept]

/-- The value is stored and returned in the form that is kept. -/
lemma attempt_of_ok {kept : name.Value} {next : σ} (accepted : Slice.prepare name value = .ok kept)
    (replace : store.replace (document.write name kept) between = (.ok (), next)) :
    store.attempt call state = (.ok (.value name kept), next) := by
  obtain ⟨change, rfl, edit⟩ := assigns.exists_edit_eq covers
  simp only [Store.attempt, fetch, edit, accepted, Outcome.ofExcept, replace]

end

end Call.Assigns

namespace Store

variable {σ : Type} {store : Store σ} {state : σ}

/-- A store cannot tell edits apart that come to the same in every document. -/
lemma attempt_congr {name : SliceName} {change other : name.Value → Outcome name.Value}
    (same : ∀ document : Document, document.edit name change = document.edit name other) :
    store.attempt (.edit name change) state = store.attempt (.edit name other) state := by
  unfold attempt
  split
  · rfl
  · rename_i document between fetch
    simp only [same document, EditError.ofCrash, Call.label]

/-- To hand in a value, to change the slice to it, and to hand in what it is written as: each of them
gives the same answer and leaves the store in the same state as the others, whatever the store does and
whatever it holds.  Where the document can be fetched, all that is wrong with the value is said and
nothing is stored; or else the value is stored in the form that is kept, and returned in it.  So a
record that is handed in as it was looked at is accepted, and is read as it was. -/
theorem assignments_agree (store : Store σ) (name : SliceName) (state : σ) :
    (∀ (value : name.Value) (call other : Call), Slice.Covers name value →
      call.Assigns name value → other.Assigns name value →
        store.attempt call state = store.attempt other state) ∧
    ∀ document between, store.fetch state = (.ok document, between) →
      (∀ (value : name.Value) (call : Call), Slice.Covers name value → call.Assigns name value →
        (∀ objections, Slice.prepare name value = .error objections →
          store.attempt call state = (.error (.rejected objections), between)) ∧
        ∀ kept next, Slice.prepare name value = .ok kept →
          store.replace (document.write name kept) between = (.ok (), next) →
            store.attempt call state = (.ok (.value name kept), next)) ∧
      (name.isSequence = false → ∀ next,
        store.replace (document.write name (document.read name)) between = (.ok (), next) →
          store.attempt (.patch name (document.canonical name)) state =
              (.ok (.value name (document.read name)), next) ∧
            (document.write name (document.read name)).Settled name (document.read name)) := by
  refine ⟨?_, fun document between fetch => ⟨?_, ?_⟩⟩
  · intro value call other covers assigns assigns'
    obtain ⟨change, rfl, edit⟩ := assigns.exists_edit_eq covers
    obtain ⟨change', rfl, edit'⟩ := assigns'.exists_edit_eq covers
    exact attempt_congr fun document => (edit document).trans (edit' document).symm
  · intro value call covers assigns
    exact ⟨fun _ => assigns.attempt_of_error covers fetch,
      fun _ _ => assigns.attempt_of_ok covers fetch⟩
  · -- What was looked at is what the value is written as, and a value that was read is accepted.
    intro record next replace
    have closed := Slice.closed_normalize name (document.slice? name)
    have accepted : Slice.prepare name (document.read name) = .ok (document.read name) :=
      Slice.prepare_of_closed record closed
    have assigns : (Call.patch name (document.canonical name)).Assigns name (document.read name) :=
      .patch
    exact ⟨assigns.attempt_of_ok (Slice.covers_of_closed closed) fetch accepted replace,
      document.settled_write accepted⟩

/-- Widths that are set for a letter too, which is no symbol, over widths that are no object: the
letter is dropped, whichever way the widths are handed in.  A dictionary with a pair twice is refused in
the same words. -/
theorem assignments_agree_letter :
    let memory := Memory.ofDocument ⟨[("character_width", .object [("symbol_fullwidth", .null)])]⟩
    let widths := SymbolWidth.standard.insert "A" true
    let entries : List DictionaryEntry := [⟨"a", "b"⟩, ⟨" a", "b"⟩]
    (Memory.store.attempt (.patch .symbolWidth widths.encode) memory).1 =
        .ok (.value .symbolWidth .standard) ∧
      Memory.store.attempt (.patch .symbolWidth widths.encode) memory =
        Memory.store.attempt (.replace .symbolWidth widths) memory ∧
      Memory.store.attempt (.patch .userDictionary (UserDictionary.encode entries)) memory =
        (.error (.rejected [.duplicate 0 1]), memory) := by
  intro memory widths entries
  have covers : Slice.Covers .symbolWidth widths := by decide +kernel
  have accepted : Slice.prepare .symbolWidth widths = .ok .standard := by decide +kernel
  have refused : Slice.prepare .userDictionary entries = .error [.duplicate 0 1] := by decide
  obtain ⟨agree, outcome⟩ := assignments_agree Memory.store .symbolWidth memory
  refine ⟨?_, agree _ _ _ covers .patch .replace, ?_⟩
  · exact congrArg Prod.fst (((outcome _ _ rfl).1 widths _ covers .patch).2 _ _ accepted rfl)
  · have outcome' := (assignments_agree Memory.store .userDictionary memory).2 _ _ rfl
    exact (outcome'.1 entries _ trivial .patch).1 _ refused

end Store

end KanaSettings
