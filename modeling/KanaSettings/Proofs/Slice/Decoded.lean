import KanaSettings.Proofs.Slice.Stable

/-!
# Two decoders

A typed value is decoded strictly, and a document is read leniently.  The names of fields and choices
are spelled out for each of the two, so a name that they did not share would lose a setting.
-/

namespace KanaSettings

/-! ## The names of choices -/

namespace Choice

variable {α : Type} [Choice α] {decode? : Json → Option α}

/-- A strict decoder of a closed set goes by the names that the set has elsewhere. -/
structure Shares (decode? : Json → Option α) : Prop where
  offered : ∀ choice : α, choice ∈ (all : List α)
  /-- A text is decoded as the choice that bears it as its name. -/
  strict : ∀ text choice, decode? (.string text) = some choice ↔ text = name choice
  lenient : ∀ text (choice : α), ofName? text = some choice ↔ text = name choice

/-- It is enough that each choice is decoded from its name, and that nothing is decoded as a choice but
what has its name. -/
lemma Shares.of_name [LawfulChoice α]
    (known : ∀ choice, decode? (.string (name choice)) = some choice)
    (only : ∀ {value choice}, decode? value = some choice → value.variantName? = some (name choice)) :
    Shares decode? where
  offered choice := List.mem_of_find?_eq_some (LawfulChoice.ofName?_name choice)
  strict text choice := by
    refine ⟨fun decoded => Option.some.inj (only decoded), ?_⟩
    rintro rfl
    exact known choice
  lenient _ _ := ofName?_eq_some_iff

lemma Shares.decode?_encode (shares : Shares decode?) (choice : α) :
    decode? (encode choice) = some choice :=
  (shares.strict _ _).2 rfl

end Choice

/-- All closed sets of the slices have one name for each choice, whoever asks. -/
structure Slice.SharedNames : Prop where
  punctuationStyle : Choice.Shares PunctuationStyle.decode?
  symbolStyle : Choice.Shares SymbolStyle.decode?
  spaceInput : Choice.Shares SpaceInput.decode?
  numpadInput : Choice.Shares NumpadInput.decode?
  backend : Choice.Shares Backend.decode?
  widthMode : Choice.Shares WidthMode.decode?
  widthGroup : Choice.Shares WidthGroup.decode?

lemma Slice.sharedNames : SharedNames := by
  constructor <;> refine .of_name (fun choice => by cases choice <;> rfl) fun decoded => ?_
  all_goals
    simp only [PunctuationStyle.decode?, SymbolStyle.decode?, SpaceInput.decode?,
      NumpadInput.decode?, Backend.decode?, WidthMode.decode?, WidthGroup.decode?] at decoded
    split at decoded <;> cases decoded <;> assumption

/-! ## Records -/

open Slice (sharedNames)

/-- Of an object with the fields of a record and no others, the record has the values. -/
lemma Json.record?_object {keys : List String} {members : Members Json} (same : members.keys = keys)
    (distinct : keys.Nodup) : record? keys (.object members) = some (members.map Prod.snd) := by
  subst same
  have each : ∀ part : Members Json, (∀ m ∈ part, m ∈ members) →
      part.keys.mapM (Members.get? members) = some (part.map Prod.snd) := by
    intro part
    induction part with
    | nil => exact fun _ => rfl
    | cons m part ih =>
      intro among
      obtain ⟨first, others⟩ := List.forall_mem_cons.1 among
      have found : Members.get? members m.1 = some m.2 := (Members.get?_eq_some_iff distinct).2 first
      simp [found, ih others]
  exact each members fun m mem => mem

lemma Shortcuts.decode?_encode (value : Shortcuts) : decode? value.encode = some value := by
  rw [decode?, encode, Json.record?_object (by rfl) (by decide)]
  rfl

lemma General.decode?_encode (value : General) : decode? value.encode = some value := by
  rw [decode?, encode, Json.record?_object (by rfl) (by decide)]
  simp [sharedNames.punctuationStyle.decode?_encode, sharedNames.symbolStyle.decode?_encode,
    sharedNames.spaceInput.decode?_encode, sharedNames.numpadInput.decode?_encode]

lemma Zenzai.decode?_encode (value : Zenzai) : decode? value.encode = some value := by
  rw [decode?, encode, Json.record?_object (by rfl) (by decide)]
  simp [Json.bool?, Json.text?, sharedNames.backend.decode?_encode]

lemma WidthGroups.decode?_encode (value : WidthGroups) : decode? value.encode = some value := by
  rw [decode?, encode, Json.record?_object (by rfl) (by decide)]
  simp [sharedNames.widthMode.decode?_encode]

/-! ## Maps and rows -/

lemma SymbolWidth.ofPairs_entries (m : SymbolWidth) : ofPairs m.entries = m := by
  refine ext_isFullwidth? fun key => ?_
  rw [ofPairs, isFullwidth?_foldl_insert m.entries m.nodup_keys, isFullwidth?_empty, Option.or_none]
  rfl

lemma SymbolWidth.decode?_encode (m : SymbolWidth) : decode? m.encode = some m := by
  simp only [encode, decode?, Json.members?, Option.bind_eq_bind, Option.bind_some, Option.pure_def]
  rw [Rows.mapM_map_eq_some ?_ m.entries, Option.bind_some, ofPairs_entries]
  rintro ⟨key, fullwidth⟩
  rfl

lemma RomajiRule.decode?_encode (rule : RomajiRule) : decode? rule.encode = some rule := by
  rw [decode?, encode, Json.record?_object (by rfl) (by decide)]
  rfl

lemma DictionaryEntry.decode?_encode (entry : DictionaryEntry) :
    decode? entry.encode = some entry := by
  rw [decode?, encode, Json.record?_object (by rfl) (by decide)]
  rfl

/-! ## Every slice -/

namespace Slice

lemma decode?_encode (name : SliceName) (value : name.Value) :
    decode? name (encode name value) = some value := by
  cases name with
  | shortcuts => exact Shortcuts.decode?_encode value
  | general => exact General.decode?_encode value
  | zenzai => exact Zenzai.decode?_encode value
  | symbolWidth => exact SymbolWidth.decode?_encode value
  | widthGroups => exact WidthGroups.decode?_encode value
  | romajiTable => exact Rows.mapM_map_eq_some RomajiRule.decode?_encode value
  | userDictionary => exact Rows.mapM_map_eq_some DictionaryEntry.decode?_encode value

/-- What a value is written as is that value again, decoded strictly as well as read leniently from a
document; a map of widths is read again if it is its own canonical form, and the values of the other
slices always are.  For each choice both go by the one name that the set offers it under. -/
theorem decoders_agree :
    (∀ (name : SliceName) (value : name.Value),
      decode? name (encode name value) = some value ∧
        (Closed name value → normalize name (some (encode name value)) = value)) ∧
    (∀ m : SymbolWidth, Closed .symbolWidth m ↔ m.canonical = m) ∧
    (∀ name ≠ .symbolWidth, ∀ value : name.Value, Closed name value) ∧
    SharedNames := by
  refine ⟨fun name value => ⟨decode?_encode name value, normalize_encode⟩, fun m => ?_, ?_, sharedNames⟩
  · exact ⟨SymbolWidth.canonical_of_closed, fun same => same ▸ SymbolWidth.keys_canonical m⟩
  · intro name other value
    cases name with
    | symbolWidth => exact absurd rfl other
    | _ => trivial

/-- One symbol has another width than unless a document says otherwise. -/
theorem decoders_agree_exclamation :
    let m := (SymbolWidth.empty.insert "!" false).canonical
    m.isFullwidth? "!" = some false ∧ Closed .symbolWidth m ∧
      decode? .symbolWidth (encode .symbolWidth m) = some m ∧
      normalize .symbolWidth (some (encode .symbolWidth m)) = m := by
  intro m
  have closed : Closed .symbolWidth m := SymbolWidth.keys_canonical _
  obtain ⟨decoded, read⟩ := decoders_agree.1 .symbolWidth m
  refine ⟨?_, closed, decoded, read closed⟩
  rw [SymbolWidth.isFullwidth?_canonical, SymbolWidth.isFullwidth?_insert]
  rfl

end Slice

end KanaSettings
