import KanaSettings.Slice
import KanaSettings.Proofs.Slice.Symbols
import KanaSettings.Proofs.Slice.Valid

/-!
# Slices as records of fields

Five slices are records.  What is true of patches, of stored values and of defaults is true field by
field, and it is the same for a truth value, a text, a choice and the width of a symbol.  So the
fields of each record are listed here with what they are called, what they may be and what is
understood in a document, and the functions on records are told by what they do to a field.
-/

namespace KanaSettings

/-! ## Choices -/

/-- A closed set in which every choice is found under its name. -/
class LawfulChoice (α : Type) [Choice α] : Prop where
  ofName?_name : ∀ a : α, Choice.ofName? (Choice.name a) = some a

attribute [simp] LawfulChoice.ofName?_name

instance : LawfulChoice SliceName := ⟨by intro a; cases a <;> decide⟩
instance : LawfulChoice PunctuationStyle := ⟨by intro a; cases a <;> decide⟩
instance : LawfulChoice SymbolStyle := ⟨by intro a; cases a <;> decide⟩
instance : LawfulChoice SpaceInput := ⟨by intro a; cases a <;> decide⟩
instance : LawfulChoice NumpadInput := ⟨by intro a; cases a <;> decide⟩
instance : LawfulChoice Backend := ⟨by intro a; cases a <;> decide⟩
instance : LawfulChoice WidthMode := ⟨by intro a; cases a <;> decide⟩
instance : LawfulChoice WidthGroup := ⟨by intro a; cases a <;> decide⟩

lemma Choice.name_injective {α : Type} [Choice α] [LawfulChoice α] :
    Function.Injective (name : α → String) := by
  intro a b same
  have found := LawfulChoice.ofName?_name a
  rw [same, LawfulChoice.ofName?_name] at found
  exact (Option.some.inj found).symm

/-- A choice is found under its name, and under no other. -/
lemma Choice.ofName?_eq_some_iff {α : Type} [Choice α] [LawfulChoice α] {text : String} {choice : α} :
    ofName? text = some choice ↔ text = name choice := by
  constructor
  · intro found
    simpa [eq_comm] using List.find?_some found
  · rintro rfl
    exact LawfulChoice.ofName?_name choice

/-! ## Fields -/

/-- A field of records of a type. -/
structure Field (α : Type) where
  key : String
  Content : Type
  get : α → Content
  /-- What is meant by a JSON value under its name, if that is accepted there. -/
  read? : Json → Option Content
  write : Content → Json
  read?_write : ∀ content, read? (write content) = some content

namespace Field

variable {α β : Type}

/-- A field that is a truth value. -/
def flag (key : String) (get : α → Bool) : Field α :=
  ⟨key, Bool, get, Json.bool?, .bool, fun _ => rfl⟩

/-- A field that is a text. -/
def text (key : String) (get : α → String) : Field α :=
  ⟨key, String, get, Json.text?, .string, fun _ => rfl⟩

/-- A field that is one of a closed set. -/
def choice [Choice β] [LawfulChoice β] (key : String) (get : α → β) : Field α :=
  ⟨key, β, get, fun value => value.text?.bind Choice.ofName?, Choice.encode,
    LawfulChoice.ofName?_name⟩

/-- The width of the space, for which older documents have a name of their own. -/
def space (key : String) (get : α → SpaceInput) : Field α where
  key := key
  Content := SpaceInput
  get := get
  read? value := value.text?.bind fun text =>
    if text = "follow" then some .followInputMode else Choice.ofName? text
  write := Choice.encode
  read?_write content := by cases content <;> decide

/-- What a patch sets the field to, if it has something under the name of the field that is accepted
there. -/
def offered? (field : Field α) (patch : Members Json) : Option field.Content :=
  (patch.get? field.key).bind field.read?

end Field

namespace Slice

/-- The keys of symbols in ascending order. -/
def symbolKeys : List String :=
  (SymbolWidth.symbols.map Prod.fst).mergeSort fun one other => one ≤ other

/-- The fields of a slice that is a record, in the order in which they are written. -/
def fields : (name : SliceName) → List (Field name.Value)
  | .shortcuts =>
    [.flag "ctrl_space_toggle" Shortcuts.ctrlSpaceToggle,
      .flag "alt_backquote_toggle" Shortcuts.altBackquoteToggle]
  | .general =>
    [.choice "punctuation_style" General.punctuationStyle,
      .choice "symbol_style" General.symbolStyle,
      .space "space_input" General.spaceInput,
      .choice "numpad_input" General.numpadInput]
  | .zenzai =>
    [.flag "enable" Zenzai.enable, .text "profile" Zenzai.profile,
      .choice "backend" Zenzai.backend]
  | .symbolWidth => symbolKeys.map fun key => .flag key fun m => (m.isFullwidth? key).getD false
  | .widthGroups =>
    [.choice "alphabet" WidthGroups.alphabet,
      .choice "number" WidthGroups.number,
      .choice "bracket" WidthGroups.bracket,
      .choice "comma_period" WidthGroups.commaPeriod,
      .choice "middle_dot_corner_bracket" WidthGroups.middleDotCornerBracket,
      .choice "quote" WidthGroups.quote,
      .choice "colon_semicolon" WidthGroups.colonSemicolon,
      .choice "hash_group" WidthGroups.hashGroup,
      .choice "tilde" WidthGroups.tilde,
      .choice "math_symbol" WidthGroups.mathSymbol,
      .choice "question_exclamation" WidthGroups.questionExclamation]
  | .romajiTable | .userDictionary => []

/-- The value of a slice that is a record unless a document says otherwise. -/
def standard : (name : SliceName) → name.Value
  | .shortcuts => Shortcuts.standard
  | .general => General.standard
  | .zenzai => Zenzai.standard
  | .symbolWidth => SymbolWidth.standard
  | .widthGroups => WidthGroups.standard
  | .romajiTable => RomajiTable.bundled
  | .userDictionary => []

/-- A record under a patch.  A sequence is not patched. -/
def overlay : (name : SliceName) → name.Value → Json → name.Value
  | .shortcuts, base, raw => base.overlay raw
  | .general, base, raw => base.overlay raw
  | .zenzai, base, raw => base.overlay raw
  | .symbolWidth, base, raw => base.overlay raw
  | .widthGroups, base, raw => base.overlay raw
  | .romajiTable, rules, _ => rules
  | .userDictionary, entries, _ => entries

/-- A value has exactly the fields of its slice.  Only a map of widths could have others. -/
def Closed : (name : SliceName) → name.Value → Prop
  | .symbolWidth, m => m.entries.keys.Perm (SymbolWidth.symbols.map Prod.fst)
  | _, _ => True

end Slice

/-! ## Maps of widths over the closed set -/

namespace SymbolWidth

variable {m : SymbolWidth} {key : String}

lemma mem_symbolKeys_iff : key ∈ Slice.symbolKeys ↔ (standardWidth? key).isSome := by
  rw [isSome_standardWidth?_iff, Slice.symbolKeys, List.mem_mergeSort]

lemma closed_iff : Slice.Closed .symbolWidth m ↔
    ∀ key, (m.isFullwidth? key).isSome ↔ (standardWidth? key).isSome :=
  keys_perm_iff

lemma closed_standard : Slice.Closed .symbolWidth standard := keys_standard

lemma closed_overlay (closed : Slice.Closed .symbolWidth m) (raw : Json) :
    Slice.Closed .symbolWidth (m.overlay raw) := by
  cases raw with
  | object patch =>
    rw [closed_iff] at closed ⊢
    intro key
    rw [isFullwidth?_overlay]
    split <;> simp [closed key]
  | _ => exact closed

lemma canonical_of_closed (closed : Slice.Closed .symbolWidth m) : m.canonical = m := by
  refine ext_isFullwidth? fun key => ?_
  have known := closed_iff.1 closed key
  rw [isFullwidth?_canonical]
  cases found : m.isFullwidth? key <;> simp_all

lemma keys_eq_symbolKeys (closed : Slice.Closed .symbolWidth m) :
    m.entries.keys = Slice.symbolKeys := by
  have le : ∀ {a b : String}, a < b → decide (a ≤ b) = true := by
    intro a b lt
    exact decide_eq_true (String.not_lt.1 fun gt => String.lt_irrefl _ (String.lt_trans lt gt))
  refine (closed.trans (List.mergeSort_perm _ _).symm).eq_of_pairwise ?_
    (List.pairwise_map.2 (m.ascending.imp le)) (List.pairwise_mergeSort ?_ ?_ _)
  · intro a b _ _ h h'
    exact String.le_antisymm (by simpa using h) (by simpa using h')
  · intro a b c h h'
    simpa using String.le_trans (by simpa using h) (by simpa using h')
  · intro a b
    simpa using String.le_total a b

lemma ascending_symbolKeys : Slice.symbolKeys.Pairwise (· < ·) := by
  rw [← keys_eq_symbolKeys closed_standard]
  exact List.pairwise_map.2 standard.ascending

/-- Every width of a map over the closed set is written under its key. -/
lemma entries_eq (closed : Slice.Closed .symbolWidth m) :
    m.entries = Slice.symbolKeys.map fun key => (key, (m.isFullwidth? key).getD false) := by
  rw [← keys_eq_symbolKeys closed, Members.keys, List.map_map]
  refine (List.map_id _).symm.trans (List.map_congr_left fun entry mem => ?_)
  obtain ⟨key, fullwidth⟩ := entry
  have found : m.isFullwidth? key = some fullwidth := mem_entries_iff.1 mem
  simp [found]

/-- Maps over the closed set are the same if they give every symbol the same width. -/
lemma ext_of_closed {m' : SymbolWidth} (closed : Slice.Closed .symbolWidth m)
    (closed' : Slice.Closed .symbolWidth m')
    (same : ∀ key ∈ Slice.symbolKeys,
      (m.isFullwidth? key).getD false = (m'.isFullwidth? key).getD false) : m = m' := by
  have entries : m.entries = m'.entries := by
    rw [entries_eq closed, entries_eq closed']
    exact List.map_congr_left fun key mem => by rw [same key mem]
  cases m
  cases m'
  cases entries
  rfl

end SymbolWidth

/-! ## Widths of groups -/

namespace WidthGroups

lemma get_foldl_set (width : WidthGroup → WidthMode → WidthMode) (groups : List WidthGroup)
    (distinct : groups.Nodup) (g : WidthGroups) (group : WidthGroup) :
    (groups.foldl (fun g group => g.set group (width group (g.get group))) g).get group =
      if group ∈ groups then width group (g.get group) else g.get group := by
  induction groups generalizing g with
  | nil => simp
  | cons first groups ih =>
    obtain ⟨new, distinct⟩ := List.nodup_cons.1 distinct
    rw [List.foldl_cons, ih distinct, get_set]
    by_cases h : first = group
    · subst h
      simp [new]
    · simp [h, Ne.symm h]

lemma get_overlay (base : WidthGroups) (patch : Members Json) (group : WidthGroup) :
    (base.overlay (.object patch)).get group =
      Patch.choice patch (Choice.name group) Choice.ofName? (base.get group) := by
  have all : group ∈ (Choice.all : List WidthGroup) := by cases group <;> decide
  have fold := get_foldl_set (fun group => Patch.choice patch (Choice.name group) Choice.ofName?)
    Choice.all (by decide) base group
  rw [if_pos all] at fold
  exact fold

end WidthGroups

/-! ## Patches, field by field -/

namespace Patch

variable (patch : Members Json) (key : String)

lemma flag_eq (current : Bool) :
    flag patch key current = ((patch.get? key).bind Json.bool?).getD current := by
  unfold flag
  cases patch.get? key with
  | none => rfl
  | some value => cases value <;> rfl

lemma text_eq (current : String) :
    text patch key current = ((patch.get? key).bind Json.text?).getD current := by
  unfold text
  cases patch.get? key with
  | none => rfl
  | some value => cases value <;> rfl

lemma choice_eq {α : Type} (ofName? : String → Option α) (current : α) :
    choice patch key ofName? current =
      ((patch.get? key).bind fun value => value.text?.bind ofName?).getD current := by
  unfold choice
  cases patch.get? key with
  | none => rfl
  | some value => cases value <;> rfl

end Patch

lemma SpaceInput.ofStoredName?_eq (text : String) :
    ofStoredName? text = if text = "follow" then some .followInputMode else Choice.ofName? text := by
  have foreign : (Choice.ofName? "follow" : Option SpaceInput) = none := by decide
  unfold ofStoredName? ofOldName?
  split
  · rename_i old
    rw [old, foreign, Option.none_or]
  · rw [Option.or_none]

namespace Slice

variable {name : SliceName}

/-- A field of a record under a patch is what the patch sets it to, or else what it was. -/
theorem get_overlay {base : name.Value} (closed : Closed name base) (patch : Members Json) :
    ∀ field ∈ fields name,
      field.get (overlay name base (.object patch)) =
        (field.offered? patch).getD (field.get base) := by
  cases name with
  | shortcuts =>
    simp only [fields, List.forall_mem_cons]
    exact ⟨Patch.flag_eq .., Patch.flag_eq .., List.forall_mem_nil _⟩
  | general =>
    have space := Patch.choice_eq patch "space_input" SpaceInput.ofStoredName? base.spaceInput
    simp only [SpaceInput.ofStoredName?_eq] at space
    simp only [fields, List.forall_mem_cons]
    exact ⟨Patch.choice_eq .., Patch.choice_eq .., space, Patch.choice_eq .., List.forall_mem_nil _⟩
  | zenzai =>
    simp only [fields, List.forall_mem_cons]
    exact ⟨Patch.flag_eq .., Patch.text_eq .., Patch.choice_eq .., List.forall_mem_nil _⟩
  | symbolWidth =>
    intro field mem
    obtain ⟨key, symbol, rfl⟩ := List.mem_map.1 mem
    have known := SymbolWidth.mem_symbolKeys_iff.1 symbol
    obtain ⟨fullwidth, found⟩ :=
      Option.isSome_iff_exists.1 ((SymbolWidth.closed_iff.1 closed key).2 known)
    have changed := SymbolWidth.isFullwidth?_overlay base patch key
    rw [if_pos known, found, Option.map_some] at changed
    -- The result is given a name so that nothing computes it.
    generalize out : overlay .symbolWidth base (.object patch) = m
    rw [show base.overlay (.object patch) = m from out] at changed
    show (m.isFullwidth? key).getD false =
      ((patch.get? key).bind Json.bool?).getD ((base.isFullwidth? key).getD false)
    rw [changed, found, Option.getD_some, Option.getD_some, Patch.flag_eq]
  | widthGroups =>
    have each := fun group => (WidthGroups.get_overlay base patch group).trans (Patch.choice_eq ..)
    simp only [fields, List.forall_mem_cons]
    exact ⟨each .alphabet, each .number, each .bracket, each .commaPeriod,
      each .middleDotCornerBracket, each .quote, each .colonSemicolon, each .hashGroup, each .tilde,
      each .mathSymbol, each .questionExclamation, List.forall_mem_nil _⟩
  | romajiTable | userDictionary => simp [fields]

/-- Records are the same if all their fields are. -/
theorem ext_fields (record : name.isSequence = false) {a b : name.Value} (closed : Closed name a)
    (closed' : Closed name b) (same : ∀ field ∈ fields name, field.get a = field.get b) : a = b := by
  cases name with
  | shortcuts =>
    simp only [fields, List.forall_mem_cons] at same
    obtain ⟨ctrlSpace, altBackquote, -⟩ := same
    exact Shortcuts.ext ctrlSpace altBackquote
  | general =>
    simp only [fields, List.forall_mem_cons] at same
    obtain ⟨punctuation, symbol, space, numpad, -⟩ := same
    exact General.ext punctuation symbol space numpad
  | zenzai =>
    simp only [fields, List.forall_mem_cons] at same
    obtain ⟨enable, profile, backend, -⟩ := same
    exact Zenzai.ext enable profile backend
  | symbolWidth =>
    exact SymbolWidth.ext_of_closed closed closed' fun key mem => same _ (List.mem_map_of_mem mem)
  | widthGroups =>
    simp only [fields, List.forall_mem_cons] at same
    obtain ⟨alphabet, number, bracket, commaPeriod, middleDotCornerBracket, quote, colonSemicolon,
      hashGroup, tilde, mathSymbol, questionExclamation, -⟩ := same
    exact WidthGroups.ext alphabet number bracket commaPeriod middleDotCornerBracket quote
      colonSemicolon hashGroup tilde mathSymbol questionExclamation
  | romajiTable | userDictionary => cases record

/-! ## Records in a document -/

/-- No two fields of a record have one name. -/
lemma nodup_keys_fields (name : SliceName) : ((fields name).map Field.key).Nodup := by
  cases name with
  | symbolWidth =>
    have keys : (fields .symbolWidth).map Field.key = symbolKeys := by
      simp [fields, Field.flag, Function.comp_def]
    rw [keys]
    exact (List.mergeSort_perm _ _).nodup_iff.2 SymbolWidth.nodup_symbols
  | _ => decide

/-- A record is written field by field. -/
lemma encode_eq (record : name.isSequence = false) {value : name.Value}
    (closed : Closed name value) :
    encode name value =
      .object ((fields name).map fun field => (field.key, field.write (field.get value))) := by
  cases name with
  | symbolWidth =>
    show SymbolWidth.encode value = _
    rw [SymbolWidth.encode, SymbolWidth.entries_eq closed]
    simp [fields, Field.flag, Function.comp_def]
  | shortcuts | general | zenzai | widthGroups => rfl
  | romajiTable | userDictionary => cases record

/-- What a record is written as sets every field to what it is. -/
lemma offered?_encode {value : name.Value} {field : Field name.Value} (mem : field ∈ fields name) :
    field.offered? ((fields name).map fun field => (field.key, field.write (field.get value))) =
      some (field.get value) := by
  have distinct := nodup_keys_fields name
  have found : Members.get?
      ((fields name).map fun field => (field.key, field.write (field.get value))) field.key =
      some (field.write (field.get value)) := by
    refine (Members.get?_eq_some_iff ?_).2 (List.mem_map_of_mem mem)
    simpa [Members.keys, Function.comp_def] using distinct
  rw [Field.offered?, found]
  exact field.read?_write _

end Slice

end KanaSettings
