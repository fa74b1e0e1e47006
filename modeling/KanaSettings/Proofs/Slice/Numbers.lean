import KanaSettings.Proofs.Json.Numbers
import KanaSettings.Proofs.Slice.Valid

/-!
# Slices do not see numbers

No slice is written with numbers, and wherever one stands in what a document holds for a slice, it
makes no difference which.
-/

namespace KanaSettings

open Json (mapNumbers)

variable {f : Number → Number}

/-! ## Parts -/

namespace Patch

variable {α : Type} (patch : Members Json) (key : String)

@[simp] lemma flag_mapNumbers (current : Bool) :
    flag (patch.map fun m => (m.1, m.2.mapNumbers f)) key current = flag patch key current := by
  rw [flag, flag, Members.get?_map]
  cases patch.get? key with
  | none => rfl
  | some value => cases value <;> simp only [Option.map_some, mapNumbers]

@[simp] lemma text_mapNumbers (current : String) :
    text (patch.map fun m => (m.1, m.2.mapNumbers f)) key current = text patch key current := by
  rw [text, text, Members.get?_map]
  cases patch.get? key with
  | none => rfl
  | some value => cases value <;> simp only [Option.map_some, mapNumbers]

@[simp] lemma choice_mapNumbers (ofName? : String → Option α) (current : α) :
    choice (patch.map fun m => (m.1, m.2.mapNumbers f)) key ofName? current =
      choice patch key ofName? current := by
  rw [choice, choice, Members.get?_map]
  cases patch.get? key with
  | none => rfl
  | some value => cases value <;> simp only [Option.map_some, mapNumbers]

end Patch

@[simp] lemma DictionaryEntry.ofRow?_mapNumbers (row : Json) :
    ofRow? (row.mapNumbers f) = ofRow? row := by
  cases row with
  | object fields =>
    simp only [mapNumbers, ofRow?, Members.get?_map]
    cases Members.get? fields "reading" with
    | none => rfl
    | some reading =>
      cases Members.get? fields "word" with
      | none => cases reading <;> simp [mapNumbers]
      | some word => cases reading <;> cases word <;> simp [mapNumbers]
  | _ => simp [mapNumbers, ofRow?]

@[simp] lemma RomajiRule.ofRow?_mapNumbers (row : Json) :
    ofRow? (row.mapNumbers f) = ofRow? row := by
  cases row with
  | object fields =>
    simp only [mapNumbers, ofRow?, Members.get?_map]
    cases Members.get? fields "input" with
    | none => rfl
    | some input =>
      cases Members.get? fields "output" with
      | none => cases input <;> simp [mapNumbers]
      | some output =>
        cases Members.get? fields "next_input" with
        | none => cases input <;> cases output <;> simp [mapNumbers]
        | some next => cases input <;> cases output <;> cases next <;> simp [mapNumbers]
  | _ => simp [mapNumbers, ofRow?]

/-! ## Every slice -/

namespace Slice

lemma numbers_encode (name : SliceName) (value : name.Value) :
    (encode name value).numbers = [] := by
  cases name with
  | shortcuts => simp [encode, Shortcuts.encode, Json.numbers]
  | general => simp [encode, General.encode, Json.numbers, Choice.encode]
  | zenzai => simp [encode, Zenzai.encode, Json.numbers, Choice.encode]
  | symbolWidth =>
    rw [encode, SymbolWidth.encode, Json.numbers, List.flatMap_eq_nil_iff]
    intro m mem
    obtain ⟨entry, -, rfl⟩ := List.mem_map.1 mem
    rw [Json.numbers]
  | widthGroups => simp [encode, WidthGroups.encode, Json.numbers, Choice.encode]
  | romajiTable => simp [encode, RomajiTable.encode, RomajiRule.encode, Json.numbers]
  | userDictionary => simp [encode, UserDictionary.encode, DictionaryEntry.encode, Json.numbers]

lemma mapNumbers_encode (name : SliceName) (value : name.Value) :
    (encode name value).mapNumbers f = encode name value :=
  Json.mapNumbers_of_none (numbers_encode name value)

/-- Whatever is stored for a slice is read in the same way with other numbers in it. -/
theorem normalize_mapNumbers (name : SliceName) (raw : Option Json) :
    normalize name (raw.map (mapNumbers f)) = normalize name raw := by
  rcases raw with _ | raw
  · rfl
  · rw [Option.map_some]
    cases name with
    | shortcuts =>
      cases raw <;> simp [normalize, Shortcuts.normalize, Shortcuts.overlay, mapNumbers]
    | general => cases raw <;> simp [normalize, General.normalize, General.overlay, mapNumbers]
    | zenzai => cases raw <;> simp [normalize, Zenzai.normalize, Zenzai.overlay, mapNumbers]
    | symbolWidth =>
      cases raw <;> simp [normalize, SymbolWidth.normalize, SymbolWidth.overlay, mapNumbers]
    | widthGroups =>
      cases raw <;> simp [normalize, WidthGroups.normalize, WidthGroups.overlay, mapNumbers]
    | romajiTable =>
      cases raw <;>
        simp [normalize, RomajiTable.normalize, mapNumbers, List.filterMap_map]
    | userDictionary =>
      cases raw <;>
        simp [normalize, UserDictionary.normalize, mapNumbers, List.filterMap_map]

lemma mapM_map_mapNumbers {α : Type} {row? : Json → Option α}
    (same : ∀ row, row? (row.mapNumbers f) = row? row) (items : List Json) :
    (items.map (mapNumbers f)).mapM row? = items.mapM row? := by
  rw [List.mapM_map]
  exact congrArg (List.mapM · items) (funext same)

/-- What may be stored for a slice may be stored with other numbers in it. -/
theorem valid_mapNumbers {name : SliceName} {raw : Json} (valid : Valid name raw) :
    Valid name (raw.mapNumbers f) := by
  have bare (value : name.Value) : (encode name value).mapNumbers f = encode name value :=
    mapNumbers_encode name value
  cases name with
  | shortcuts | general | zenzai | widthGroups =>
    obtain ⟨value, rfl⟩ := valid
    exact ⟨value, bare value⟩
  | symbolWidth =>
    obtain ⟨members, rfl, keys, flags⟩ := valid
    refine ⟨_, by rw [mapNumbers], by rwa [Members.keys_map], fun member mem => ?_⟩
    obtain ⟨m, there, rfl⟩ := List.mem_map.1 mem
    obtain ⟨fullwidth, flag⟩ := flags m there
    exact ⟨fullwidth, by rw [flag, mapNumbers]⟩
  -- Rows are looked at for texts only, so they are the same rows with other numbers in them.
  | romajiTable =>
    obtain ⟨items, rules, rfl, rows, complete⟩ := valid
    refine ⟨_, rules, by rw [mapNumbers], ?_, complete⟩
    rwa [mapM_map_mapNumbers RomajiRule.ofRow?_mapNumbers]
  | userDictionary =>
    obtain ⟨items, entries, rfl, rows, allowed⟩ := valid
    refine ⟨_, entries, by rw [mapNumbers], ?_, allowed⟩
    rwa [mapM_map_mapNumbers DictionaryEntry.ofRow?_mapNumbers]

end Slice

end KanaSettings
