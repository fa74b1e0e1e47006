import KanaSettings.Proofs.Slice.Overlay

/-!
# Values that stay what they are

A value is checked and brought into the form that is kept, written into a document, and read from it
again.  Callers take what an edit returns for what is stored, so none of the three may change a value
that has been through them: what a check accepts it accepts again as it is, and what is written is
read as what it was.
-/

namespace KanaSettings

/-! ## Sequences -/

lemma Rows.filterMap_map_eq {α : Type} {encode : α → Json} {row? : Json → Option α}
    (h : ∀ row, row? (encode row) = some row) (rows : List α) :
    (rows.map encode).filterMap row? = rows := by
  induction rows with
  | nil => rfl
  | cons row rows ih => simp [h, ih]

namespace UserDictionary

lemma normalize_encode (entries : List DictionaryEntry) :
    normalize (some (encode entries)) = entries :=
  Rows.filterMap_map_eq DictionaryEntry.ofRow?_encode entries

/-- Entries that were accepted are trimmed, so they are accepted as they are. -/
lemma check_of_check {candidate entries : List DictionaryEntry}
    (h : check candidate = .ok entries) : check entries = .ok entries := by
  obtain ⟨allowed, rfl⟩ := check_eq_ok_iff.1 h
  have trimmed : (candidate.map DictionaryEntry.trimmed).map DictionaryEntry.trimmed =
      candidate.map DictionaryEntry.trimmed := by
    simp [Function.comp_def]
  rw [check_eq_ok_iff, trimmed, List.length_map]
  exact ⟨allowed, rfl⟩

end UserDictionary

namespace RomajiTable

lemma normalize_encode (rules : List RomajiRule) : normalize (some (encode rules)) = rules :=
  Rows.filterMap_map_eq RomajiRule.ofRow?_encode rules

/-- Rules that were accepted are trimmed and not blank, so they are accepted as they are. -/
lemma check_of_check {candidate rules : List RomajiRule} (h : check candidate = .ok rules) :
    check rules = .ok rules := by
  obtain ⟨complete, rfl⟩ := check_eq_ok_iff.1 h
  rw [check_eq_ok_iff, map_trimmed_filter, List.filter_filter]
  refine ⟨fun row mem => complete row (List.mem_of_mem_filter mem), ?_⟩
  simp only [Bool.and_self]

end RomajiTable

/-! ## Every slice -/

namespace Slice

variable {name : SliceName} {candidate value : name.Value}

lemma closed_of_prepare (accepted : prepare name candidate = .ok value) : Closed name value := by
  cases name with
  | symbolWidth =>
    cases accepted
    exact SymbolWidth.keys_canonical candidate
  | _ => trivial

/-- A value that was accepted is accepted again as it is. -/
theorem prepare_of_prepare (accepted : prepare name candidate = .ok value) :
    prepare name value = .ok value := by
  cases name with
  | romajiTable => exact RomajiTable.check_of_check accepted
  | userDictionary => exact UserDictionary.check_of_check accepted
  | shortcuts | general | zenzai | symbolWidth | widthGroups =>
    exact prepare_of_closed rfl (closed_of_prepare accepted)

/-- A value with exactly its fields is read as what it is when it has been written. -/
lemma normalize_encode (closed : Closed name value) :
    normalize name (some (encode name value)) = value := by
  cases name with
  | romajiTable => exact RomajiTable.normalize_encode value
  | userDictionary => exact UserDictionary.normalize_encode value
  | shortcuts | general | zenzai | symbolWidth | widthGroups =>
    exact normalize_encode_of_closed rfl closed

/-- A value that was accepted is read as what it is when it has been written. -/
theorem normalize_encode_of_prepare (accepted : prepare name candidate = .ok value) :
    normalize name (some (encode name value)) = value :=
  normalize_encode (closed_of_prepare accepted)

end Slice

end KanaSettings
