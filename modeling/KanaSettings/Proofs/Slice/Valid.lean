import KanaSettings.Slice
import KanaSettings.Proofs.Slice.Dictionary
import KanaSettings.Proofs.Slice.Rules
import KanaSettings.Proofs.Slice.Symbols
import KanaSettings.Proofs.Text.Trim

/-!
# What may be stored for a slice

Three slices have rules beyond the types of their fields.  A dictionary has room for so many
entries, each with a reading and a word, and no pair twice; a rule of a romaji table has an input
and an output; the widths of symbols are set for the closed set and for nothing else.  The rules are
stated for what a document holds, whoever wrote it, and every value that a check accepts keeps them.
-/

namespace KanaSettings

lemma Rows.mapM_map_eq_some {α β : Type} {encode : α → β} {row? : β → Option α}
    (h : ∀ row, row? (encode row) = some row) (rows : List α) :
    (rows.map encode).mapM row? = some rows := by
  induction rows with
  | nil => rfl
  | cons row rows ih => simp [h, ih]

/-! ## Dictionaries -/

namespace DictionaryEntry

@[simp] lemma trimmed_trimmed (entry : DictionaryEntry) :
    entry.trimmed.trimmed = entry.trimmed := by
  simp [trimmed]

@[simp] lemma ofRow?_encode (entry : DictionaryEntry) : ofRow? entry.encode = some entry := by
  simp [encode, ofRow?, Members.get?]

end DictionaryEntry

namespace UserDictionary

/-- Entries that a dictionary may hold. -/
structure Allowed (entries : List DictionaryEntry) : Prop where
  room : entries.length ≤ capacity
  /-- Each has a reading and a word, blanks not counted. -/
  complete : ∀ entry ∈ entries, entry.trimmed.isComplete = true
  /-- No reading occurs twice with one word, blanks not counted. -/
  distinct : (entries.map DictionaryEntry.trimmed).Nodup

/-- A stored dictionary that is nothing but rows that it may hold. -/
def Valid (raw : Json) : Prop :=
  ∃ items entries, raw = .array items ∧ items.mapM DictionaryEntry.ofRow? = some entries ∧
    Allowed entries

lemma valid_of_check {candidate entries : List DictionaryEntry}
    (h : check candidate = .ok entries) : Valid (encode entries) := by
  obtain ⟨⟨complete, distinct, room⟩, rfl⟩ := check_eq_ok_iff.1 h
  refine ⟨_, _, rfl, Rows.mapM_map_eq_some DictionaryEntry.ofRow?_encode _, ?_, ?_, ?_⟩
  · simpa using room
  · simpa using complete
  · simpa [Function.comp_def] using distinct

end UserDictionary

/-! ## Romaji tables -/

namespace RomajiRule

@[simp] lemma trimmed_trimmed (rule : RomajiRule) : rule.trimmed.trimmed = rule.trimmed := by
  simp [trimmed]

@[simp] lemma ofRow?_encode (rule : RomajiRule) : ofRow? rule.encode = some rule := by
  simp [encode, ofRow?, Members.get?]

end RomajiRule

namespace RomajiTable

/-- A stored table that is nothing but rules with an input and an output, blanks not counted. -/
def Valid (raw : Json) : Prop :=
  ∃ items rules, raw = .array items ∧ items.mapM RomajiRule.ofRow? = some rules ∧
    ∀ rule ∈ rules, rule.trimmed.isComplete = true

lemma map_trimmed_filter (rules : List RomajiRule) (p : RomajiRule → Bool) :
    ((rules.map RomajiRule.trimmed).filter p).map RomajiRule.trimmed =
      (rules.map RomajiRule.trimmed).filter p := by
  simp [List.filter_map, Function.comp_def]

lemma valid_of_check {candidate rules : List RomajiRule} (h : check candidate = .ok rules) :
    Valid (encode rules) := by
  obtain ⟨complete, rfl⟩ := check_eq_ok_iff.1 h
  refine ⟨_, _, rfl, Rows.mapM_map_eq_some RomajiRule.ofRow?_encode _, fun rule mem => ?_⟩
  have trimmed := List.mem_map_of_mem (f := RomajiRule.trimmed) mem
  rw [map_trimmed_filter, List.mem_filter] at trimmed
  exact RomajiRule.isComplete_iff.2 (complete _ trimmed.1 (by simpa using trimmed.2))

end RomajiTable

/-! ## Widths of symbols -/

namespace SymbolWidth

/-- Stored widths that are set for each symbol of the closed set and for nothing else. -/
def Valid (raw : Json) : Prop :=
  ∃ members : Members Json, raw = .object members ∧ members.keys.Perm (symbols.map Prod.fst) ∧
    ∀ member ∈ members, ∃ fullwidth, member.2 = .bool fullwidth

lemma valid_encode_canonical (m : SymbolWidth) : Valid m.canonical.encode := by
  refine ⟨_, rfl, ?_, ?_⟩
  · simpa [Members.keys, Function.comp_def] using keys_canonical m
  · intro member mem
    obtain ⟨entry, -, rfl⟩ := List.mem_map.1 mem
    exact ⟨entry.2, rfl⟩

end SymbolWidth

/-! ## Every slice -/

namespace Slice

/-- What may be stored for a slice.  Slices without rules of their own may hold anything that their
values are written as. -/
def Valid : SliceName → Json → Prop
  | .symbolWidth, raw => SymbolWidth.Valid raw
  | .romajiTable, raw => RomajiTable.Valid raw
  | .userDictionary, raw => UserDictionary.Valid raw
  | .shortcuts, raw => ∃ value : Shortcuts, raw = value.encode
  | .general, raw => ∃ value : General, raw = value.encode
  | .zenzai, raw => ∃ value : Zenzai, raw = value.encode
  | .widthGroups, raw => ∃ value : WidthGroups, raw = value.encode

/-- Every value that is accepted may be stored. -/
theorem valid_encode_of_prepare {name : SliceName} {candidate value : name.Value}
    (accepted : prepare name candidate = .ok value) : Valid name (encode name value) := by
  cases name with
  | shortcuts => exact ⟨value, rfl⟩
  | general => exact ⟨value, rfl⟩
  | zenzai => exact ⟨value, rfl⟩
  | widthGroups => exact ⟨value, rfl⟩
  | symbolWidth =>
    cases accepted
    exact SymbolWidth.valid_encode_canonical candidate
  | romajiTable => exact RomajiTable.valid_of_check accepted
  | userDictionary => exact UserDictionary.valid_of_check accepted

end Slice

end KanaSettings
