import KanaSettings.Proofs.Slice.Stable

/-!
# Rows that are added and removed

A row is added at the end of a table, and the whole table goes through the check, which trims it and
drops what is blank.  An entry of a dictionary is removed by its fields and a rule of a romaji table by
its position.  What matters is where the row that was added ends up, and what is found when the same
fields are named again.
-/

namespace KanaSettings

/-! ## Rows by their positions -/

namespace Rows

variable {α : Type} {rows : List α} {index : Nat}

lemma remove_append (rows : List α) (row : α) :
    remove (rows ++ [row]) rows.length = .ok (row, rows) := by
  simp [remove, List.eraseIdx_append_of_length_le]

lemma remove_of_le (past : rows.length ≤ index) :
    remove rows index =
      .error [.malformed (some index) s!"no row at {index} (table has {rows.length} rows)"] := by
  simp [remove, past]

end Rows

/-! ## Dictionaries -/

namespace UserDictionary

variable {entries kept : List DictionaryEntry} {entry : DictionaryEntry}

/-- An entry that is added to a dictionary that may be kept as it is stands at the end of it, if it is
complete and new and there is room. -/
lemma check_append_iff (accepted : check entries = .ok kept) {longer : List DictionaryEntry} :
    check (entries ++ [entry]) = .ok longer ↔
      ((entry.trimmed.reading ≠ "" ∧ entry.trimmed.word ≠ "") ∧ entry.trimmed ∉ kept ∧
        kept.length < capacity) ∧ longer = kept ++ [entry.trimmed] := by
  obtain ⟨⟨complete, distinct, room⟩, rfl⟩ := check_eq_ok_iff.1 accepted
  have rows : (entries ++ [entry]).map DictionaryEntry.trimmed =
      entries.map DictionaryEntry.trimmed ++ [entry.trimmed] := by simp
  rw [check_eq_ok_iff, rows, List.length_map, List.length_append, List.length_singleton,
    Nat.succ_le_iff]
  refine and_congr_left fun _ => ⟨?_, ?_⟩
  · rintro ⟨complete', distinct', room'⟩
    refine ⟨complete' _ (by simp), fun old => ?_, room'⟩
    exact (List.nodup_append.1 distinct').2.2 _ old _ (List.mem_singleton_self _) rfl
  · rintro ⟨full, new, room'⟩
    refine ⟨fun row mem => ?_, ?_, room'⟩
    · rcases List.mem_append.1 mem with mem | mem
      · exact complete row mem
      · rwa [List.mem_singleton.1 mem]
    · refine List.nodup_append.2 ⟨distinct, List.nodup_singleton _, ?_⟩
      rintro a old b mem rfl
      exact new (List.mem_singleton.1 mem ▸ old)

/-- No two entries of a dictionary that may be kept become the same. -/
lemma eq_of_trimmed_eq (accepted : check entries = .ok kept) {other : DictionaryEntry}
    (mem : entry ∈ entries) (mem' : other ∈ entries) (same : entry.trimmed = other.trimmed) :
    entry = other := by
  obtain ⟨⟨-, distinct, -⟩, -⟩ := check_eq_ok_iff.1 accepted
  exact List.inj_on_of_nodup_map distinct mem mem' same

/-- The form in which rows are kept loses the row that the rows lose, if no two rows have the same
form. -/
lemma map_trimmed_erase (distinct : (entries.map DictionaryEntry.trimmed).Nodup)
    (mem : entry ∈ entries) : (entries.erase entry).map DictionaryEntry.trimmed =
      (entries.map DictionaryEntry.trimmed).erase entry.trimmed := by
  induction entries with
  | nil => cases mem
  | cons first entries ih =>
    obtain ⟨new, distinct'⟩ := List.nodup_cons.1 (List.map_cons ▸ distinct)
    by_cases same : first = entry
    · subst same
      simp only [List.erase_cons_head, List.map_cons]
    · have mem' := (List.mem_cons.1 mem).resolve_left (Ne.symm same)
      have apart : first.trimmed ≠ entry.trimmed := by
        intro same'
        exact new (same' ▸ List.mem_map_of_mem mem')
      rw [List.erase_cons_tail (by simpa using same), List.map_cons, ih distinct' mem',
        List.map_cons, List.erase_cons_tail (by simpa using apart)]

/-- A dictionary that may be kept may be kept without one of its entries. -/
lemma check_erase (accepted : check entries = .ok kept) (mem : entry ∈ entries) :
    check (entries.erase entry) = .ok (kept.erase entry.trimmed) := by
  obtain ⟨⟨complete, distinct, room⟩, rfl⟩ := check_eq_ok_iff.1 accepted
  rw [check_eq_ok_iff, map_trimmed_erase distinct mem]
  refine ⟨⟨fun row mem => complete row (List.mem_of_mem_erase mem), distinct.erase _, ?_⟩, rfl⟩
  exact List.length_erase_le.trans room

section

variable {reading word : String} {target : DictionaryEntry}
  (named : DictionaryEntry.trimmed ⟨reading, word⟩ = target)
include named

lemma removeWord_eq (entries : List DictionaryEntry) :
    removeWord reading word entries =
      match entries.idxOf? target with
      | some index => (Rows.remove entries index).map Prod.snd
      | none =>
        .error [.malformed none s!"no dictionary entry {target.reading} -> {target.word}"] := by
  subst named
  rfl

/-- An entry is named by fields that are its own when they are trimmed.  The first such entry is
removed. -/
lemma removeWord_of_mem (mem : target ∈ entries) :
    removeWord reading word entries = .ok (entries.erase target) := by
  rw [removeWord_eq named, List.erase_eq_eraseIdx]
  cases found : entries.idxOf? target with
  | none => exact absurd mem (List.idxOf?_eq_none_iff.1 found)
  | some index =>
    obtain ⟨bound, -⟩ := List.findIdx?_eq_some_iff_getElem.1 found
    simp only [Rows.remove, List.getElem?_eq_getElem bound, Except.map]

/-- Fields that are those of no entry when they are trimmed remove nothing. -/
lemma removeWord_of_not_mem (absent : target ∉ entries) :
    removeWord reading word entries =
      .error [.malformed none s!"no dictionary entry {target.reading} -> {target.word}"] := by
  rw [removeWord_eq named, List.idxOf?_eq_none_iff.2 absent]

end

end UserDictionary

/-! ## Romaji tables -/

namespace RomajiTable

variable {rules kept : List RomajiRule} {rule : RomajiRule}

/-- A complete rule that is added to a table that may be kept stands at the end of what is kept. -/
lemma check_append (accepted : check rules = .ok kept) (complete : rule.trimmed.isComplete = true) :
    check (rules ++ [rule]) = .ok (kept ++ [rule.trimmed]) := by
  have alone : check [rule] = .ok [rule.trimmed] := by
    have visible : rule.trimmed.isBlank = false := by
      simp_all [RomajiRule.isComplete, RomajiRule.isBlank]
    simp [check, sort, complete, visible]
  rw [check_append_eq, accepted, alone, Rows.join]

end RomajiTable

end KanaSettings
