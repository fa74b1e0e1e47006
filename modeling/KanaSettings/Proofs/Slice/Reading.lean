import KanaSettings.Slice.Dictionary
import KanaSettings.Slice.Romaji
import KanaSettings.Proofs.Slice.Report

/-!
# Two readings of a sequence

A stored sequence is read leniently and one that is handed in is read strictly, by two functions that
go through the items on their own.  They agree on what a row is: what the one leaves out is what the
other objects to.  Were there an item that only the strict reading takes for a row, an edit would
store it and the next one lose it.
-/

namespace KanaSettings

namespace Rows

variable {α : Type}

/-- What is a row of a kind of table. -/
structure Form (α : Type) where
  /-- What a row is called in messages. -/
  what : String
  Stands : Json → α → Prop
  row? : Json → Option α
  row?_eq_some_iff : ∀ {item row}, row? item = some row ↔ Stands item row

/-- The rows for which items stand, in their order.  Items that stand for none are left out. -/
inductive Gathered (Stands : Json → α → Prop) : List Json → List α → Prop
  | nil : Gathered Stands [] []
  | row {item : Json} {row : α} {items : List Json} {rows : List α} (stands : Stands item row)
      (rest : Gathered Stands items rows) : Gathered Stands (item :: items) (row :: rows)
  | stray {item : Json} {items : List Json} {rows : List α} (stray : ∀ row, ¬ Stands item row)
      (rest : Gathered Stands items rows) : Gathered Stands (item :: items) rows

namespace Form

variable (form : Form α)

/-- What is wrong with the item at a position: it stands for no row. -/
inductive Malformed (items : List Json) : Nat → Objection → Prop
  | intro {index : Nat} {item : Json} (here : items[index]? = some item)
      (stray : ∀ row, ¬ form.Stands item row) :
      Malformed items index (.malformed (some index) ("not a well-formed " ++ form.what))

/-- What a lenient and a strict reading of items have to do with each other and with the rows for
which items stand. -/
structure Agrees (lenient : List Json → List α)
    (strict : List Json → Except (List Objection) (List α)) : Prop where
  gathers : ∀ items rows, lenient items = rows ↔ Gathered form.Stands items rows
  /-- Parts of a sequence are read on their own. -/
  append : ∀ items more, lenient (items ++ more) = lenient items ++ lenient more
  accepts : ∀ items rows, strict items = .ok rows ↔
    (∀ item ∈ items, ∃ row, form.Stands item row) ∧ rows = lenient items
  /-- Otherwise it objects to each stray item once, in ascending order. -/
  refuses : ∀ items objections, strict items = .error objections ↔
    objections ≠ [] ∧ ∃ positions, Report (form.Malformed items) positions objections

variable {form}

lemma row?_eq_none_iff {item : Json} :
    form.row? item = none ↔ ∀ row, ¬ form.Stands item row := by
  rw [Option.eq_none_iff_forall_ne_some]
  exact forall_congr' fun row => not_congr form.row?_eq_some_iff

lemma rightUnique_malformed (items : List Json) : Relator.RightUnique (form.Malformed items) := by
  rintro index _ _ ⟨⟩ ⟨⟩
  rfl

lemma forall_not_malformed_iff {items : List Json} :
    (∀ index objection, ¬ form.Malformed items index objection) ↔
      ∀ item ∈ items, ∃ row, form.Stands item row := by
  constructor
  · intro fine item mem
    obtain ⟨index, here⟩ := List.mem_iff_getElem?.1 mem
    by_contra none
    exact fine _ _ (.intro here (not_exists.1 none))
  · rintro stand index objection ⟨here, stray⟩
    obtain ⟨row, stands⟩ := stand _ (List.mem_iff_getElem?.2 ⟨index, here⟩)
    exact stray row stands

/-! ## The lenient reading -/

lemma gathered_filterMap (items : List Json) :
    Gathered form.Stands items (items.filterMap form.row?) := by
  induction items with
  | nil => exact .nil
  | cons item items ih =>
    cases found : form.row? item with
    | none =>
      rw [List.filterMap_cons_none found]
      exact .stray (row?_eq_none_iff.1 found) ih
    | some row =>
      rw [List.filterMap_cons_some found]
      exact .row (form.row?_eq_some_iff.1 found) ih

lemma filterMap_eq_of_gathered {items : List Json} {rows : List α}
    (gathered : Gathered form.Stands items rows) : items.filterMap form.row? = rows := by
  induction gathered with
  | nil => rfl
  | row stands rest ih => rw [List.filterMap_cons_some (form.row?_eq_some_iff.2 stands), ih]
  | stray stray rest ih => rw [List.filterMap_cons_none (row?_eq_none_iff.2 stray), ih]

lemma forall₂_iff {items : List Json} {rows : List α} :
    List.Forall₂ form.Stands items rows ↔
      (∀ item ∈ items, ∃ row, form.Stands item row) ∧ rows = items.filterMap form.row? := by
  constructor
  · intro each
    refine ⟨fun item mem => ?_, ?_⟩
    · obtain ⟨⟨item', row⟩, pair, rfl⟩ := List.mem_map.1 (List.map_fst_zip each.length_eq.le ▸ mem)
      exact ⟨row, (List.forall₂_iff_zip.1 each).2 pair⟩
    · refine (filterMap_eq_of_gathered ?_).symm
      induction each with
      | nil => exact .nil
      | cons stands _ ih => exact .row stands ih
  · rintro ⟨stand, rfl⟩
    induction items with
    | nil => exact .nil
    | cons item items ih =>
      obtain ⟨row, stands⟩ := stand item List.mem_cons_self
      rw [List.filterMap_cons_some (form.row?_eq_some_iff.2 stands)]
      exact .cons stands (ih fun item mem => stand item (List.mem_cons_of_mem _ mem))

/-! ## The strict reading -/

lemma sort_snd (index : Nat) (items : List Json) :
    (sort form.what form.row? index items).2 = items.filterMap form.row? := by
  induction items generalizing index with
  | nil => rfl
  | cons item items ih =>
    simp only [sort]
    split
    · rename_i row found
      rw [List.filterMap_cons_some found, ih]
    · rename_i none
      rw [List.filterMap_cons_none none, ih]

lemma exists_report (form : Form α) (items : List Json) :
    ∃ positions, Report (form.Malformed items) positions (sort form.what form.row? 0 items).1 := by
  refine Report.exists_of_loop items (fun index rest => (sort form.what form.row? index rest).1)
    (fun fault => ?_) (fun _ => rfl) fun {index item} here rest => ?_
  · cases fault with
    | intro here stray => exact (List.getElem?_eq_some_iff.1 here).1
  simp only [sort]
  split
  · rename_i row found
    refine .inr ⟨fun objection fault => ?_, rfl⟩
    cases fault with
    | intro here' stray =>
      cases here.symm.trans here'
      exact stray row (form.row?_eq_some_iff.1 found)
  · rename_i none
    exact .inl ⟨_, .intro here (row?_eq_none_iff.1 none), rfl⟩

lemma ofInput_array (form : Form α) (items : List Json) :
    ofInput form.what form.row? (.array items) =
      verdict (sort form.what form.row? 0 items).1 (items.filterMap form.row?) := by
  rw [← form.sort_snd 0 items, ofInput, verdict]
  split
  · rename_i rows sorted
    rw [sorted, if_pos rfl]
  · rename_i objections rows some sorted
    rw [sorted, if_neg some]

/-- The two readings of a form agree. -/
theorem agrees (form : Form α) :
    form.Agrees (fun items => items.filterMap form.row?)
      (fun items => ofInput form.what form.row? (.array items)) where
  gathers items rows := by
    refine ⟨?_, filterMap_eq_of_gathered⟩
    rintro rfl
    exact gathered_filterMap items
  append items more := List.filterMap_append
  accepts items rows := by
    obtain ⟨positions, report⟩ := form.exists_report items
    rw [ofInput_array, verdict_eq_ok_iff, report.eq_nil_iff, forall_not_malformed_iff]
  refuses items objections := by
    obtain ⟨positions, report⟩ := form.exists_report items
    rw [ofInput_array]
    exact report.verdict_eq_error_iff (rightUnique_malformed items)

end Form

end Rows

/-! ## Dictionaries -/

/-- An item that stands for an entry: an object with a reading and a word, both of them texts.  What
else it has does not matter. -/
inductive DictionaryEntry.Stands : Json → DictionaryEntry → Prop
  | intro {fields : Members Json} {entry : DictionaryEntry}
      (reading : fields.get? "reading" = some (.string entry.reading))
      (word : fields.get? "word" = some (.string entry.word)) : Stands (.object fields) entry

lemma DictionaryEntry.ofRow?_eq_some_iff {item : Json} {entry : DictionaryEntry} :
    ofRow? item = some entry ↔ Stands item entry := by
  constructor
  · intro read
    unfold ofRow? at read
    split at read
    · rename_i fields
      split at read
      · rename_i reading word
        cases read
        exact .intro reading word
      · cases read
    · cases read
  · rintro ⟨reading, word⟩
    simp [ofRow?, reading, word]

/-- The rows of a dictionary. -/
def UserDictionary.form : Rows.Form DictionaryEntry :=
  ⟨"dictionary entry", DictionaryEntry.Stands, DictionaryEntry.ofRow?,
    DictionaryEntry.ofRow?_eq_some_iff⟩

/-! ## Romaji tables -/

/-- An item that stands for a rule: an object with an input and an output, both of them texts.  What
is left to convert may be a text, or null, or left out. -/
inductive RomajiRule.Stands : Json → RomajiRule → Prop
  | withNext {fields : Members Json} {rule : RomajiRule}
      (input : fields.get? "input" = some (.string rule.input))
      (output : fields.get? "output" = some (.string rule.output))
      (next : fields.get? "next_input" = some (.string rule.nextInput)) :
      Stands (.object fields) rule
  | withoutNext {fields : Members Json} {rule : RomajiRule}
      (input : fields.get? "input" = some (.string rule.input))
      (output : fields.get? "output" = some (.string rule.output))
      (next : fields.get? "next_input" = none ∨ fields.get? "next_input" = some .null)
      (nothing : rule.nextInput = "") : Stands (.object fields) rule

lemma RomajiRule.ofRow?_eq_some_iff {item : Json} {rule : RomajiRule} :
    ofRow? item = some rule ↔ Stands item rule := by
  constructor
  · intro read
    unfold ofRow? at read
    split at read
    · rename_i fields
      split at read
      · rename_i input output
        split at read
        · rename_i next
          cases read
          exact .withoutNext input output (.inl next) rfl
        · rename_i next
          cases read
          exact .withoutNext input output (.inr next) rfl
        · rename_i next
          cases read
          exact .withNext input output next
        · cases read
      · cases read
    · cases read
  · intro stands
    cases stands with
    | withNext input output next => simp [ofRow?, input, output, next]
    | withoutNext input output next nothing =>
      rcases next with next | next <;> simp [ofRow?, input, output, next, ← nothing]

/-- The rows of a romaji table. -/
def RomajiTable.form : Rows.Form RomajiRule :=
  ⟨"romaji row", RomajiRule.Stands, RomajiRule.ofRow?, RomajiRule.ofRow?_eq_some_iff⟩

end KanaSettings
