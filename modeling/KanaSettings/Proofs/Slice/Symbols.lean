import KanaSettings.Slice.SymbolWidth
import KanaSettings.Proofs.Json.Members

/-!
# Maps of symbol widths

A map is its entries in ascending order, so two maps are the same if they give every key the same
width.  With that, each operation on maps is told by what it does to one key: a patch overwrites the
symbols that the map has, and the canonical form has the symbols and nothing else.
-/

namespace KanaSettings

namespace SymbolWidth

variable {m : SymbolWidth} {key : String}

/-! ## Single keys -/

lemma nodup_keys (m : SymbolWidth) : m.entries.keys.Nodup := by
  refine List.pairwise_map.2 (m.ascending.imp fun {a b} lt same => ?_)
  rw [same] at lt
  exact String.lt_irrefl _ lt

lemma mem_entries_iff {fullwidth : Bool} :
    (key, fullwidth) ∈ m.entries ↔ m.isFullwidth? key = some fullwidth :=
  (Members.get?_eq_some_iff m.nodup_keys).symm

/-- Two maps are the same if they give every key the same width. -/
lemma ext_isFullwidth? {a b : SymbolWidth}
    (same : ∀ key, a.isFullwidth? key = b.isFullwidth? key) : a = b := by
  have perm : a.entries.Perm b.entries := by
    refine (List.perm_ext_iff_of_nodup (.of_map _ a.nodup_keys) (.of_map _ b.nodup_keys)).2 ?_
    rintro ⟨key, fullwidth⟩
    rw [mem_entries_iff, mem_entries_iff, same key]
  have entries : a.entries = b.entries :=
    perm.eq_of_pairwise (fun x y _ _ lt gt => absurd (String.lt_trans lt gt) (String.lt_irrefl _))
      a.ascending b.ascending
  cases a
  cases b
  cases entries
  rfl

lemma get?_insertEntry (key other : String) (fullwidth : Bool) (entries : Members Bool) :
    Members.get? (insertEntry key fullwidth entries) other =
      if key = other then some fullwidth else Members.get? entries other := by
  induction entries with
  | nil => rfl
  | cons head rest ih =>
    obtain ⟨k, v⟩ := head
    simp only [insertEntry]
    split
    · rfl
    · split
      · rename_i same
        subst same
        by_cases h : k = other <;> simp [Members.get?, h]
      · rename_i apart
        by_cases h : k = other
        · simp [Members.get?, h, Ne.symm (h ▸ apart)]
        · simp [Members.get?, h, ih]

@[simp] lemma isFullwidth?_insert (m : SymbolWidth) (key other : String) (fullwidth : Bool) :
    (m.insert key fullwidth).isFullwidth? other =
      if key = other then some fullwidth else m.isFullwidth? other :=
  get?_insertEntry key other fullwidth m.entries

@[simp] lemma isFullwidth?_empty (key : String) : empty.isFullwidth? key = none := rfl

lemma isFullwidth?_foldl_insert (pairs : List (String × Bool)) (distinct : (Members.keys pairs).Nodup)
    (m : SymbolWidth) (key : String) :
    (pairs.foldl (fun m (key, value) => m.insert key value) m).isFullwidth? key =
      (Members.get? pairs key).or (m.isFullwidth? key) := by
  induction pairs generalizing m with
  | nil => rfl
  | cons pair pairs ih =>
    obtain ⟨k, v⟩ := pair
    rw [Members.keys_cons, List.nodup_cons] at distinct
    rw [List.foldl_cons, ih distinct.2, isFullwidth?_insert]
    by_cases h : k = key
    · subst h
      have absent : Members.get? pairs k = none := Members.get?_eq_none_iff.2 distinct.1
      simp [Members.get?, absent]
    · simp [Members.get?, h]

/-! ## The closed set -/

lemma nodup_symbols : (Members.keys symbols).Nodup := by decide

lemma standardWidth?_eq (key : String) : standardWidth? key = Members.get? symbols key := by
  unfold standardWidth?
  generalize symbols = pairs
  induction pairs with
  | nil => rfl
  | cons pair pairs ih =>
    obtain ⟨k, v⟩ := pair
    by_cases h : k = key <;> simp [Members.get?, h, ih]

lemma standardWidth?_eq_some_iff {fullwidth : Bool} :
    standardWidth? key = some fullwidth ↔ (key, fullwidth) ∈ symbols := by
  rw [standardWidth?_eq, Members.get?_eq_some_iff nodup_symbols]

@[simp] lemma isFullwidth?_standard (key : String) :
    standard.isFullwidth? key = standardWidth? key := by
  rw [standard, ofPairs, isFullwidth?_foldl_insert symbols nodup_symbols, standardWidth?_eq]
  simp

/-- To set a width where the key is a symbol, and to change nothing where it is none. -/
lemma isFullwidth?_set?_getD (m : SymbolWidth) (key other : String) (fullwidth : Bool) :
    ((m.set? key fullwidth).getD m).isFullwidth? other =
      if key = other ∧ (standardWidth? key).isSome then some fullwidth
      else m.isFullwidth? other := by
  unfold set?
  split
  · rename_i known
    simp [known]
  · rename_i unknown
    simp [unknown]

lemma isFullwidth?_foldl_set? (entries : Members Bool) (distinct : entries.keys.Nodup)
    (m : SymbolWidth) (key : String) :
    (entries.foldl (fun out (key, fullwidth) => (out.set? key fullwidth).getD out) m).isFullwidth?
        key =
      if (standardWidth? key).isSome then (entries.get? key).or (m.isFullwidth? key)
      else m.isFullwidth? key := by
  induction entries generalizing m with
  | nil => simp
  | cons entry entries ih =>
    obtain ⟨k, v⟩ := entry
    rw [Members.keys_cons, List.nodup_cons] at distinct
    rw [List.foldl_cons, ih distinct.2, isFullwidth?_set?_getD]
    by_cases h : k = key
    · subst h
      have absent : Members.get? entries k = none := Members.get?_eq_none_iff.2 distinct.1
      by_cases known : (standardWidth? k).isSome <;> simp [Members.get?, absent, known]
    · simp [Members.get?, h]

lemma isSome_isFullwidth?_iff : (m.isFullwidth? key).isSome ↔ key ∈ m.entries.keys :=
  Members.isSome_get?_iff

lemma isSome_standardWidth?_iff : (standardWidth? key).isSome ↔ key ∈ symbols.map Prod.fst := by
  rw [standardWidth?_eq]
  exact Members.isSome_get?_iff

/-- The keys of a map are those of the closed set if it has a width for each symbol and for nothing
else. -/
lemma keys_perm_iff : m.entries.keys.Perm (symbols.map Prod.fst) ↔
    ∀ key, (m.isFullwidth? key).isSome ↔ (standardWidth? key).isSome := by
  simp only [isSome_isFullwidth?_iff, isSome_standardWidth?_iff]
  exact List.perm_ext_iff_of_nodup m.nodup_keys nodup_symbols

lemma keys_standard : standard.entries.keys.Perm (symbols.map Prod.fst) :=
  keys_perm_iff.2 fun key => by rw [isFullwidth?_standard]

/-- The canonical form has the symbols and nothing else, each with the width that the map gives it
or else the one it has unless a document says otherwise. -/
lemma isFullwidth?_canonical (m : SymbolWidth) (key : String) :
    m.canonical.isFullwidth? key =
      if (standardWidth? key).isSome then (m.isFullwidth? key).or (standardWidth? key)
      else none := by
  rw [canonical, isFullwidth?_foldl_set? _ m.nodup_keys, isFullwidth?_standard]
  split
  · rfl
  · simpa using ‹¬(standardWidth? key).isSome = true›

/-- The form in which widths are kept has the keys of the closed set. -/
lemma keys_canonical (m : SymbolWidth) : m.canonical.entries.keys.Perm (symbols.map Prod.fst) := by
  refine keys_perm_iff.2 fun key => ?_
  rw [isFullwidth?_canonical]
  split
  · rename_i known
    simp [known]
  · rename_i unknown
    simp [unknown]

/-! ## Patches -/

lemma isFullwidth?_foldl_overlay (patch : Members Json) (pairs : List (String × Bool))
    (distinct : (Members.keys pairs).Nodup) (m : SymbolWidth) (key : String) :
    (pairs.foldl (fun m (key, _) =>
      match m.isFullwidth? key with
      | some fullwidth => m.insert key (Patch.flag patch key fullwidth)
      | none => m) m).isFullwidth? key =
      if key ∈ Members.keys pairs then (m.isFullwidth? key).map (Patch.flag patch key)
      else m.isFullwidth? key := by
  induction pairs generalizing m with
  | nil => simp
  | cons pair pairs ih =>
    obtain ⟨k, v⟩ := pair
    rw [Members.keys_cons, List.nodup_cons] at distinct
    rw [List.foldl_cons, ih distinct.2]
    by_cases h : k = key
    · subst h
      cases found : m.isFullwidth? k with
      | none => simp [distinct.1, found]
      | some fullwidth => simp [distinct.1, found]
    · have same : (match m.isFullwidth? k with
          | some fullwidth => m.insert k (Patch.flag patch k fullwidth)
          | none => m).isFullwidth? key = m.isFullwidth? key := by
        cases m.isFullwidth? k <;> simp [h]
      simp [same, Ne.symm h]

/-- A patch overwrites the symbols that a map has. -/
lemma isFullwidth?_overlay (m : SymbolWidth) (patch : Members Json) (key : String) :
    (m.overlay (.object patch)).isFullwidth? key =
      if (standardWidth? key).isSome then (m.isFullwidth? key).map (Patch.flag patch key)
      else m.isFullwidth? key := by
  have known : key ∈ Members.keys symbols ↔ (standardWidth? key).isSome :=
    isSome_standardWidth?_iff.symm
  rw [← if_congr known rfl rfl]
  exact isFullwidth?_foldl_overlay patch symbols nodup_symbols m key

end SymbolWidth

end KanaSettings
