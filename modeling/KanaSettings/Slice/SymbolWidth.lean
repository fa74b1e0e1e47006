import KanaSettings.Slice.Patch

/-!
# Widths of single symbols

For each symbol of a closed set, whether it is typed full width.  The value is a map in
ascending order of its keys, so that equal maps are written alike.  A map that is changed freely
can lack symbols or hold keys that are none; what is kept is its canonical form over the closed
set.
-/

namespace KanaSettings

/-- A map from texts to truth values. -/
structure SymbolWidth where
  entries : Members Bool
  ascending : entries.Pairwise fun a b => a.1 < b.1
deriving DecidableEq

namespace SymbolWidth

/-! ## The map -/

/-- The entries with a value under a key, in the place that its order gives it. -/
def insertEntry (key : String) (value : Bool) : Members Bool → Members Bool
  | [] => [(key, value)]
  | (k, v) :: rest =>
    if key < k then (key, value) :: (k, v) :: rest
    else if k = key then (key, value) :: rest
    else (k, v) :: insertEntry key value rest

theorem mem_insertEntry {key : String} {value : Bool} {e : String × Bool} {entries : Members Bool}
    (h : e ∈ insertEntry key value entries) : e = (key, value) ∨ e ∈ entries := by
  induction entries with
  | nil => simpa [insertEntry] using h
  | cons head rest ih =>
    obtain ⟨k, v⟩ := head
    simp only [insertEntry] at h
    split at h
    · simpa using h
    · split at h
      · rcases List.mem_cons.1 h with h | h
        · exact Or.inl h
        · exact Or.inr (List.mem_cons_of_mem _ h)
      · rcases List.mem_cons.1 h with h | h
        · exact Or.inr (h ▸ List.mem_cons_self)
        · exact (ih h).imp_right (List.mem_cons_of_mem _)

theorem ascending_insertEntry (key : String) (value : Bool) {entries : Members Bool}
    (h : entries.Pairwise fun a b => a.1 < b.1) :
    (insertEntry key value entries).Pairwise fun a b => a.1 < b.1 := by
  induction entries with
  | nil => simp [insertEntry]
  | cons head rest ih =>
    obtain ⟨k, v⟩ := head
    obtain ⟨hk, hrest⟩ := List.pairwise_cons.1 h
    simp only [insertEntry]
    split
    · rename_i hlt
      refine List.pairwise_cons.2 ⟨fun e he => ?_, h⟩
      rcases List.mem_cons.1 he with rfl | he
      · exact hlt
      · exact String.lt_trans hlt (hk e he)
    · split
      · rename_i heq
        subst heq
        exact List.pairwise_cons.2 ⟨hk, hrest⟩
      · rename_i hlt hne
        refine List.pairwise_cons.2 ⟨fun e he => ?_, ih hrest⟩
        rcases mem_insertEntry he with rfl | he
        · refine Decidable.byContradiction fun hge => hne ?_
          exact String.le_antisymm (String.not_lt.1 hlt) (String.not_lt.1 hge)
        · exact hk e he

/-- The map without entries. -/
def empty : SymbolWidth := ⟨[], List.Pairwise.nil⟩

/-- The map with a value under a key. -/
def insert (m : SymbolWidth) (key : String) (value : Bool) : SymbolWidth :=
  ⟨insertEntry key value m.entries, ascending_insertEntry key value m.ascending⟩

/-- The map without a key. -/
def erase (m : SymbolWidth) (key : String) : SymbolWidth :=
  ⟨m.entries.filter fun e => e.1 ≠ key, m.ascending.sublist List.filter_sublist⟩

/-- Whether a key is typed full width, if the map has it. -/
def isFullwidth? (m : SymbolWidth) (key : String) : Option Bool := m.entries.get? key

/-- The map with entries inserted one after another. -/
def ofPairs (pairs : List (String × Bool)) : SymbolWidth :=
  pairs.foldl (fun m (key, value) => m.insert key value) empty

/-! ## The closed set -/

/-- The symbols whose width can be set, each with the width it has unless a document says
otherwise: digits and a few signs are half width. -/
def symbols : List (String × Bool) :=
  [("0", false), ("1", false), ("2", false), ("3", false), ("4", false), ("5", false),
   ("6", false), ("7", false), ("8", false), ("9", false), ("!", true), ("\"", true),
   ("#", false), ("$", false), ("%", false), ("&", false), ("'", true), ("(", true),
   (")", true), ("*", true), ("+", true), (",", true), ("-", true), (".", true),
   ("/", true), (":", true), (";", true), ("<", true), ("=", true), (">", true),
   ("?", true), ("@", false), ("[", true), ("\\", false), ("]", true), ("^", false),
   ("_", false), ("\x60", false), ("\x7b", true), ("|", false), ("\x7d", true), ("~", true)]

/-- The width of a symbol unless a document says otherwise; none for a key that is no symbol. -/
def standardWidth? (key : String) : Option Bool :=
  (symbols.find? fun symbol => symbol.1 = key).map Prod.snd

/-- Every symbol with its width unless a document says otherwise. -/
def standard : SymbolWidth := ofPairs symbols

/-- The map with the width of a symbol set; none for a key that is no symbol. -/
def set? (m : SymbolWidth) (key : String) (fullwidth : Bool) : Option SymbolWidth :=
  if (standardWidth? key).isSome then some (m.insert key fullwidth) else none

/-- The map over exactly the closed set: a missing symbol gets its width back and any other key
is dropped. -/
def canonical (m : SymbolWidth) : SymbolWidth :=
  m.entries.foldl (fun out (key, fullwidth) => (out.set? key fullwidth).getD out) standard

/-! ## In a document -/

/-- The value as a document holds it. -/
def encode (m : SymbolWidth) : Json :=
  .object (m.entries.map fun (key, fullwidth) => (key, .bool fullwidth))

/-- A map of truth values under any keys, read strictly. -/
def decode? (value : Json) : Option SymbolWidth := do
  let pairs ← (← value.members?).mapM fun (key, value) => value.bool?.map (key, ·)
  return ofPairs pairs

/-- The value under a patch, which overwrites only symbols that the value has. -/
def overlay (base : SymbolWidth) : Json → SymbolWidth
  | .object patch =>
    symbols.foldl (fun m (key, _) =>
      match m.isFullwidth? key with
      | some fullwidth => m.insert key (Patch.flag patch key fullwidth)
      | none => m) base
  | _ => base

/-- The value of whatever a document holds. -/
def normalize (raw : Option Json) : SymbolWidth := standard.overlay (raw.getD .null)

end SymbolWidth

end KanaSettings
