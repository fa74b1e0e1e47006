import KanaSettings.Proofs.Slice.Field

/-!
# Patches of records

The five records are patched by five functions with some sixty fields between them.  What holds of
all five is said once: a patch sets each field to what it offers for it, and leaves it alone if it
offers nothing that is accepted there.  So two patches that offer the same do the same, whatever
else they hold and in whatever order; and the later one of two patches has the last word.
-/

namespace KanaSettings

/-! ## Members that are left out or moved -/

namespace Members

variable {α : Type} {ms ns : Members α} {key other : String}

lemma get?_filter_ne (apart : key ≠ other) :
    get? (ms.filter fun member => member.1 ≠ key) other = get? ms other := by
  induction ms with
  | nil => rfl
  | cons m ms ih =>
    obtain ⟨k, v⟩ := m
    by_cases left : k = key
    · subst left
      rw [List.filter_cons_of_neg (by simp), ih, get?, if_neg apart]
    · rw [List.filter_cons_of_pos (by simpa using left), get?, get?, ih]

lemma get?_filter_self : get? (ms.filter fun member => member.1 ≠ key) key = none := by
  rw [get?_eq_none_iff]
  simp [keys]

lemma get?_append : get? (ms ++ ns) key = (get? ms key).or (get? ns key) := by
  induction ms with
  | nil => rfl
  | cons m ms ih =>
    obtain ⟨k, v⟩ := m
    by_cases same : k = key <;> simp [get?, same, ih]

/-- Where no name stands twice, the order does not matter to what is found. -/
lemma get?_eq_of_perm (distinct : (keys ms).Nodup) (perm : ms.Perm ns) :
    get? ms key = get? ns key := by
  have distinct' : (keys ns).Nodup := (perm.map Prod.fst).nodup_iff.1 distinct
  refine Option.ext fun value => ?_
  rw [get?_eq_some_iff distinct, get?_eq_some_iff distinct', perm.mem_iff]

end Members

namespace Slice

variable {name : SliceName}

/-! ## One patch -/

lemma closed_standard (name : SliceName) : Closed name (standard name) := by
  cases name with
  | symbolWidth => exact SymbolWidth.closed_standard
  | _ => trivial

lemma closed_overlay {base : name.Value} (closed : Closed name base) (raw : Json) :
    Closed name (overlay name base raw) := by
  cases name with
  | symbolWidth => exact SymbolWidth.closed_overlay closed raw
  | _ => trivial

lemma overlay_of_not_object {base : name.Value} {raw : Json}
    (other : ∀ members, raw ≠ .object members) : overlay name base raw = base := by
  cases raw with
  | object members => exact absurd rfl (other members)
  | _ => cases name <;> rfl

/-- A record is read by patching what it is unless a document says otherwise. -/
lemma normalize_eq (record : name.isSequence = false) (raw : Option Json) :
    normalize name raw = overlay name (standard name) (raw.getD .null) := by
  cases name with
  | romajiTable | userDictionary => cases record
  | _ => rfl

/-- Whatever is read has exactly the fields of its slice. -/
lemma closed_normalize (name : SliceName) (raw : Option Json) :
    Closed name (normalize name raw) := by
  cases name with
  | symbolWidth => exact closed_overlay (closed_standard .symbolWidth) _
  | _ => trivial

lemma prepare_of_closed (record : name.isSequence = false) {value : name.Value}
    (closed : Closed name value) : prepare name value = .ok value := by
  cases name with
  | symbolWidth => exact congrArg Except.ok (SymbolWidth.canonical_of_closed closed)
  | shortcuts | general | zenzai | widthGroups => rfl
  | romajiTable | userDictionary => cases record

lemma patch_object (record : name.isSequence = false) (base : name.Value) (patch : Members Json) :
    Slice.patch name base (.object patch) = .ok (overlay name base (.object patch)) := by
  cases name with
  | romajiTable | userDictionary => cases record
  | _ => rfl

/-- Patches that offer the same for every field do the same. -/
lemma overlay_congr (record : name.isSequence = false) {base : name.Value}
    (closed : Closed name base) {patch other : Members Json}
    (same : ∀ field ∈ fields name, field.offered? patch = field.offered? other) :
    overlay name base (.object patch) = overlay name base (.object other) := by
  refine ext_fields record (closed_overlay closed _) (closed_overlay closed _) fun field mem => ?_
  rw [get_overlay closed _ field mem, get_overlay closed _ field mem, same field mem]

/-- What a record is written as makes that record of any other. -/
lemma overlay_encode (record : name.isSequence = false) {base value : name.Value}
    (closed : Closed name base) (closed' : Closed name value) :
    overlay name base (encode name value) = value := by
  rw [encode_eq record closed']
  refine ext_fields record (closed_overlay closed _) closed' fun field mem => ?_
  rw [get_overlay closed _ field mem, offered?_encode mem, Option.getD_some]

/-- A record that is written is read again. -/
lemma normalize_encode_of_closed (record : name.isSequence = false) {value : name.Value}
    (closed : Closed name value) : normalize name (some (encode name value)) = value := by
  rw [normalize_eq record]
  exact overlay_encode record (closed_standard name) closed

/-- A field under two patches is what the later one offers for it, or else the earlier one. -/
lemma get_overlay_overlay {base : name.Value} (closed : Closed name base)
    (patch next : Members Json) {field : Field name.Value} (mem : field ∈ fields name) :
    field.get (overlay name (overlay name base (.object patch)) (.object next)) =
      ((field.offered? next).or (field.offered? patch)).getD (field.get base) := by
  rw [get_overlay (closed_overlay closed _) _ field mem, get_overlay closed _ field mem]
  cases field.offered? next <;> rfl

lemma overlay_again (record : name.isSequence = false) {base : name.Value}
    (closed : Closed name base) (patch : Members Json) :
    overlay name (overlay name base (.object patch)) (.object patch) =
      overlay name base (.object patch) := by
  have closed' := closed_overlay closed (.object patch)
  refine ext_fields record (closed_overlay closed' _) closed' fun field mem => ?_
  rw [get_overlay_overlay closed patch patch mem, Option.or_self, get_overlay closed _ field mem]

/-! ## The laws of patches -/

/-- What patches do to a record. -/
structure PatchLaws (name : SliceName) : Prop where
  read : ∀ value, Closed name value ↔ ∃ raw, normalize name raw = value
  closed : ∀ base raw, Closed name base → Closed name (overlay name base raw)
  ext : ∀ a b, Closed name a → Closed name b →
    (∀ field ∈ fields name, field.get a = field.get b) → a = b
  taken : ∀ base patch, Closed name base →
    (Slice.patch name base (.object patch)).bind (prepare name) =
      .ok (overlay name base (.object patch))
  /-- A field is what the patch has under its name, if that is accepted there, or else what it
  was. -/
  get : ∀ base patch, Closed name base → ∀ field ∈ fields name,
    field.get (overlay name base (.object patch)) =
      (field.offered? patch).getD (field.get base)
  /-- What a patch has under other names does not matter to a field. -/
  apart : ∀ base (patch other : Members Json), Closed name base → ∀ field ∈ fields name,
    patch.get? field.key = other.get? field.key →
      field.get (overlay name base (.object patch)) = field.get (overlay name base (.object other))
  /-- Members under a name that is no field, or with a value that is not accepted there, might as
  well not be there. -/
  stray : ∀ base (patch : Members Json) key, Closed name base →
    (∀ field ∈ fields name, field.key = key → field.offered? patch = none) →
      overlay name base (.object (patch.filter fun member => member.1 ≠ key)) =
        overlay name base (.object patch)
  order : ∀ base (patch other : Members Json), Closed name base → patch.keys.Nodup →
    patch.Perm other → overlay name base (.object patch) = overlay name base (.object other)
  /-- Of two patches the later one has the last word on a field, or else the earlier one. -/
  twice : ∀ base patch next, Closed name base → ∀ field ∈ fields name,
    field.get (overlay name (overlay name base (.object patch)) (.object next)) =
      ((field.offered? next).or (field.offered? patch)).getD (field.get base)
  again : ∀ base patch, Closed name base →
    overlay name (overlay name base (.object patch)) (.object patch) =
      overlay name base (.object patch)
  written : ∀ base value, Closed name base → Closed name value →
    overlay name base (encode name value) = value
  stored : ∀ patch, overlay name (standard name) (.object patch) =
    normalize name (some (.object patch))
  other : ∀ base raw, (∀ members, raw ≠ .object members) → overlay name base raw = base

/-- The laws of patches hold for every slice that is a record. -/
theorem patch_laws (name : SliceName) (record : name.isSequence = false) : PatchLaws name where
  read value := by
    constructor
    · intro closed
      exact ⟨some (encode name value), normalize_encode_of_closed record closed⟩
    · rintro ⟨raw, rfl⟩
      exact closed_normalize name raw
  closed base raw closed := closed_overlay closed raw
  ext a b closed closed' same := ext_fields record closed closed' same
  taken base patch closed := by
    rw [patch_object record]
    exact prepare_of_closed record (closed_overlay closed _)
  get base patch closed := get_overlay closed patch
  apart base patch other closed field mem same := by
    rw [get_overlay closed _ field mem, get_overlay closed _ field mem, Field.offered?, same,
      Field.offered?]
  -- Two patches that offer the fields the same have the same result, which settles the next two laws.
  stray base patch key closed unaccepted := by
    refine overlay_congr record closed fun field mem => ?_
    by_cases same : field.key = key
    · rw [unaccepted field mem same, Field.offered?, same, Members.get?_filter_self, Option.bind_none]
    · rw [Field.offered?, Field.offered?, Members.get?_filter_ne (Ne.symm same)]
  order base patch other closed distinct perm := by
    refine overlay_congr record closed fun field _ => ?_
    rw [Field.offered?, Field.offered?, Members.get?_eq_of_perm distinct perm]
  twice base patch next closed field mem := get_overlay_overlay closed patch next mem
  again base patch closed := overlay_again record closed patch
  written base value closed closed' := overlay_encode record closed closed'
  stored patch := (normalize_eq record (some (.object patch))).symm
  other base raw other := overlay_of_not_object other

/-- The older name of a width of the space is understood, a choice that there is not and a name that
is no field are passed over, and to say all this again changes nothing. -/
theorem patch_laws_general :
    SliceName.general.isSequence = false ∧
      overlay .general (overlay .general General.standard (.object [("space_input", .string "follow"),
          ("numpad_input", .string "wide"), ("width", .null)]))
        (.object [("space_input", .string "follow"), ("numpad_input", .string "wide"),
          ("width", .null)]) =
        { General.standard with spaceInput := .followInputMode } :=
  ⟨rfl, ((patch_laws .general rfl).again _ _ trivial).trans (by decide)⟩

end Slice

end KanaSettings
