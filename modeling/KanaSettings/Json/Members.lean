/-!
# Named members in order

The members of a JSON object, as a list of pairs whose order is part of the value.  Looking up
a name finds its first pair.  Putting a value under a name replaces it there, or appends a new
pair when the name is new, so that editing a document moves nothing.
-/

namespace KanaSettings

/-- Named values in order. -/
abbrev Members (α : Type) := List (String × α)

namespace Members

variable {α : Type}

/-- The value under a name. -/
def get? : Members α → String → Option α
  | [], _ => none
  | (k, v) :: rest, key => if k = key then some v else get? rest key

/-- The members with a value under a name, in the place the name already has or at the end. -/
def put (key : String) (value : α) : Members α → Members α
  | [] => [(key, value)]
  | (k, v) :: rest => if k = key then (key, value) :: rest else (k, v) :: put key value rest

/-- The value under a name that occurs exactly once. -/
def only? (ms : Members α) (key : String) : Option α :=
  match ms.filter fun m => m.1 = key with
  | [(_, value)] => some value
  | _ => none

/-- The names in order. -/
def keys (ms : Members α) : List String := ms.map Prod.fst

/-- Put pairs one after another: of several under one name the first gives the place and the
last the value. -/
def ofPairs (pairs : List (String × α)) : Members α :=
  pairs.foldl (fun ms (key, value) => put key value ms) []

@[simp] theorem get?_nil (key : String) : get? ([] : Members α) key = none := rfl

@[simp] theorem get?_put_self (key : String) (value : α) (ms : Members α) :
    get? (put key value ms) key = some value := by
  induction ms with
  | nil => simp [put, get?]
  | cons m ms ih =>
    obtain ⟨k, v⟩ := m
    by_cases h : k = key <;> simp [put, get?, h, ih]

theorem get?_put_of_ne {key other : String} (h : key ≠ other) (value : α) (ms : Members α) :
    get? (put key value ms) other = get? ms other := by
  induction ms with
  | nil => simp [put, get?, h]
  | cons m ms ih =>
    obtain ⟨k, v⟩ := m
    by_cases hk : k = key
    · subst hk; simp [put, get?, h]
    · by_cases ho : k = other
      · simp [put, get?, ho, if_neg (ho ▸ hk)]
      · simp [put, get?, hk, ho, ih]

theorem keys_put (key : String) (value : α) (ms : Members α) :
    keys (put key value ms) = if key ∈ keys ms then keys ms else keys ms ++ [key] := by
  induction ms with
  | nil => simp [put, keys]
  | cons m ms ih =>
    obtain ⟨k, v⟩ := m
    by_cases h : k = key
    · subst h; simp [put, keys]
    · have ih' := ih
      simp only [keys] at ih'
      by_cases hm : key ∈ List.map Prod.fst ms <;>
        simp [put, keys, h, Ne.symm h, ih', hm]

/-- Putting a value under a name leaves the members under other names as they are, in their
order. -/
theorem filter_put (test : String → Bool) {key : String} (h : test key = false) (value : α)
    (ms : Members α) :
    (put key value ms).filter (fun m => test m.1) = ms.filter fun m => test m.1 := by
  induction ms with
  | nil => simp [put, h]
  | cons m ms ih =>
    obtain ⟨k, v⟩ := m
    by_cases hk : k = key
    · subst hk; simp [put, h]
    · simp [put, hk, List.filter_cons, ih]

theorem keys_prefix_put (key : String) (value : α) (ms : Members α) :
    keys ms <+: keys (put key value ms) := by
  rw [keys_put]
  split
  · exact List.prefix_refl _
  · exact List.prefix_append _ _

end Members

end KanaSettings
