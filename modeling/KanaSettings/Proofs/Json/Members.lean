import KanaSettings.Json.Members
import Mathlib.Tactic

/-!
# Members under different names

An object that was read has no name twice, and none is stored twice in it.  Then to look up a name
is to find the one member that bears it, to put back what is there changes nothing, and to put the
members one after another into an empty object is to list them.
-/

namespace KanaSettings.Members

variable {α : Type} {ms : Members α} {key : String} {value : α}

@[simp] lemma keys_nil : keys ([] : Members α) = [] := rfl

@[simp] lemma keys_cons (m : String × α) (ms : Members α) : keys (m :: ms) = m.1 :: keys ms := rfl

@[simp] lemma keys_append (a b : Members α) : keys (a ++ b) = keys a ++ keys b := by
  simp [keys]

lemma mem_of_get?_eq_some (h : get? ms key = some value) : (key, value) ∈ ms := by
  induction ms with
  | nil => cases h
  | cons m ms ih =>
    obtain ⟨k, v⟩ := m
    by_cases same : k = key
    · subst same
      simp only [get?, if_true, Option.some.injEq] at h
      exact h ▸ List.mem_cons_self
    · simp only [get?, if_neg same] at h
      exact List.mem_cons_of_mem _ (ih h)

lemma isSome_get?_iff : (get? ms key).isSome ↔ key ∈ keys ms := by
  induction ms with
  | nil => simp
  | cons m ms ih =>
    obtain ⟨k, v⟩ := m
    by_cases same : k = key
    · simp [get?, same]
    · simp [get?, same, Ne.symm same, ih]

lemma get?_eq_none_iff : get? ms key = none ↔ key ∉ keys ms := by
  rw [← Option.not_isSome_iff_eq_none, isSome_get?_iff]

/-- Where no name stands twice, a name leads to the one member that bears it. -/
lemma get?_eq_some_iff (distinct : (keys ms).Nodup) :
    get? ms key = some value ↔ (key, value) ∈ ms := by
  refine ⟨mem_of_get?_eq_some, fun mem => ?_⟩
  induction ms with
  | nil => cases mem
  | cons m ms ih =>
    obtain ⟨k, v⟩ := m
    rw [keys_cons, List.nodup_cons] at distinct
    rcases List.mem_cons.1 mem with same | mem
    · cases same
      simp [get?]
    · have apart : k ≠ key := by
        rintro rfl
        exact distinct.1 (List.mem_map.2 ⟨(_, value), mem, rfl⟩)
      rw [get?, if_neg apart]
      exact ih distinct.2 mem

lemma put_of_get?_eq_some (h : get? ms key = some value) : put key value ms = ms := by
  induction ms with
  | nil => cases h
  | cons m ms ih =>
    obtain ⟨k, v⟩ := m
    by_cases same : k = key
    · subst same
      simp only [get?, if_true, Option.some.injEq] at h
      simp [put, h]
    · simp only [get?, if_neg same] at h
      simp [put, same, ih h]

lemma nodup_keys_put (distinct : (keys ms).Nodup) (key : String) (value : α) :
    (keys (put key value ms)).Nodup := by
  rw [keys_put]
  split
  · exact distinct
  · rename_i new
    refine List.nodup_append.2 ⟨distinct, List.nodup_singleton key, fun other mem last hlast => ?_⟩
    rw [List.mem_singleton.1 hlast]
    exact ne_of_mem_of_not_mem mem new

/-- What is put into members is one of them afterwards, and all others were there before. -/
lemma mem_put {m : String × α} (h : m ∈ put key value ms) : m = (key, value) ∨ m ∈ ms := by
  induction ms with
  | nil => exact .inl (List.mem_singleton.1 h)
  | cons first ms ih =>
    obtain ⟨k, v⟩ := first
    simp only [put] at h
    split at h
    · exact (List.mem_cons.1 h).imp_right (List.mem_cons_of_mem _)
    · rcases List.mem_cons.1 h with rfl | h
      · exact .inr List.mem_cons_self
      · exact (ih h).imp_right (List.mem_cons_of_mem _)

/-! ## Members that are put one after another -/

lemma put_of_not_mem (new : key ∉ keys ms) (value : α) : put key value ms = ms ++ [(key, value)] := by
  induction ms with
  | nil => rfl
  | cons m ms ih =>
    obtain ⟨k, v⟩ := m
    rw [keys_cons, List.mem_cons, not_or] at new
    simp [put, Ne.symm new.1, ih new.2]

lemma foldl_put_of_nodup (pairs : List (String × α)) (distinct : (keys (ms ++ pairs)).Nodup) :
    pairs.foldl (fun ms (key, value) => put key value ms) ms = ms ++ pairs := by
  induction pairs generalizing ms with
  | nil => simp
  | cons pair pairs ih =>
    obtain ⟨k, value⟩ := pair
    have new : k ∉ keys ms := by
      intro mem
      rw [keys_append, List.nodup_append] at distinct
      exact distinct.2.2 k mem k (by simp) rfl
    have rest : (keys (ms ++ [(k, value)] ++ pairs)).Nodup := by simpa using distinct
    simpa [put_of_not_mem new] using ih rest

lemma ofPairs_of_nodup {pairs : List (String × α)} (distinct : (keys pairs).Nodup) :
    ofPairs pairs = pairs :=
  foldl_put_of_nodup pairs (by simpa using distinct)

lemma foldl_put_induction {motive : Members α → Prop} (pairs : List (String × α))
    (first : motive ms)
    (keeps : ∀ pair ∈ pairs, ∀ ms, motive ms → motive (put pair.1 pair.2 ms)) :
    motive (pairs.foldl (fun ms (key, value) => put key value ms) ms) := by
  induction pairs generalizing ms with
  | nil => exact first
  | cons pair pairs ih =>
    refine ih (keeps pair List.mem_cons_self ms first) fun p mem => ?_
    exact keeps p (List.mem_cons_of_mem _ mem)

lemma nodup_keys_ofPairs (pairs : List (String × α)) : (keys (ofPairs pairs)).Nodup :=
  foldl_put_induction (motive := fun ms => (keys ms).Nodup) pairs List.nodup_nil
    fun pair _ _ distinct => nodup_keys_put distinct pair.1 pair.2

lemma mem_of_mem_ofPairs {pairs : List (String × α)} {m : String × α} (h : m ∈ ofPairs pairs) :
    m ∈ pairs := by
  have all : ∀ m ∈ ofPairs pairs, m ∈ pairs := by
    refine foldl_put_induction (motive := fun ms => ∀ m ∈ ms, m ∈ pairs) pairs (by simp)
      fun pair mem ms old m h => ?_
    rcases mem_put h with rfl | h
    · exact mem
    · exact old m h
  exact all m h

/-! ## Two members that are put -/

lemma mem_keys_of_get?_eq_some (h : get? ms key = some value) : key ∈ keys ms :=
  List.mem_map.2 ⟨_, mem_of_get?_eq_some h, rfl⟩

/-- Where a value is put does not depend on the value. -/
lemma exists_put_eq_append (key : String) (ms : Members α) :
    ∃ before after, ∀ value, put key value ms = before ++ (key, value) :: after := by
  induction ms with
  | nil => exact ⟨[], [], fun _ => rfl⟩
  | cons m ms ih =>
    obtain ⟨k, v⟩ := m
    by_cases same : k = key
    · exact ⟨[], ms, fun value => by simp [put, same]⟩
    · obtain ⟨before, after, h⟩ := ih
      exact ⟨(k, v) :: before, after, fun value => by simp [put, same, h]⟩

lemma put_put_self (key : String) (value other : α) (ms : Members α) :
    put key value (put key other ms) = put key value ms := by
  induction ms with
  | nil => simp [put]
  | cons m ms ih =>
    obtain ⟨k, v⟩ := m
    by_cases same : k = key <;> simp [put, same, ih]

/-- Two values that are put under different names are in the same places in either order, if one of
the names is there already. -/
lemma put_comm_of_mem {other : String} (apart : key ≠ other)
    (mem : key ∈ keys ms ∨ other ∈ keys ms) (value value' : α) :
    put other value' (put key value ms) = put key value (put other value' ms) := by
  induction ms with
  | nil => simp at mem
  | cons m ms ih =>
    obtain ⟨k, v⟩ := m
    by_cases same : k = key
    · subst same
      simp [put, apart]
    · by_cases same' : k = other
      · subst same'
        simp [put, same]
      · have rest : key ∈ keys ms ∨ other ∈ keys ms := by
          simpa [Ne.symm same, Ne.symm same'] using mem
        simp [put, same, same', ih rest]

lemma put_comm_perm {other : String} (apart : key ≠ other) (value value' : α) (ms : Members α) :
    (put other value' (put key value ms)).Perm (put key value (put other value' ms)) := by
  by_cases mem : key ∈ keys ms ∨ other ∈ keys ms
  · rw [put_comm_of_mem apart mem]
  · obtain ⟨new, new'⟩ := not_or.1 mem
    rw [put_of_not_mem new, put_of_not_mem new', put_of_not_mem (by simp [new', apart.symm]),
      put_of_not_mem (by simp [new, apart]), List.append_assoc, List.append_assoc]
    exact (List.Perm.swap _ _ []).append_left ms

variable {β : Type} (f : α → β)

lemma get?_map (ms : Members α) (key : String) :
    get? (ms.map fun m => (m.1, f m.2)) key = (ms.get? key).map f := by
  induction ms with
  | nil => rfl
  | cons m ms ih =>
    rw [List.map_cons, get?, get?, ih]
    split <;> rfl

lemma put_map (ms : Members α) (key : String) (value : α) :
    put key (f value) (ms.map fun m => (m.1, f m.2)) =
      (ms.put key value).map fun m => (m.1, f m.2) := by
  induction ms with
  | nil => rfl
  | cons m ms ih =>
    obtain ⟨name, v⟩ := m
    rw [List.map_cons, put, put, ih]
    split <;> rfl

lemma keys_map (ms : Members α) : keys (ms.map fun m => (m.1, f m.2)) = keys ms := by
  simp [keys, Function.comp_def]

end KanaSettings.Members
