import KanaSettings.Json.Reader
import KanaSettings.Proofs.Json.Shape

/-!
# What is read

Whatever text a value is read from, no object in it has a name twice, and it nests no deeper than the
reader may go.  A reader that may go deeper reads the same.
-/

namespace KanaSettings.Json

open Reader

/-! ## Lists -/

section

variable {α : Type} {closing : Char} {item : Reader α}

/-- Each item of a list was read somewhere. -/
lemma items_forall {P : α → Prop} (each : ∀ cs a rest, item cs = some (a, rest) → P a) {bound : Nat}
    {seen as : List α} {cs rest : List Char} (before : ∀ a ∈ seen, P a)
    (h : items closing item bound seen cs = some (as, rest)) : ∀ a ∈ as, P a := by
  induction bound generalizing seen cs with
  | zero => cases h
  | succ bound ih =>
    unfold items at h
    split at h
    · cases h
    · rename_i a left found
      have all : ∀ b ∈ a :: seen, P b := List.forall_mem_cons.2 ⟨each _ _ _ found, before⟩
      split at h
      · cases h
      · split_ifs at h
        · exact ih all h
        · cases h
          exact fun b mem => all b (List.mem_reverse.1 mem)

lemma list_forall {P : α → Prop} (each : ∀ cs a rest, item cs = some (a, rest) → P a) {bound : Nat}
    {as : List α} {cs rest : List Char}
    (h : list closing item bound cs = some (as, rest)) : ∀ a ∈ as, P a := by
  unfold list at h
  split at h
  · cases h
  · split_ifs at h
    · cases h
      simp
    · exact items_forall each (by simp) h

variable {other : Reader α}

lemma items_mono (more : ∀ cs r, item cs = some r → other cs = some r) {bound : Nat}
    {seen : List α} {cs : List Char} {r : List α × List Char}
    (h : items closing item bound seen cs = some r) :
    items closing other bound seen cs = some r := by
  induction bound generalizing seen cs with
  | zero => cases h
  | succ bound ih =>
    unfold items at h ⊢
    split at h
    · cases h
    · rename_i a left found
      rw [more _ _ found]
      dsimp only
      split at h
      · cases h
      · split_ifs at h ⊢
        · exact ih h
        · exact h

lemma list_mono (more : ∀ cs r, item cs = some r → other cs = some r) {bound : Nat}
    {cs : List Char} {r : List α × List Char}
    (h : list closing item bound cs = some r) : list closing other bound cs = some r := by
  unfold list at h ⊢
  split at h
  · cases h
  · split_ifs at h ⊢
    · exact h
    · exact items_mono more h

end

lemma exists_of_member {α : Type} {read : String → Reader α} {cs rest : List Char} {m : String × α}
    (h : member read cs = some (m, rest)) : ∃ cs, read m.1 cs = some (m.2, rest) := by
  unfold member at h
  split at h
  · cases h
  · split at h
    · rename_i left _
      unfold Reader.map at h
      split at h
      · rename_i found
        cases h
        exact ⟨_, found⟩
      · cases h
    · cases h

lemma member_mono {α : Type} {read other : Reader α}
    (more : ∀ cs r, read cs = some r → other cs = some r) {cs : List Char}
    {r : (String × α) × List Char} (h : member (fun _ => read) cs = some r) :
    member (fun _ => other) cs = some r := by
  unfold member at h ⊢
  split at h
  · cases h
  · split at h
    · rename_i left _
      unfold Reader.map at h ⊢
      split at h
      · rename_i found
        dsimp only at found ⊢
        rw [more _ _ found]
        exact h
      · cases h
    · cases h

/-! ## Values -/

/-- How a value was read: it is flat and may be read anywhere, or it is a list that was read one
level below. -/
inductive Reads (bound : Nat) : (depth : Nat) → List Char → Json → List Char → Prop where
  | flat {depth : Nat} {cs rest : List Char} {v : Json} (nesting : v.nesting = 0)
      (distinct : v.Distinct) (any : ∀ depth, Reader.value bound depth cs = some (v, rest)) :
      Reads bound depth cs v rest
  | array {below : Nat} {cs cs' rest : List Char} {items : List Json}
      (starts : skipBlanks cs = '[' :: cs')
      (read : list ']' (Reader.value bound below) bound cs' = some (items, rest)) :
      Reads bound (below + 1) cs (.array items) rest
  | object {below : Nat} {cs cs' rest : List Char} {pairs : List (String × Json)}
      (starts : skipBlanks cs = '\x7b' :: cs')
      (read : list '\x7d' (member fun _ => Reader.value bound below) bound cs' =
        some (pairs, rest)) :
      Reads bound (below + 1) cs (.object (Members.ofPairs pairs)) rest

variable {bound depth : Nat} {cs rest : List Char} {v : Json}

lemma Reads.of_map {α : Type} {read : Option α} {make : α → Json × List Char}
    (h : read.map make = some (v, rest))
    (flat : ∀ a, (make a).1.nesting = 0 ∧ (make a).1.Distinct)
    (any : ∀ depth, Reader.value bound depth cs = some (v, rest)) : Reads bound depth cs v rest := by
  obtain ⟨a, -, made⟩ := Option.map_eq_some_iff.1 h
  have flat := flat a
  rw [made] at flat
  exact .flat flat.1 flat.2 any

lemma reads_of_value (h : Reader.value bound depth cs = some (v, rest)) :
    Reads bound depth cs v rest := by
  rw [Reader.value] at h
  split at h
  · cases h
  · rename_i c cs' starts
    -- In the branches without parts the depth plays no role, so `h` is what is wanted at any other.
    split_ifs at h with quote bracket brace null true' false'
    · refine .of_map h (by simp [nesting, Distinct]) fun depth => ?_
      rw [Reader.value, starts]
      simpa [quote] using h
    · subst bracket
      cases depth with
      | zero => cases h
      | succ below =>
        simp only [Reader.map] at h
        split at h
        · rename_i items left read
          cases h
          exact .array starts read
        · cases h
    · subst brace
      cases depth with
      | zero => cases h
      | succ below =>
        simp only [Reader.map] at h
        split at h
        · rename_i pairs left read
          cases h
          exact .object starts read
        · cases h
    · refine .of_map h (by simp [nesting, Distinct]) fun depth => ?_
      rw [Reader.value, starts]
      simpa [null] using h
    · refine .of_map h (by simp [nesting, Distinct]) fun depth => ?_
      rw [Reader.value, starts]
      simpa [true'] using h
    · refine .of_map h (by simp [nesting, Distinct]) fun depth => ?_
      rw [Reader.value, starts]
      simpa [false'] using h
    · have any : ∀ depth, Reader.value bound depth cs = some (v, rest) := fun depth => by
        rw [Reader.value, starts]
        simpa [quote, bracket, brace, null, true', false'] using h
      simp only [Reader.map] at h
      split at h
      · cases h
        exact .flat (by simp [nesting]) (by simp [Distinct]) any
      · cases h

/-- What is read has no name twice in an object. -/
theorem distinct_of_value (h : Reader.value bound depth cs = some (v, rest)) : v.Distinct := by
  induction depth generalizing cs rest v with
  | zero =>
    cases reads_of_value h with
    | flat nesting distinct any => exact distinct
  | succ below ih =>
    cases reads_of_value h with
    | flat nesting distinct any => exact distinct
    | array starts read =>
      rw [Distinct]
      exact list_forall (fun _ _ _ => ih) read
    | object starts read =>
      rw [Distinct]
      refine ⟨Members.nodup_keys_ofPairs _, fun m mem => ?_⟩
      refine list_forall (P := fun m : String × Json => m.2.Distinct) (fun cs m rest found => ?_) read
        m (Members.mem_of_mem_ofPairs mem)
      obtain ⟨cs, found⟩ := exists_of_member found
      exact ih found

/-- What is read nests no deeper than it may. -/
theorem nesting_le_of_value (h : Reader.value bound depth cs = some (v, rest)) :
    v.nesting ≤ depth := by
  induction depth generalizing cs rest v with
  | zero =>
    cases reads_of_value h with
    | flat nesting distinct any => exact nesting.le
  | succ below ih =>
    cases reads_of_value h with
    | flat nesting distinct any => exact nesting.le.trans (Nat.zero_le _)
    | array starts read =>
      exact nesting_array_le.2 ⟨below, rfl, list_forall (fun _ _ _ => ih) read⟩
    | object starts read =>
      refine nesting_object_le.2 ⟨below, rfl, fun m mem => ?_⟩
      refine list_forall (P := fun m : String × Json => m.2.nesting ≤ below)
        (fun cs m rest found => ?_) read m (Members.mem_of_mem_ofPairs mem)
      obtain ⟨cs, found⟩ := exists_of_member found
      exact ih found

/-- Who may go deeper reads the same. -/
theorem value_mono {deeper : Nat} (h : Reader.value bound depth cs = some (v, rest))
    (le : depth ≤ deeper) : Reader.value bound deeper cs = some (v, rest) := by
  induction depth generalizing cs rest v deeper with
  | zero =>
    cases reads_of_value h with
    | flat nesting distinct any => exact any deeper
  | succ below ih =>
    cases reads_of_value h with
    | flat nesting distinct any => exact any deeper
    | array starts read =>
      obtain ⟨deeper, rfl⟩ := Nat.exists_eq_add_of_le' (Nat.one_le_of_lt le)
      have more := list_mono (fun cs r found => ih found (Nat.le_of_succ_le_succ le)) read
      rw [Reader.value, starts]
      simp [Reader.map, more]
    | object starts read =>
      obtain ⟨deeper, rfl⟩ := Nat.exists_eq_add_of_le' (Nat.one_le_of_lt le)
      have more := list_mono (fun cs r => member_mono fun cs r found =>
        ih found (Nat.le_of_succ_le_succ le)) read
      rw [Reader.value, starts]
      simp [Reader.map, members, more]

/-! ## Whole texts -/

lemma value_of_parse? {text : String} {v : Json} (h : parse? text = some v) :
    ∃ rest, Reader.value text.toList.length maxDepth text.toList = some (v, rest) := by
  simp only [parse?, Reader.run] at h
  split at h
  · cases h
  · rename_i value rest found
    split at h
    · cases h
      exact ⟨rest, found⟩
    · cases h

end KanaSettings.Json
