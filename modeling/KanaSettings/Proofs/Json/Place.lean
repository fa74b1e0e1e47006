import KanaSettings.Proofs.Json.Outline

/-!
# Places in a value

Names and indices lead from a value to what stands in it.  What is kept for a text has at each place
what is kept for what the text spells there, and a value that is written spells at each place what
stands there.
-/

namespace KanaSettings

namespace Members

variable {α β : Type} {ms : Members α}

/-- The value of the last pair with a name. -/
def last? : Members α → String → Option α
  | [], _ => none
  | (k, v) :: rest, key => (last? rest key).or (if k = key then some v else none)

lemma get?_foldl_put (pairs : List (String × α)) (ms : Members α) (key : String) :
    get? (pairs.foldl (fun ms (key, value) => put key value ms) ms) key =
      (last? pairs key).or (ms.get? key) := by
  induction pairs generalizing ms with
  | nil => rfl
  | cons pair pairs ih =>
    obtain ⟨k, v⟩ := pair
    rw [List.foldl_cons, ih, last?, Option.or_assoc]
    by_cases same : k = key
    · subst same
      rw [get?_put_self, if_pos rfl, Option.some_or]
    · rw [get?_put_of_ne same, if_neg same, Option.none_or]

lemma get?_ofPairs (pairs : List (String × α)) (key : String) :
    (ofPairs pairs).get? key = last? pairs key := by
  rw [ofPairs, get?_foldl_put, get?_nil, Option.or_none]

lemma last?_eq_get? (distinct : ms.keys.Nodup) (key : String) : ms.last? key = ms.get? key := by
  rw [← get?_ofPairs, ofPairs_of_nodup distinct]

lemma last?_map (f : α → β) (ms : Members α) (key : String) :
    last? (ms.map fun m => (m.1, f m.2)) key = (ms.last? key).map f := by
  induction ms with
  | nil => rfl
  | cons m ms ih =>
    rw [List.map_cons, last?, last?, ih, Option.map_or]
    split <;> rfl

lemma rel_last? {R : α → β → Prop} {as : Members α} {bs : Members β}
    (related : List.Forall₂ (Rel R) as bs) (key : String) :
    Option.Rel R (as.last? key) (bs.last? key) := by
  induction related with
  | nil => exact .none
  | @cons _ _ as bs first others ih =>
    obtain ⟨name, first⟩ := first
    rw [last?, last?]
    generalize last? as key = a, last? bs key = b at ih
    cases ih with
    | some related => simpa using Option.Rel.some related
    | none =>
      by_cases same : name = key
      · simpa [same] using Option.Rel.some first
      · simp [same]

lemma exists_of_last? {R : α → β → Prop} {as : Members α} {bs : Members β}
    (related : List.Forall₂ (Rel R) as bs) {key : String} {a : α} (h : as.last? key = some a) :
    ∃ b, bs.last? key = some b ∧ R a b := by
  have last := rel_last? related key
  rw [h] at last
  generalize bs.last? key = found at last ⊢
  cases last with
  | some related => exact ⟨_, rfl, related⟩

end Members

namespace Json

/-- A step into a value. -/
inductive Step where
  | member (name : String)
  | item (index : Nat)
deriving DecidableEq

/-- What stands at a place in a value. -/
def at? : Json → List Step → Option Json
  | value, [] => some value
  | .object members, .member name :: place => (Members.get? members name).bind (at? · place)
  | .array items, .item index :: place => items[index]?.bind (at? · place)
  | _, _ :: _ => none

/-- What a text spells at a place; of several members with one name the last one counts. -/
def Written.at? : Written → List Step → Option Written
  | spelled, [] => some spelled
  | .object members, .member name :: place => (Members.last? members name).bind (at? · place)
  | .array items, .item index :: place => items[index]?.bind (at? · place)
  | _, _ :: _ => none

lemma exists_of_getElem? {α β : Type} {R : α → β → Prop} {as : List α} {bs : List β}
    (related : List.Forall₂ R as bs) {i : Nat} {a : α} (h : as[i]? = some a) :
    ∃ b, bs[i]? = some b ∧ R a b := by
  obtain ⟨inside, rfl⟩ := List.getElem?_eq_some_iff.1 h
  have inside' := related.length_eq ▸ inside
  exact ⟨bs[i], List.getElem?_eq_getElem inside', related.get inside inside'⟩

/-- What is kept for a text has at each place what is kept for what the text spells there. -/
theorem exists_at?_of_keeps {w u : Written} {v : Json} (keeps : w.Keeps v) {place : List Step}
    (found : w.at? place = some u) : ∃ t, v.at? place = some t ∧ u.Keeps t := by
  induction place generalizing w v with
  | nil =>
    rw [Written.at?] at found
    cases found
    exact ⟨v, by rw [at?], keeps⟩
  | cons step place ih =>
    cases keeps with
    | array each =>
      cases step with
      | member name => cases found
      | item index =>
        rw [Written.at?] at found
        obtain ⟨inner, there, found⟩ := Option.bind_eq_some_iff.1 found
        obtain ⟨kept, here, keeps⟩ := exists_of_getElem? each there
        obtain ⟨t, stands, keeps⟩ := ih keeps found
        exact ⟨t, by rw [at?, here, Option.bind_some, stands], keeps⟩
    | object each =>
      cases step with
      | item index => cases found
      | member name =>
        rw [Written.at?] at found
        obtain ⟨inner, there, found⟩ := Option.bind_eq_some_iff.1 found
        obtain ⟨kept, here, keeps⟩ := Members.exists_of_last? each there
        obtain ⟨t, stands, keeps⟩ := ih keeps found
        exact ⟨t, by rw [at?, Members.get?_ofPairs, here, Option.bind_some, stands], keeps⟩
    -- No step leads into anything else.
    | _ => cases step <;> cases found

/-- A value that is written spells at each place what stands there. -/
theorem at?_written {v t : Json} (distinct : v.Distinct) {place : List Step}
    (found : v.at? place = some t) : v.written.at? place = some t.written := by
  induction place generalizing v with
  | nil =>
    rw [at?] at found
    cases found
    rw [Written.at?]
  | cons step place ih =>
    cases v with
    | array items =>
      cases step with
      | member name => cases found
      | item index =>
        rw [at?] at found
        obtain ⟨inner, there, found⟩ := Option.bind_eq_some_iff.1 found
        rw [Distinct] at distinct
        have later := ih (distinct inner (List.mem_of_getElem? there)) found
        rw [written, Written.at?, List.getElem?_map, there, Option.map_some, Option.bind_some, later]
    | object members =>
      cases step with
      | item index => cases found
      | member name =>
        rw [at?] at found
        obtain ⟨inner, there, found⟩ := Option.bind_eq_some_iff.1 found
        rw [Distinct] at distinct
        have later := ih (distinct.2 _ (Members.mem_of_get?_eq_some there)) found
        -- Of tokens the last of one key counts, but here no key occurs twice.
        rw [written, Written.at?, Members.last?_map, Members.last?_eq_get? distinct.1, there,
          Option.map_some, Option.bind_some, later]
    | _ => cases step <;> cases found

end Json

end KanaSettings
