import KanaSettings.Proofs.Json.Reading
import KanaSettings.Proofs.Json.Written

/-!
# Values without their numbers

Of all that a value is made of only its numbers can be lost when it is written and read again.  So the
outline of a value, in which every number is zero, is the same for what was written and for what is
read, and a value without numbers is read as it was written.
-/

namespace KanaSettings.Json

/-- A value with every number made zero. -/
def outline (v : Json) : Json := v.mapNumbers fun _ => .int 0

/-! ## What is read is what was written, but for the numbers -/

lemma map_eq_map_of_forall₂ {α β γ : Type} {R : α → β → Prop} {f : α → γ} {g : β → γ}
    {as : List α} {bs : List β} (h : List.Forall₂ R as bs)
    (each : ∀ a ∈ as, ∀ b, R a b → g b = f a) : bs.map g = as.map f := by
  induction h with
  | nil => rfl
  | cons related others ih =>
    obtain ⟨first, rest⟩ := List.forall_mem_cons.1 each
    rw [List.map_cons, List.map_cons, first _ related, ih rest]

lemma exists_of_keeps_array {items : List Json} {w : Json}
    (keeps : Written.Keeps (array items).written w) : ∃ others, w = .array others ∧
      List.Forall₂ (fun v w => Written.Keeps v.written w) items others := by
  rw [written] at keeps
  cases keeps with
  | array each => exact ⟨_, rfl, List.forall₂_map_left_iff.1 each⟩

lemma exists_of_keeps_object {members : Members Json} (nodup : members.keys.Nodup) {w : Json}
    (keeps : Written.Keeps (object members).written w) : ∃ others, w = .object others ∧
      List.Forall₂ (fun m n => m.1 = n.1 ∧ Written.Keeps m.2.written n.2) members others := by
  rw [written] at keeps
  cases keeps with
  | @object _ pairs each =>
    have each : List.Forall₂ (fun m n => m.1 = n.1 ∧ Written.Keeps m.2.written n.2) members pairs := by
      refine (List.forall₂_map_left_iff.1 each).imp ?_
      rintro ⟨name, v⟩ _ ⟨_, keeps⟩
      exact ⟨rfl, keeps⟩
    have names : Members.keys pairs = members.keys :=
      map_eq_map_of_forall₂ each fun m _ n same => same.1.symm
    exact ⟨pairs, by rw [Members.ofPairs_of_nodup (names ▸ nodup)], each⟩

/-- What is kept for the tokens of a value is the value with its numbers as they are read. -/
theorem eq_reread_of_keeps {v w : Json} (distinct : v.Distinct)
    (keeps : Written.Keeps v.written w) : w = v.reread := by
  unfold reread
  -- By induction on the value; that no key occurs twice makes what is kept an object again.
  induction v using Json.induction generalizing w with
  | null | bool value | string value =>
    rw [written] at keeps
    cases keeps
    rw [mapNumbers]
  | number n =>
    rw [written] at keeps
    cases keeps with
    | number kept => rw [mapNumbers, Number.reread_eq_of_token kept]
  | array items ih =>
    rw [Distinct] at distinct
    obtain ⟨others, rfl, each⟩ := exists_of_keeps_array keeps
    have same := map_eq_map_of_forall₂ (f := mapNumbers Number.reread) (g := id) each
      fun item mem w keeps => ih item mem (distinct item mem) keeps
    rw [mapNumbers, ← same, List.map_id]
  | object members ih =>
    rw [Distinct] at distinct
    obtain ⟨others, rfl, each⟩ := exists_of_keeps_object distinct.1 keeps
    have member : ∀ m ∈ members, ∀ n : String × Json, m.1 = n.1 ∧ Written.Keeps m.2.written n.2 →
        id n = (m.1, m.2.mapNumbers Number.reread) := by
      intro m mem n same
      exact Prod.ext same.1.symm (ih m mem (distinct.2 m mem) same.2)
    rw [mapNumbers, ← map_eq_map_of_forall₂ each member, List.map_id]

/-- A value is kept for its own tokens only if its numbers read back. -/
theorem readsBack_of_keeps {v : Json} (distinct : v.Distinct) (keeps : Written.Keeps v.written v) :
    ∀ n ∈ v.numbers, n.ReadsBack := by
  induction v using Json.induction with
  | null | bool value | string value => simp [numbers]
  | number n =>
    rw [written] at keeps
    cases keeps with
    | number kept => simpa [numbers, Number.readsBack_iff] using kept
  | array items ih =>
    rw [Distinct] at distinct
    obtain ⟨others, same, each⟩ := exists_of_keeps_array keeps
    cases same
    rw [numbers]
    intro n mem
    obtain ⟨item, mem, found⟩ := List.mem_flatMap.1 mem
    exact ih item mem (distinct item mem) (List.forall₂_same.1 each item mem) n found
  | object members ih =>
    rw [Distinct] at distinct
    obtain ⟨others, same, each⟩ := exists_of_keeps_object distinct.1 keeps
    cases same
    rw [numbers]
    intro n mem
    obtain ⟨m, mem, found⟩ := List.mem_flatMap.1 mem
    exact ih m mem (distinct.2 m mem) (List.forall₂_same.1 each m mem).2 n found

open Reader (Ends)

/-- Whatever is read of a value that was written is what is kept for its tokens, and reading stops
where the value ends. -/
lemma keeps_of_value_spell {v w : Json} {layout : Layout} {bound depth : Nat} {rest left : List Char}
    (long : (spell layout v).length ≤ bound) (ends : Ends rest)
    (h : Reader.value bound depth (spell layout v ++ rest) = some (w, left)) :
    Written.Keeps v.written w ∧ left = rest := by
  have deep := value_mono h (le_max_left depth v.nesting)
  obtain ⟨spelled, read, keeps⟩ := exists_written_of_value deep
  rw [written_spell v layout (le_max_right depth v.nesting) long ends] at read
  cases read
  exact ⟨keeps, rfl⟩

/-- What a text holds that a value was written into is the value with its numbers as they are read. -/
theorem eq_reread_of_parse?_pretty {v w : Json} (distinct : v.Distinct)
    (h : parse? v.pretty = some w) : w = v.reread := by
  obtain ⟨rest, reads⟩ := value_of_parse? h
  rw [toList_pretty] at reads
  have read : Reader.value (spell (.indented 0) v).length maxDepth (spell (.indented 0) v ++ []) =
      some (w, rest) := by rwa [List.append_nil]
  exact eq_reread_of_keeps distinct (keeps_of_value_spell le_rfl (by rintro c ⟨⟩) read).1

end KanaSettings.Json
