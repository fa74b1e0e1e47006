import KanaSettings.Proofs.Json.RoundTrip

/-!
# Texts with their number tokens

To read a value is to read a text down to its number tokens, and then to decide what number is kept
for each token, and which member is kept of several with one name.  Here the two are taken apart.

Every value that is written can be read that far again, with a token for each of its numbers; it is
only by what is kept for the tokens that what is read differs from what was written.
-/

namespace KanaSettings

/-- The token that a number is written as. -/
def Number.token (n : Number) : Json.Numeral :=
  match Json.Reader.numeral n.text.toList with
  | some (token, _) => token
  | none => ⟨false, [0], [], none⟩

lemma Number.numeral_text (n : Number) :
    Json.Reader.numeral n.text.toList = some (n.token, []) := by
  obtain ⟨token, reads, -⟩ := n.exists_numeral_text
  rw [Number.token, reads]

/-- A number reads back exactly if it is what is kept for its token. -/
lemma Number.readsBack_iff (n : Number) : n.ReadsBack ↔ n.token.number? = some n := by
  rw [Number.ReadsBack, Json.Reader.number, n.numeral_text]
  simp

/-- What is kept for the token of a number is read where the number was written. -/
lemma Number.reread_eq_of_token {n m : Number} (kept : n.token.number? = some m) : n.reread = m := by
  have read : Json.Reader.number n.text.toList = some (m, []) := by
    rw [Json.Reader.number, n.numeral_text]
    simpa using kept
  rw [Number.reread, read]

@[simp] lemma Number.value_token (n : Number) : n.token.value = n.denoted := by
  obtain ⟨token, reads, value⟩ := n.exists_numeral_text
  rw [Number.token, reads]
  exact value

/-- Two members have one name, and their values are related. -/
inductive Members.Rel {α β : Type} (R : α → β → Prop) : String × α → String × β → Prop where
  | intro (name : String) {a : α} {b : β} (related : R a b) : Rel R (name, a) (name, b)

namespace Json

/-- What a text spells: a value in which each number is still a token, and in which each object has
its members as they stand, repeated names included. -/
inductive Written where
  | null
  | bool (value : Bool)
  | number (token : Numeral)
  | string (value : String)
  | array (items : List Written)
  | object (members : List (String × Written))

namespace Written

/-- What is kept for what a text spells. -/
inductive Keeps : Written → Json → Prop where
  | null : Keeps .null .null
  | bool (value : Bool) : Keeps (.bool value) (.bool value)
  /-- The number that is kept for a token. -/
  | number {token : Numeral} {n : Number} (kept : token.number? = some n) :
      Keeps (.number token) (.number n)
  | string (value : String) : Keeps (.string value) (.string value)
  | array {spelled : List Written} {items : List Json} (each : List.Forall₂ Keeps spelled items) :
      Keeps (.array spelled) (.array items)
  /-- The members of an object, of several with one name the last in the place of the first. -/
  | object {spelled : List (String × Written)} {pairs : List (String × Json)}
      (each : List.Forall₂ (Members.Rel Keeps) spelled pairs) :
      Keeps (.object spelled) (.object (Members.ofPairs pairs))

end Written

/-- What a value spells when it is written. -/
def written : Json → Written
  | .null => .null
  | .bool value => .bool value
  | .number n => .number n.token
  | .string value => .string value
  | .array items => .array (items.map fun item => written item)
  | .object members => .object (members.map fun member => (member.1, written member.2))
termination_by value => sizeOf value
decreasing_by
  · exact sizeOf_item ‹_›
  · exact sizeOf_member ‹_›

namespace Reader

/-- Read a value down to its number tokens. -/
def written (bound : Nat) : (depth : Nat) → Reader Written
  | depth, cs =>
    match skipBlanks cs with
    | [] => none
    | c :: rest =>
      if c = '"' then (quoted "" rest).map fun (s, rest) => (.string s, rest)
      else if c = '[' then
        match depth with
        | 0 => none
        | depth + 1 => (list ']' (written bound depth) bound).map .array rest
      else if c = '\x7b' then
        match depth with
        | 0 => none
        | depth + 1 => (members (fun _ => written bound depth) bound).map .object rest
      else if c = 'n' then keyword ['u', 'l', 'l'] .null rest
      else if c = 't' then keyword ['r', 'u', 'e'] (.bool true) rest
      else if c = 'f' then keyword ['a', 'l', 's', 'e'] (.bool false) rest
      else numeral.map .number (c :: rest)

end Reader

/-- What a text spells. -/
def spelled? (text : String) : Option Written :=
  let cs := text.toList
  (Reader.written cs.length maxDepth).run cs

open Reader

/-! ## What is read is what is kept for what is spelled -/

section

lemma exists_of_map {α β : Type} {read : Reader α} {f : α → β} {cs rest : List Char} {b : β}
    (h : read.map f cs = some (b, rest)) : ∃ a, read cs = some (a, rest) ∧ f a = b := by
  unfold Reader.map at h
  split at h
  · rename_i a left found
    cases h
    exact ⟨a, found, rfl⟩
  · cases h

lemma map_eq {α β : Type} {read : Reader α} {cs rest : List Char} {a : α}
    (h : read cs = some (a, rest)) (f : α → β) : read.map f cs = some (f a, rest) := by
  simp [Reader.map, h]

variable {α β : Type} {closing : Char} {item : Reader α} {other : Reader β} {R : β → α → Prop}

lemma items_rel (each : ∀ cs a rest, item cs = some (a, rest) →
      ∃ b, other cs = some (b, rest) ∧ R b a)
    {bound : Nat} {seen as : List α} {before : List β} {cs rest : List Char}
    (same : List.Forall₂ R before seen) (h : items closing item bound seen cs = some (as, rest)) :
    ∃ bs, items closing other bound before cs = some (bs, rest) ∧ List.Forall₂ R bs as := by
  induction bound generalizing seen before cs with
  | zero => cases h
  | succ bound ih =>
    unfold items at h ⊢
    split at h
    · cases h
    · rename_i a left found
      obtain ⟨b, read, related⟩ := each _ _ _ found
      rw [read]
      dsimp only
      have more : List.Forall₂ R (b :: before) (a :: seen) := .cons related same
      split at h
      · cases h
      · split_ifs at h ⊢
        · exact ih more h
        · simp only [Option.some.injEq, Prod.mk.injEq] at h
          obtain ⟨rfl, rfl⟩ := h
          exact ⟨_, rfl, List.rel_reverse more⟩

lemma list_rel (each : ∀ cs a rest, item cs = some (a, rest) →
      ∃ b, other cs = some (b, rest) ∧ R b a)
    {bound : Nat} {as : List α} {cs rest : List Char}
    (h : list closing item bound cs = some (as, rest)) :
    ∃ bs, list closing other bound cs = some (bs, rest) ∧ List.Forall₂ R bs as := by
  unfold list at h ⊢
  split at h
  · cases h
  · split_ifs at h ⊢
    · cases h
      exact ⟨[], rfl, .nil⟩
    · exact items_rel each .nil h

lemma member_rel {item : String → Reader α} {other : String → Reader β}
    (each : ∀ key cs a rest, item key cs = some (a, rest) →
      ∃ b, other key cs = some (b, rest) ∧ R b a)
    {cs rest : List Char} {m : String × α} (h : member item cs = some (m, rest)) :
    ∃ n, member other cs = some (n, rest) ∧ Members.Rel R n m := by
  unfold member at h ⊢
  split at h
  · cases h
  · split at h
    · rename_i key left text cs' colon
      unfold Reader.map at h ⊢
      dsimp only at h ⊢
      split at h
      · rename_i a left found
        cases h
        obtain ⟨b, read, related⟩ := each _ _ _ _ found
        rw [read]
        exact ⟨_, rfl, .intro _ related⟩
      · cases h
    · cases h

end

variable {bound depth : Nat} {cs rest : List Char} {v : Json}

lemma exists_numeral_of_number {n : Number} (h : Reader.number cs = some (n, rest)) :
    ∃ token, numeral cs = some (token, rest) ∧ token.number? = some n := by
  unfold Reader.number at h
  split at h
  · cases h
  · rename_i token left found
    obtain ⟨n, kept, made⟩ := Option.map_eq_some_iff.1 h
    cases made
    exact ⟨token, found, kept⟩

/-- Whatever is read, down to the tokens it is what the text spells, and what is read is what is kept
for that. -/
theorem exists_written_of_value (h : Reader.value bound depth cs = some (v, rest)) :
    ∃ w, Reader.written bound depth cs = some (w, rest) ∧ Written.Keeps w v := by
  induction depth using Nat.strong_induction_on generalizing cs rest v with
  | _ depth ih =>
    rw [Reader.value] at h
    rw [Reader.written]
    cases starts : Reader.skipBlanks cs with
    | nil =>
      rw [starts] at h
      cases h
    | cons c cs' =>
      rw [starts] at h
      dsimp only at h ⊢
      -- The two readers go the same way, and both look at the depth only where a list opens.
      split_ifs at h ⊢ with quote bracket brace null true' false'
      · obtain ⟨⟨text, left⟩, read, made⟩ := Option.map_eq_some_iff.1 h
        cases made
        exact ⟨.string text, by rw [read]; rfl, .string text⟩
      · cases depth with
        | zero => cases h
        | succ below =>
          obtain ⟨items, read, rfl⟩ := exists_of_map h
          obtain ⟨spelled, written, each⟩ :=
            list_rel (fun _ _ _ found => ih below (Nat.lt_succ_self below) found) read
          exact ⟨_, map_eq written _, .array each⟩
      · cases depth with
        | zero => cases h
        | succ below =>
          obtain ⟨pairs, read, rfl⟩ := exists_of_map h
          obtain ⟨spelled, written, each⟩ := list_rel (fun _ _ _ found => member_rel
            (fun _ _ _ _ found => ih below (Nat.lt_succ_self below) found) found) read
          exact ⟨_, map_eq written _, .object each⟩
      · obtain ⟨left, read, made⟩ := Option.map_eq_some_iff.1 h
        cases made
        exact ⟨.null, by simp [keyword, read], .null⟩
      · obtain ⟨left, read, made⟩ := Option.map_eq_some_iff.1 h
        cases made
        exact ⟨.bool true, by simp [keyword, read], .bool true⟩
      · obtain ⟨left, read, made⟩ := Option.map_eq_some_iff.1 h
        cases made
        exact ⟨.bool false, by simp [keyword, read], .bool false⟩
      · obtain ⟨n, read, rfl⟩ := exists_of_map h
        obtain ⟨token, tokenized, kept⟩ := exists_numeral_of_number read
        exact ⟨_, map_eq tokenized _, .number kept⟩

/-! ## What is written spells its tokens -/

lemma skips_written (bound depth : Nat) : Skips (Reader.written bound depth) := by
  intro gap cs blank
  rw [Reader.written, Reader.written, skipBlanks_append blank]

lemma written_array {items : List Written}
    (h : list ']' (Reader.written bound depth) bound cs = some (items, rest)) :
    Reader.written bound (depth + 1) ('[' :: cs) = some (.array items, rest) := by
  rw [Reader.written]
  simp [skipBlanks_cons (c := '[') rfl, Reader.map, h]

lemma written_object {members : List (String × Written)}
    (h : list '\x7d' (member fun _ => Reader.written bound depth) bound cs = some (members, rest)) :
    Reader.written bound (depth + 1) ('\x7b' :: cs) = some (.object members, rest) := by
  rw [Reader.written]
  simp [skipBlanks_cons (c := '\x7b') rfl, Reader.map, Reader.members, h]

lemma written_number (n : Number) (ends : Ends rest) :
    Reader.written bound depth (n.text.toList ++ rest) = some (.number n.token, rest) := by
  have read := local_numeral _ _ _ n.numeral_text rest ends
  obtain ⟨c, cs, starts, first⟩ := n.exists_text_eq
  have ne {d : Char} := ne_of_starts_number first (d := d)
  rw [starts, List.nil_append, List.cons_append] at read
  rw [starts, Reader.written, List.cons_append, skipBlanks_cons (isBlank_of_starts_number first)]
  simp [ne (d := '"') rfl, ne (d := '[') rfl, ne (d := '\x7b') rfl, ne (d := 'n') rfl,
    ne (d := 't') rfl, ne (d := 'f') rfl, Reader.map, read]

/-- Of any value its tokens are read. -/
lemma takes_written (bound : Nat) :
    Takes (fun _ => True) Json.written bound (Reader.written bound) where
  skips := skips_written bound
  -- The leaves in turn: each is told by its first character.
  leaf := by
    intro v _ flat layout depth rest ends
    cases v with
    | null =>
      rw [spell, Reader.written, Json.written]
      simp [skipBlanks_cons (c := 'n') rfl, keyword, after?]
    | bool value =>
      rw [spell, Reader.written, Json.written]
      cases value
      · simp [skipBlanks_cons (c := 'f') rfl, keyword, after?]
      · simp [skipBlanks_cons (c := 't') rfl, keyword, after?]
    | number n =>
      rw [spell, Json.written]
      exact written_number n ends
    | string text =>
      rw [spell, Reader.written, Json.written]
      simp [spellText, skipBlanks_cons (c := '"') rfl, quoted_text]
    | array items => simp [nesting] at flat
    | object members => simp [nesting] at flat
  array := by
    intro items _
    refine ⟨fun _ _ => trivial, fun h => ?_⟩
    rw [Json.written]
    exact written_array h
  object := by
    intro ms _
    refine ⟨fun _ _ => trivial, fun h => ?_⟩
    rw [Json.written]
    exact written_object h

/-- A value that is written spells its tokens, whatever its numbers are. -/
theorem written_spell (v : Json) (layout : Layout) {depth : Nat} (deep : v.nesting ≤ depth)
    (long : (spell layout v).length ≤ bound) {rest : List Char} (ends : Ends rest) :
    Reader.written bound depth (spell layout v ++ rest) = some (v.written, rest) :=
  (takes_written bound).spell trivial layout deep long ends

/-! ## Whole texts -/

/-- What a text holds is what is kept for what it spells. -/
theorem exists_spelled_of_parse? {text : String} {v : Json} (h : parse? text = some v) :
    ∃ w, spelled? text = some w ∧ Written.Keeps w v := by
  simp only [parse?, Reader.run] at h
  split at h
  · cases h
  · rename_i value rest found
    split at h
    · rename_i blank
      cases h
      obtain ⟨w, written, keeps⟩ := exists_written_of_value found
      exact ⟨w, by simp [spelled?, Reader.run, written, blank], keeps⟩
    · cases h

/-- A text that a value is written into spells the tokens of the value. -/
theorem spelled?_pretty {v : Json} (deep : v.nesting ≤ maxDepth) :
    spelled? v.pretty = some v.written := by
  have read : Reader.written (spell (.indented 0) v).length maxDepth (spell (.indented 0) v ++ []) =
      some (v.written, []) := written_spell v (.indented 0) deep le_rfl (by rintro c ⟨⟩)
  rw [List.append_nil] at read
  simp [spelled?, toList_pretty, Reader.run, read]

end Json

end KanaSettings
