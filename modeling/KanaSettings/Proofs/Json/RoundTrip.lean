import KanaSettings.Proofs.Json.Numbers
import KanaSettings.Proofs.Json.NumberText

/-!
# What is written reads back

A value that is written in either layout reads as itself but for its numbers, whatever follows it that
could not belong to it, if the reader may go as deep as the value nests, no object in the value has a
name twice, and each number is read as some number.  So if the numbers read back, then so does the
value.
-/

namespace KanaSettings

namespace Number

/-- A number that is written reads as itself. -/
def ReadsBack (n : Number) : Prop := Json.Reader.number n.text.toList = some (n, [])

/-- A number that is written reads as some number. -/
def Readable (n : Number) : Prop := ∃ m, Json.Reader.number n.text.toList = some (m, [])

/-- The number that is read where a number was written. -/
def reread (n : Number) : Number :=
  match Json.Reader.number n.text.toList with
  | some (m, _) => m
  | none => n

variable {n : Number}

lemma Readable.number_text (h : n.Readable) :
    Json.Reader.number n.text.toList = some (n.reread, []) := by
  obtain ⟨m, read⟩ := h
  rw [reread, read]

lemma ReadsBack.readable (h : n.ReadsBack) : n.Readable := ⟨n, h⟩

lemma ReadsBack.reread_eq (h : n.ReadsBack) : n.reread = n := by
  rw [reread, show Json.Reader.number n.text.toList = some (n, []) from h]

end Number

namespace Json

open Reader

/-! ## Lists -/

section

variable {α β : Type} {layout : Layout} {opening closing : Char}

lemma length_le_enclose {part : List Char} {parts : List (List Char)} (h : part ∈ parts) :
    part.length ≤ (layout.enclose opening closing parts).length := by
  rcases parts with _ | ⟨first, parts⟩
  · cases h
  · rcases List.mem_cons.1 h with rfl | h
    · simp [Layout.enclose]
      omega
    · have := (List.sublist_flatten_of_mem
        (List.mem_map_of_mem (f := layout.deeper.next) h)).length_le
      simp [Layout.enclose, ← List.flatMap_def, Layout.next] at this ⊢
      omega

lemma length_le_length_enclose (text : α → List Char) (as : List α) :
    as.length ≤ (layout.enclose opening closing (as.map text)).length := by
  have more (parts : List (List Char)) :
      parts.length ≤ (parts.flatMap layout.deeper.next).length := by
    induction parts with
    | nil => exact Nat.zero_le _
    | cons part parts ih =>
      simp only [List.length_cons, List.flatMap_cons, List.length_append, Layout.next]
      omega
  cases as with
  | nil => exact Nat.zero_le _
  | cons a as =>
    have others := more (as.map text)
    rw [List.length_map] at others
    simp only [List.map_cons, Layout.enclose, List.length_cons, List.length_append]
    omega

/-- A character that can close a list. -/
structure Closes (c : Char) : Prop where
  blank : isBlank c = false
  goesOn : goesOn c = false
  comma : c ≠ ','

/-- How the items of a list are read and what they are written as. -/
structure ReadsAs (item : Reader β) (text : α → List Char) (closing : Char) (a : α) (b : β) :
    Prop where
  reads : ∀ rest, Ends rest → item (text a ++ rest) = some (b, rest)
  /-- It starts with no blank, and not as if the list were at its end. -/
  starts : ∃ c cs, text a = c :: cs ∧ isBlank c = false ∧ c ≠ closing

variable {item : Reader β} {text : α → List Char}

lemma ends_cons {c : Char} (h : goesOn c = false) (cs : List Char) : Ends (c :: cs) := by
  rintro d ⟨⟩
  exact h

lemma ends_lineBreak (layout : Layout) (closes : goesOn closing = false) (rest : List Char) :
    Ends (layout.lineBreak ++ closing :: rest) := by
  cases layout with
  | compact => exact ends_cons closes rest
  | indented level => exact ends_cons rfl _

lemma items_comma {bound : Nat} {seen : List β} {cs rest : List Char} {b : β}
    (h : item cs = some (b, ',' :: rest)) :
    items closing item (bound + 1) seen cs = items closing item bound (b :: seen) rest := by
  simp [items, h, skipBlanks_cons (c := ',') rfl]

lemma items_close {bound : Nat} {seen : List β} {cs left rest : List Char} {b : β}
    (closes : Closes closing) (h : item cs = some (b, left))
    (last : skipBlanks left = closing :: rest) :
    items closing item (bound + 1) seen cs = some (seen.reverse ++ [b], rest) := by
  simp [items, h, last, closes.comma]

/-- A reader that does not look at the blanks before what it reads. -/
def Skips (item : Reader β) : Prop :=
  ∀ gap cs, (∀ c ∈ gap, isBlank c = true) → item (gap ++ cs) = item cs

lemma items_skips (skips : Skips item) (bound : Nat) (seen : List β) {gap : List Char}
    (blank : ∀ c ∈ gap, isBlank c = true) (cs : List Char) :
    items closing item bound seen (gap ++ cs) = items closing item bound seen cs := by
  cases bound with
  | zero => rfl
  | succ bound => simp [items, skips gap cs blank]

lemma items_spelled (f : α → β) (skips : Skips item) (closes : Closes closing) (layout : Layout)
    {a : α} {as : List α} (each : ∀ b ∈ a :: as, ReadsAs item text closing b (f b)) {bound : Nat}
    (long : as.length ≤ bound) (seen : List β) (rest : List Char) :
    items closing item (bound + 1) seen
      (text a ++ ((as.map text).flatMap layout.deeper.next ++
        (layout.lineBreak ++ closing :: rest))) =
      some (seen.reverse ++ (a :: as).map f, rest) := by
  induction as generalizing a bound seen with
  | nil =>
    have first := (each a List.mem_cons_self).reads _ (ends_lineBreak layout closes.goesOn rest)
    refine items_close closes first ?_
    rw [skipBlanks_append fun c => isBlank_of_mem_lineBreak, skipBlanks_cons closes.blank]
  | cons b as ih =>
    obtain ⟨bound, rfl⟩ := Nat.exists_eq_add_of_le' (Nat.one_le_of_lt long)
    obtain ⟨first, others⟩ := List.forall_mem_cons.1 each
    have last := ih others (Nat.le_of_succ_le_succ long) (f a :: seen)
    simp only [List.map_cons, List.flatMap_cons, Layout.next, List.cons_append, List.append_assoc]
    rw [items_comma (first.reads _ (ends_cons rfl _)),
      items_skips skips _ _ fun c => isBlank_of_mem_lineBreak, last]
    simp

/-- What is enclosed reads as a list, after the opening bracket. -/
lemma list_enclose (opening : Char) (f : α → β) (skips : Skips item) (closes : Closes closing)
    (layout : Layout) {as : List α}
    (each : ∀ a ∈ as, ReadsAs item text closing a (f a)) {bound : Nat} (long : as.length ≤ bound) :
    ∃ body, layout.enclose opening closing (as.map text) = opening :: body ∧
      ∀ rest, list closing item bound (body ++ rest) = some (as.map f, rest) := by
  cases as with
  | nil => exact ⟨[closing], rfl, fun rest => by simp [list, skipBlanks_cons closes.blank]⟩
  | cons a as =>
    refine ⟨_, rfl, fun rest => ?_⟩
    obtain ⟨bound, rfl⟩ := Nat.exists_eq_add_of_le' (Nat.one_le_of_lt long)
    obtain ⟨c, cs, starts, blank, open'⟩ := (each a List.mem_cons_self).starts
    have whole := items_spelled f skips closes layout each (Nat.le_of_succ_le_succ long) [] rest
    simp only [starts, List.cons_append, List.reverse_nil, List.nil_append] at whole
    simp only [List.append_assoc, List.cons_append, List.nil_append, list, starts]
    rw [skipBlanks_append fun c => isBlank_of_mem_lineBreak, skipBlanks_cons blank]
    simpa [open'] using whole

end

/-! ## Values -/

section

variable {layout : Layout} {bound depth : Nat}

lemma skips_value (bound depth : Nat) : Skips (Reader.value bound depth) := by
  intro gap cs blank
  rw [Reader.value, Reader.value, skipBlanks_append blank]

lemma skips_member {α : Type} (read : String → Reader α) : Skips (member read) := by
  intro gap cs blank
  simp only [member, skipBlanks_append blank]

lemma value_text (text : String) (rest : List Char) :
    Reader.value bound depth (spellText text ++ rest) = some (.string text, rest) := by
  rw [Reader.value]
  simp [spellText, skipBlanks_cons (c := '"') rfl, quoted_text]

lemma value_array {cs rest : List Char} {items : List Json}
    (h : list ']' (Reader.value bound depth) bound cs = some (items, rest)) :
    Reader.value bound (depth + 1) ('[' :: cs) = some (.array items, rest) := by
  rw [Reader.value]
  simp [skipBlanks_cons (c := '[') rfl, Reader.map, h]

lemma value_object {cs rest : List Char} {pairs : List (String × Json)}
    (h : list '\x7d' (member fun _ => Reader.value bound depth) bound cs = some (pairs, rest)) :
    Reader.value bound (depth + 1) ('\x7b' :: cs) = some (.object (Members.ofPairs pairs), rest) := by
  rw [Reader.value]
  simp [skipBlanks_cons (c := '\x7b') rfl, Reader.map, members, h]

/-- What a number starts with starts no other value. -/
lemma ne_of_starts_number {c : Char} (starts : c = '-' ∨ c.isDigit) {d : Char}
    (other : (d = '-' || d.isDigit) = false) : c ≠ d := by
  rintro rfl
  simp only [Bool.or_eq_false_iff, decide_eq_false_iff_not] at other
  simp [other] at starts

lemma isBlank_of_starts_number {c : Char} (starts : c = '-' ∨ c.isDigit) : isBlank c = false := by
  have ne {d : Char} := ne_of_starts_number starts (d := d)
  simp [isBlank, ne (d := ' ') rfl, ne (d := '\n') rfl, ne (d := '\t') rfl, ne (d := '\r') rfl]

/-- A number is read as a value in whatever way it is written. -/
lemma value_of_number {n : Number} {c : Char} {cs : List Char} (first : c = '-' ∨ c.isDigit)
    (read : Reader.number (c :: cs) = some (n, [])) {rest : List Char} (ends : Ends rest) :
    Reader.value bound depth (c :: cs ++ rest) = some (.number n, rest) := by
  have read := local_number _ _ _ read rest ends
  have ne {d : Char} := ne_of_starts_number first (d := d)
  rw [List.nil_append, List.cons_append] at read
  rw [Reader.value, List.cons_append, skipBlanks_cons (isBlank_of_starts_number first)]
  simp [ne (d := '"') rfl, ne (d := '[') rfl, ne (d := '\x7b') rfl, ne (d := 'n') rfl,
    ne (d := 't') rfl, ne (d := 'f') rfl, Reader.map, read]

lemma value_number {n : Number} (readable : n.Readable) {rest : List Char} (ends : Ends rest) :
    Reader.value bound depth (n.text.toList ++ rest) = some (.number n.reread, rest) := by
  have read := readable.number_text
  obtain ⟨c, cs, starts, first⟩ := n.exists_text_eq
  rw [starts] at read ⊢
  exact value_of_number first read ends

/-- A value starts with no blank, and not as the end of an array. -/
lemma exists_of_spell (v : Json) (layout : Layout) :
    ∃ c cs, spell layout v = c :: cs ∧ isBlank c = false ∧ c ≠ ']' := by
  cases v with
  | null => exact ⟨_, _, by rw [spell]; rfl, rfl, by decide⟩
  | bool value => cases value <;> exact ⟨_, _, by rw [spell]; rfl, rfl, by decide⟩
  | number n =>
    obtain ⟨c, cs, starts, first⟩ := n.exists_text_eq
    exact ⟨c, cs, by rw [spell, starts], isBlank_of_starts_number first,
      ne_of_starts_number first rfl⟩
  | string text => exact ⟨_, _, by rw [spell]; rfl, rfl, by decide⟩
  | array items => cases items <;> exact ⟨_, _, by rw [spell]; rfl, rfl, by decide⟩
  | object members => cases members <;> exact ⟨_, _, by rw [spell]; rfl, rfl, by decide⟩

/-- Only blanks stand between the colon and the value. -/
lemma exists_colon (layout : Layout) :
    ∃ gap, layout.colon = ':' :: gap ∧ ∀ c ∈ gap, isBlank c = true := by
  cases layout with
  | compact => exact ⟨[], rfl, by simp⟩
  | indented level => exact ⟨[' '], rfl, by simp [isBlank]⟩

/-- A member reads as its name and what its value is read as. -/
lemma member_spelled {α : Type} {read : Reader α} (skips : Skips read) (layout : Layout)
    (name : String) {value rest : List Char} {a : α} (reads : read (value ++ rest) = some (a, rest)) :
    member (fun _ => read) (layout.spellMember name value ++ rest) = some ((name, a), rest) := by
  obtain ⟨gap, colon, blank⟩ := exists_colon layout
  have key := string_spellText name (':' :: (gap ++ (value ++ rest)))
  have value := (skips gap (value ++ rest) blank).trans reads
  have separator (cs : List Char) : skipBlanks (':' :: cs) = ':' :: cs := skipBlanks_cons rfl _
  simp only [member, Layout.spellMember, colon, List.append_assoc, List.cons_append,
    skipBlanks_spellText, key, separator, Reader.map, value]

/-- An object with one member is read as that, however the value of the member is spelled. -/
lemma value_single (name : String) {text : List Char} {v : Json} (some : 1 ≤ bound)
    (reads : ∀ rest, Ends rest → Reader.value bound depth (text ++ rest) = .some (v, rest))
    (rest : List Char) :
    Reader.value bound (depth + 1)
        (Layout.compact.enclose '\x7b' '\x7d' [Layout.compact.spellMember name text] ++ rest) =
      .some (.object [(name, v)], rest) := by
  have each : ∀ m ∈ [(name, text)], ReadsAs (member fun _ => Reader.value bound depth)
      (fun m => Layout.compact.spellMember m.1 m.2) '\x7d' m (name, v) := by
    simp only [List.mem_singleton, forall_eq]
    refine ⟨fun rest ends => ?_, _, _, rfl, rfl, by decide⟩
    exact member_spelled (skips_value _ _) _ name (reads rest ends)
  obtain ⟨body, whole, read⟩ := list_enclose '\x7b' (fun _ => (name, v)) (skips_member _)
    ⟨rfl, rfl, by decide⟩ .compact each some
  rw [List.map_singleton] at whole
  rw [whole, List.cons_append]
  exact value_object (read rest)

/-! ## Readers of values -/

section

variable {α : Type} {good : Json → Prop} {make : Json → α} {read : Nat → Reader α} {rest : List Char}

/-- A reader of values that makes something of each good value, part by part. -/
structure Takes (good : Json → Prop) (make : Json → α) (bound : Nat) (read : Nat → Reader α) :
    Prop where
  skips : ∀ depth, Skips (read depth)
  leaf : ∀ {v : Json}, good v → v.nesting = 0 → ∀ (layout : Layout) (depth : Nat)
    {rest : List Char}, Ends rest → read depth (spell layout v ++ rest) = some (make v, rest)
  array : ∀ {items : List Json}, good (.array items) → (∀ item ∈ items, good item) ∧
    ∀ {depth : Nat} {cs rest : List Char},
      list ']' (read depth) bound cs = some (items.map make, rest) →
      read (depth + 1) ('[' :: cs) = some (make (.array items), rest)
  object : ∀ {ms : Members Json}, good (.object ms) → (∀ m ∈ ms, good m.2) ∧
    ∀ {depth : Nat} {cs rest : List Char},
      list '\x7d' (member fun _ => read depth) bound cs =
        some (ms.map fun m => (m.1, make m.2), rest) →
      read (depth + 1) ('\x7b' :: cs) = some (make (.object ms), rest)

/-- Such a reader makes of a text that a good value is written into what it makes of the value. -/
theorem Takes.spell (takes : Takes good make bound read) {v : Json} (h : good v) (layout : Layout)
    (deep : v.nesting ≤ depth) (long : (spell layout v).length ≤ bound) (ends : Ends rest) :
    read depth (spell layout v ++ rest) = some (make v, rest) := by
  induction v using Json.induction generalizing layout depth rest with
  | null => exact takes.leaf h (by rw [nesting]) layout depth ends
  | bool value => exact takes.leaf h (by rw [nesting]) layout depth ends
  | number n => exact takes.leaf h (by rw [nesting]) layout depth ends
  | string text => exact takes.leaf h (by rw [nesting]) layout depth ends
  | array items ih =>
    obtain ⟨below, rfl, within⟩ := nesting_array_le.1 deep
    obtain ⟨parts, whole⟩ := takes.array h
    rw [Json.spell] at long ⊢
    -- The bound on the length of the text is one for the text of each item, and for their number.
    have each : ∀ item ∈ items,
        ReadsAs (read below) (Json.spell layout.deeper) ']' item (make item) := by
      intro item mem
      refine ⟨fun rest ends => ?_, exists_of_spell item _⟩
      refine ih item mem (parts item mem) _ (within item mem) ?_ ends
      exact (length_le_enclose (List.mem_map_of_mem mem)).trans long
    have short : items.length ≤ bound := (length_le_length_enclose _ items).trans long
    obtain ⟨body, enclosed, reads⟩ := list_enclose '[' make (takes.skips below)
      ⟨rfl, rfl, by decide⟩ layout each short
    rw [enclosed]
    exact whole (reads rest)
  | object members ih =>
    obtain ⟨below, rfl, within⟩ := nesting_object_le.1 deep
    obtain ⟨parts, whole⟩ := takes.object h
    rw [Json.spell] at long ⊢
    have each : ∀ m ∈ members, ReadsAs (member fun _ => read below)
        (fun m => layout.deeper.spellMember m.1 (Json.spell layout.deeper m.2)) '\x7d' m
        (m.1, make m.2) := by
      intro m mem
      refine ⟨fun rest ends => ?_, ⟨_, _, rfl, rfl, by decide⟩⟩
      refine member_spelled (takes.skips below) _ m.1
        (ih m mem (parts m mem) _ (within m mem) ?_ ends)
      refine le_trans ?_ ((length_le_enclose (List.mem_map_of_mem mem)).trans long)
      simp only [Layout.spellMember, List.length_append]
      omega
    have short : members.length ≤ bound := (length_le_length_enclose _ members).trans long
    obtain ⟨body, enclosed, reads⟩ := list_enclose '\x7b' (fun m : String × Json => (m.1, make m.2))
      (skips_member _) ⟨rfl, rfl, by decide⟩ layout each short
    rw [enclosed]
    exact whole (reads rest)

end

/-- A value with each number as it is read where it was written. -/
def reread (v : Json) : Json := v.mapNumbers Number.reread

lemma reread_eq_self {v : Json} (back : ∀ n ∈ v.numbers, n.ReadsBack) : v.reread = v :=
  mapNumbers_eq_self fun n mem => (back n mem).reread_eq

/-- A value whose text can be read: no object in it has a name twice, and each of its numbers is read
as some number. -/
structure Readable (v : Json) : Prop where
  distinct : v.Distinct
  numbers : ∀ n ∈ v.numbers, n.Readable

/-- Of a value that can be read, a value is read that is the same but for the numbers. -/
lemma takes_value (bound : Nat) : Takes Readable reread bound (Reader.value bound) where
  skips := skips_value bound
  leaf := by
    intro v h flat layout depth rest ends
    cases v with
    | null =>
      rw [spell, reread, mapNumbers, Reader.value]
      simp [skipBlanks_cons (c := 'n') rfl, keyword, after?]
    | bool value =>
      rw [spell, reread, mapNumbers, Reader.value]
      cases value
      · simp [skipBlanks_cons (c := 'f') rfl, keyword, after?]
      · simp [skipBlanks_cons (c := 't') rfl, keyword, after?]
    | number n =>
      rw [spell, reread, mapNumbers]
      exact value_number (h.numbers n (by simp [numbers])) ends
    | string text =>
      rw [spell, reread, mapNumbers]
      exact value_text text rest
    -- What has parts nests.
    | array items => simp [nesting] at flat
    | object members => simp [nesting] at flat
  array := by
    rintro items ⟨distinct, readable⟩
    rw [Distinct] at distinct
    refine ⟨fun item mem => ⟨distinct item mem, fun n h => readable n ?_⟩, fun h => ?_⟩
    · simpa [numbers] using ⟨item, mem, h⟩
    · rw [reread, mapNumbers]
      exact value_array h
  object := by
    rintro ms ⟨distinct, readable⟩
    rw [Distinct] at distinct
    refine ⟨fun m mem => ⟨distinct.2 m mem, fun n h => readable n ?_⟩, fun h => ?_⟩
    · simpa [numbers] using ⟨m.1, m.2, mem, h⟩
    · have nodup : (Members.keys (ms.map fun m => (m.1, m.2.reread))).Nodup := by
        rw [Members.keys_map]
        exact distinct.1
      have read := value_object h
      rw [Members.ofPairs_of_nodup nodup] at read
      rwa [reread, mapNumbers]

/-- A value that is written reads as itself. -/
theorem value_spell {v : Json} (distinct : v.Distinct) (back : ∀ n ∈ v.numbers, n.ReadsBack)
    (layout : Layout) {depth : Nat} (deep : v.nesting ≤ depth)
    (long : (spell layout v).length ≤ bound) {rest : List Char} (ends : Ends rest) :
    Reader.value bound depth (spell layout v ++ rest) = some (v, rest) := by
  have readable : Readable v := ⟨distinct, fun n mem => (back n mem).readable⟩
  have read := (takes_value bound).spell readable layout deep long ends
  rwa [reread_eq_self back] at read

/-! ## Whole texts -/

/-- A text holds the value that was written into it, with its numbers as they are read. -/
theorem parse?_pretty_reread {v : Json} (readable : v.Readable) (deep : v.nesting ≤ maxDepth) :
    parse? v.pretty = some v.reread := by
  have read : Reader.value (spell (.indented 0) v).length maxDepth (spell (.indented 0) v ++ []) =
      some (v.reread, []) :=
    (takes_value _).spell readable (.indented 0) deep le_rfl (by rintro c ⟨⟩)
  rw [List.append_nil] at read
  simp [parse?, toList_pretty, Reader.run, read]

/-- So it holds the value itself if the numbers of it read back. -/
theorem parse?_pretty {v : Json} (distinct : v.Distinct) (back : ∀ n ∈ v.numbers, n.ReadsBack)
    (deep : v.nesting ≤ maxDepth) : parse? v.pretty = some v := by
  have read := parse?_pretty_reread ⟨distinct, fun n mem => (back n mem).readable⟩ deep
  rwa [reread_eq_self back] at read

end

end Json

lemma fromUTF8?_toUTF8 (text : String) : String.fromUTF8? text.toUTF8 = some text := by
  have valid : text.toUTF8.IsValidUTF8 := text.isValidUTF8
  rw [String.fromUTF8?, dif_pos valid]
  rfl

end KanaSettings
