import KanaSettings.Proofs.Json.Reading
import KanaSettings.Proofs.Json.RoundTrip
import KanaSettings.Wire.Message

/-!
# Messages arrive as they were sent

A payload that is not too long comes out of its frame, and leaves alone what follows.  A message
comes out of its payload if the value in it reads back; there is one level less than in a file for the
value to nest in, because the message is itself an object.
-/

namespace KanaSettings

open Json (Reader)

namespace Wire

/-! ## Frames -/

@[simp] lemma size_header (size : Nat) : (header size).size = headerSize := by
  simp [header, headerSize, ByteArray.size]

lemma announced_header {size : Nat} (h : size ≤ maxPayload) (rest : ByteArray) :
    announced (header size ++ rest) = size := by
  have small : size < Nat.pow 256 4 := by
    rw [maxPayload] at h
    simp only [Nat.pow_eq]
    omega
  rw [announced, ByteArray.extract_append_eq_left (size_header size).symm]
  exact ofLittleEndian_littleEndian 4 size small

/-- A payload comes out of its frame, and what follows is left. -/
theorem unframe_header {payload : ByteArray} (h : payload.size ≤ maxPayload) (rest : ByteArray) :
    unframe (header payload.size ++ (payload ++ rest)) = .ok (payload, rest) := by
  have front := ByteArray.extract_append_size_add (a := header payload.size) (b := payload ++ rest)
    (i := 0) (j := payload.size)
  have back := ByteArray.extract_append_size_add (a := header payload.size) (b := payload ++ rest)
    (i := payload.size) (j := payload.size + rest.size)
  rw [ByteArray.extract_append_eq_left rfl, size_header, Nat.add_zero] at front
  rw [ByteArray.extract_append_eq_right rfl rfl, size_header] at back
  have long : (header payload.size ++ (payload ++ rest)).size =
      headerSize + (payload.size + rest.size) := by
    rw [ByteArray.size_append, ByteArray.size_append, size_header]
  unfold unframe
  rw [announced_header h, long, if_neg (by omega)]
  dsimp only
  rw [if_neg (by omega), if_neg (by omega), front, back]

lemma frame_eq {payload : ByteArray} (h : payload.size ≤ maxPayload) :
    frame payload = .ok (header payload.size ++ payload) := if_pos h

lemma receive_header {α : Type} {decode? : ByteArray → Option α} {payload : ByteArray} {message : α}
    (h : payload.size ≤ maxPayload) (decodes : decode? payload = some message) :
    receive decode? (header payload.size ++ payload) = .ok (message, .empty) := by
  have unframed := unframe_header h .empty
  rw [ByteArray.append_empty] at unframed
  rw [receive, unframed]
  simp only [decodes]

lemma receive_header_none {α : Type} {decode? : ByteArray → Option α} {payload : ByteArray}
    (h : payload.size ≤ maxPayload) (garbled : decode? payload = none) :
    receive decode? (header payload.size ++ payload) = .error (.undecodable payload) := by
  have unframed := unframe_header h .empty
  rw [ByteArray.append_empty] at unframed
  rw [receive, unframed]
  simp only [garbled]

lemma receive_empty {α : Type} (decode? : ByteArray → Option α) :
    receive decode? .empty = .error (.frame .noHeader) := by
  simp [receive, unframe, headerSize]

/-! ## Payloads -/

lemma request_ofPayload? (message : Json) :
    Request.ofPayload? (payload message) = Request.parse? message.compact := by
  rw [Request.ofPayload?, payload, fromUTF8?_toUTF8]
  rfl

lemma response_ofPayload? (message : Json) :
    Response.ofPayload? (payload message) = Response.parse? message.compact := by
  rw [Response.ofPayload?, payload, fromUTF8?_toUTF8]

/-! ## Variants -/

open Json (spell spellText)
open Json.Reader (Ends)

section

variable {α : Type} {plain : String → Option α} {data : String → Option (Reader α)}

lemma run_variant_text (name : String) :
    (Reader.variant plain data).run (spell .compact (.string name)) = plain name := by
  have text := Reader.quoted_text name []
  rw [spell, spellText, Reader.run, Reader.variant, List.cons_append, Reader.skipBlanks_cons rfl]
  cases known : plain name <;> simp [text, known]

lemma spell_variant (name : String) (v : Json) : spell .compact (.object [(name, v)]) =
    '\x7b' :: (spellText name ++ ':' :: (spell .compact v ++ ['\x7d'])) := by
  simp [spell, Json.Layout.enclose, Json.Layout.spellMember, Json.Layout.lineBreak,
    Json.Layout.deeper, Json.Layout.colon]

/-- A variant with data comes from its name and what its data is read as, however that is written. -/
lemma run_variant_data {name : String} {read : Reader α} (known : data name = some read)
    {text : List Char} {a : α} (reads : read (text ++ ['\x7d']) = some (a, ['\x7d'])) :
    (Reader.variant plain data).run
      ('\x7b' :: (spellText name ++ ':' :: (text ++ ['\x7d']))) = some a := by
  have key := Reader.string_spellText name (':' :: (text ++ ['\x7d']))
  rw [Reader.run, Reader.variant, Reader.skipBlanks_cons rfl]
  simp [Reader.member, Reader.skipBlanks_spellText, key, Reader.skipBlanks_cons (c := ':') rfl,
    known, Reader.map, reads, Reader.skipBlanks_cons (c := '\x7d') rfl]

lemma run_variant_object {name : String} {read : Reader α} (known : data name = some read)
    {v : Json} {a : α} (reads : read (spell .compact v ++ ['\x7d']) = some (a, ['\x7d'])) :
    (Reader.variant plain data).run (spell .compact (.object [(name, v)])) = some a := by
  rw [spell_variant]
  exact run_variant_data known reads

/-- Whatever a variant comes from, it is one without data, or its data was read there. -/
lemma exists_of_run_variant {cs : List Char} {a : α}
    (h : (Reader.variant plain data).run cs = some a) :
    (∃ name, plain name = some a) ∨
      ∃ name read cs rest, data name = some read ∧ read cs = some (a, rest) := by
  unfold Reader.run at h
  split at h
  · cases h
  · rename_i found rest read
    split_ifs at h
    cases h
    unfold Reader.variant at read
    split at read
    · -- A name that stands alone.
      split at read
      · cases read
      · rename_i name left _
        obtain ⟨plainly, known, made⟩ := Option.map_eq_some_iff.1 read
        cases made
        exact .inl ⟨name, known⟩
    · -- An object with one member, which is named by the variant.
      dsimp only at read
      split at read
      · cases read
      · rename_i name a left member
        obtain ⟨cs, inner⟩ := Json.exists_of_member member
        split at read
        · cases read
          cases known : data name with
          | some read =>
            simp only [known] at inner
            exact .inr ⟨name, read, cs, left, known, inner⟩
          | none =>
            -- A variant without data can be written with null for its data.
            cases plainly : plain name with
            | some b =>
              simp only [known, plainly, Reader.null, Reader.keyword] at inner
              obtain ⟨after, -, made⟩ := Option.map_eq_some_iff.1 inner
              cases made
              exact .inl ⟨name, plainly⟩
            | none =>
              simp only [known, plainly] at inner
              cases inner
        · cases read
    · cases read

/-- What comes of a variant with data is what its data is read as. -/
lemma exists_of_run_variant_object {name : String} {read : Reader α} (known : data name = some read)
    {v : Json} {a : α}
    (h : (Reader.variant plain data).run (spell .compact (.object [(name, v)])) = some a) :
    ∃ rest, read (spell .compact v ++ ['\x7d']) = some (a, rest) := by
  have text := Reader.string_spellText name (':' :: (spell .compact v ++ ['\x7d']))
  rw [spell_variant, Reader.run, Reader.variant, Reader.skipBlanks_cons rfl] at h
  simp only [Reader.member, Reader.skipBlanks_spellText, text, Reader.skipBlanks_cons (c := ':') rfl,
    known, Reader.map] at h
  cases data : read (spell .compact v ++ ['\x7d']) with
  | none => simp [data] at h
  | some found =>
    obtain ⟨a', rest⟩ := found
    simp only [data] at h
    split at h
    · cases h
    · rename_i same
      split at same
      · cases same
        split_ifs at h
        cases h
        exact ⟨rest, rfl⟩
      · cases same

lemma length_data_le (name : String) (v : Json) :
    (spell .compact v).length ≤ (spell .compact (.object [(name, v)])).length := by
  simp only [spell_variant, List.length_cons, List.length_append]
  omega

lemma run_variant_value {name : String} {f : Json → α} {v : Json} {depth : Nat}
    (known : data name = some ((Reader.value (spell .compact (.object [(name, v)])).length depth).map
      f))
    (distinct : v.Distinct) (back : ∀ n ∈ v.numbers, n.ReadsBack) (deep : v.nesting ≤ depth) :
    (Reader.variant plain data).run (spell .compact (.object [(name, v)])) = some (f v) := by
  have read := Json.value_spell distinct back .compact deep (length_data_le name v)
    (Json.ends_cons (c := '\x7d') rfl [])
  exact run_variant_object known (by simp [Reader.map, read])

end

/-! ## Requests and responses -/

/-- A request comes out of its payload. -/
theorem Request.ofPayload?_encode (request : Request)
    (data : ∀ v, request = .replaceDocument v →
      v.Distinct ∧ (∀ n ∈ v.numbers, n.ReadsBack) ∧ v.nesting ≤ Json.maxDepth - 1) :
    ofPayload? (payload request.encode) = some request := by
  rw [request_ofPayload?, parse?, Json.toList_compact]
  cases request with
  | getDocument => exact run_variant_text _
  | replaceDocument v =>
    obtain ⟨distinct, back, deep⟩ := data v rfl
    exact run_variant_value (if_pos rfl) distinct back deep
  | probeCapabilities => exact run_variant_text _
  | shutdown => exact run_variant_text _

/-- No object in a value that is to be stored has a name twice, and the value leaves one level of
nesting to the message. -/
lemma Request.shape_of_ofPayload? {payload : ByteArray} {v : Json}
    (h : ofPayload? payload = some (.replaceDocument v)) :
    v.Distinct ∧ v.nesting ≤ Json.maxDepth - 1 := by
  obtain ⟨text, -, parsed⟩ := Option.bind_eq_some_iff.1 h
  rcases exists_of_run_variant parsed with ⟨name, plain⟩ | ⟨name, read, cs, rest, known, found⟩
  · unfold plain? at plain
    split_ifs at plain <;> cases plain
  · unfold data? at known
    split_ifs at known
    cases known
    unfold Reader.map at found
    split at found
    · rename_i read
      cases found
      exact ⟨Json.distinct_of_value read, Json.nesting_le_of_value read⟩
    · cases found

/-- If a request to store a value comes out of its payload as any request at all, the value leaves
one level of nesting to the message. -/
theorem Request.nesting_le_of_ofPayload? {v : Json} (distinct : v.Distinct)
    (back : ∀ n ∈ v.numbers, n.ReadsBack) {request : Request}
    (h : ofPayload? (payload (replaceDocument v).encode) = some request) :
    v.nesting ≤ Json.maxDepth - 1 := by
  rw [request_ofPayload?, parse?, Json.toList_compact] at h
  obtain ⟨found, read⟩ := exists_of_run_variant_object (if_pos rfl) h
  unfold Reader.map at read
  split at read
  · rename_i other rest shallow
    -- Read deep enough, it is the value itself, and it was read not so deep.
    have deep := Json.value_mono shallow (le_max_left _ v.nesting)
    have whole := Json.value_spell distinct back .compact (le_max_right (Json.maxDepth - 1) v.nesting)
      (length_data_le "ReplaceDocument" v) (Json.ends_cons (c := '\x7d') rfl [])
    have same := deep.symm.trans whole
    cases same
    exact Json.nesting_le_of_value shallow
  · cases read

/-- A document in a response comes out of its payload. -/
theorem Response.ofPayload?_document {v : Json} (distinct : v.Distinct)
    (back : ∀ n ∈ v.numbers, n.ReadsBack) (deep : v.nesting ≤ Json.maxDepth - 1) :
    ofPayload? (payload (document v).encode) = some (document v) := by
  rw [response_ofPayload?, parse?, Json.toList_compact]
  exact run_variant_value (if_pos rfl) distinct back deep

lemma Response.ofPayload?_replaced : ofPayload? (payload replaced.encode) = some replaced := by
  rw [response_ofPayload?, parse?, Json.toList_compact]
  exact run_variant_text _

/-- The message of an error comes out of its payload. -/
theorem Response.ofPayload?_error (message : String) :
    ofPayload? (payload (error message).encode) = some (error message) := by
  have text := Reader.string_spellText message ['\x7d']
  have known (bound : Nat) : data? none bound "Error" = some (Reader.text.map error) := by
    simp [data?]
  rw [response_ofPayload?, parse?, Json.toList_compact]
  refine run_variant_object (known _) ?_
  simp [spell, Reader.map, Reader.text, Reader.skipBlanks_spellText, text]

end Wire

end KanaSettings
