import KanaSettings.Proofs.Wire.Legible
import KanaSettings.Proofs.Wire.Size
import KanaSettings.Store.Remote

/-!
# Streams of messages

A stream says where each message ends, so whoever reads one takes exactly the bytes of a message off
it, and messages that were written one after another are received one after another.  What was
cut off anywhere is no message, and a length that is too great is refused before anything after it
is taken.
-/

namespace KanaSettings

open Json (Legible maxDepth)

namespace Wire

/-! ## Frames in a stream -/

lemma littleEndian_ofLittleEndian (bytes : List UInt8) :
    littleEndian bytes.length (ofLittleEndian bytes) = bytes := by
  induction bytes with
  | nil => rfl
  | cons byte bytes ih =>
    have small := byte.toNat_lt
    have first : UInt8.ofNat (byte.toNat + 256 * ofLittleEndian bytes) = byte := by
      rw [← UInt8.toNat_inj, UInt8.toNat_ofNat']
      omega
    have others : (byte.toNat + 256 * ofLittleEndian bytes) / 256 = ofLittleEndian bytes := by
      omega
    simp only [List.length_cons, littleEndian, ofLittleEndian, first, others, ih]

/-- Four bytes are the header of what they announce. -/
lemma header_announced {head : ByteArray} (four : head.size = headerSize) :
    header (announced head) = head := by
  have whole : head.extract 0 headerSize = head := by rw [← four, ByteArray.extract_zero_size]
  have length : head.data.toList.length = 4 := by rw [Array.length_toList]; exact four
  have same := littleEndian_ofLittleEndian head.data.toList
  rw [length] at same
  rw [header, announced, whole, same, Array.toArray_toList]

/-- Only the first four bytes announce anything. -/
lemma announced_append {head : ByteArray} (four : head.size = headerSize) (rest : ByteArray) :
    announced (head ++ rest) = announced head := by
  have whole : head.extract 0 headerSize = head := by rw [← four, ByteArray.extract_zero_size]
  rw [announced, announced, ByteArray.extract_append_eq_left four.symm, whole]

lemma exists_head {stream : ByteArray} (long : ¬ stream.size < headerSize) :
    ∃ head rest, head.size = headerSize ∧ stream = head ++ rest := by
  refine ⟨stream.extract 0 headerSize, stream.extract headerSize stream.size, ?_, ?_⟩
  · rw [ByteArray.size_extract]
    omega
  · rw [← ByteArray.extract_eq_extract_append_extract headerSize (Nat.zero_le _) (by omega),
      ByteArray.extract_zero_size]

/-- What comes off a stream is decided by its first four bytes and by how many follow. -/
lemma unframe_append {head : ByteArray} (four : head.size = headerSize) (rest : ByteArray) :
    unframe (head ++ rest) =
      if maxPayload < announced head then .error (.tooLong (announced head))
      else if rest.size < announced head then .error .cut
      else .ok (rest.extract 0 (announced head), rest.extract (announced head) rest.size) := by
  have size : (head ++ rest).size = headerSize + rest.size := by rw [ByteArray.size_append, four]
  have front := ByteArray.extract_append_size_add' (a := head) (b := rest) (i := 0)
    (j := announced head) four.symm
  have back := ByteArray.extract_append_size_add' (a := head) (b := rest) (i := announced head)
    (j := rest.size) four.symm
  rw [Nat.add_zero] at front
  unfold unframe
  rw [announced_append four, size, if_neg (by omega)]
  dsimp only
  rw [front, back]
  simp only [Nat.add_lt_add_iff_left]

/-- A payload comes off a stream exactly if the stream starts with its frame. -/
theorem unframe_eq_ok {stream payload rest : ByteArray} :
    unframe stream = .ok (payload, rest) ↔
      payload.size ≤ maxPayload ∧ stream = header payload.size ++ (payload ++ rest) := by
  refine ⟨fun h => ?_, fun ⟨fits, starts⟩ => by rw [starts]; exact unframe_header fits rest⟩
  by_cases short : stream.size < headerSize
  · rw [unframe, if_pos short] at h
    cases h
  · obtain ⟨head, more, four, rfl⟩ := exists_head short
    rw [unframe_append four] at h
    split_ifs at h with long cut
    simp only [Except.ok.injEq, Prod.mk.injEq] at h
    obtain ⟨rfl, rfl⟩ := h
    have size : (more.extract 0 (announced head)).size = announced head := by
      rw [ByteArray.size_extract]
      omega
    rw [size, header_announced four,
      ← ByteArray.extract_eq_extract_append_extract _ (Nat.zero_le _) (Nat.not_lt.1 cut),
      ByteArray.extract_zero_size]
    exact ⟨Nat.not_lt.1 long, rfl⟩

/-- What is left of a frame after its end was cut off is no frame. -/
lemma unframe_of_cut {payload front back : ByteArray} (fits : payload.size ≤ maxPayload)
    (whole : front ++ back = header payload.size ++ payload) (some : back ≠ .empty) :
    unframe front = .error .noHeader ∨ unframe front = .error .cut := by
  by_cases short : front.size < headerSize
  · exact .inl (by rw [unframe, if_pos short])
  · obtain ⟨head, part, four, rfl⟩ := exists_head short
    rw [ByteArray.append_assoc] at whole
    obtain ⟨rfl, rfl⟩ :=
      (ByteArray.append_eq_append_iff_of_size_eq_left (four.trans (size_header _).symm)).1 whole
    have announces := announced_header fits .empty
    rw [ByteArray.append_empty] at announces
    have missing : part.size < (part ++ back).size := by
      have pos : back.size ≠ 0 := fun zero => some (ByteArray.size_eq_zero_iff.1 zero)
      rw [ByteArray.size_append]
      omega
    exact .inr (by rw [unframe_append four, announces, if_neg (by omega), if_pos missing])

/-! ## Taking bytes off -/

/-- Take so many bytes off a stream, and return what is left of it.  If there are fewer, nothing is
left. -/
def takeOff (count : Nat) (stream : ByteArray) : Option ByteArray × ByteArray :=
  if stream.size < count then (none, .empty)
  else (some (stream.extract 0 count), stream.extract count stream.size)

/-- Take a payload off a stream part by part, first the header and then what it announces, and return
what is left of the stream, whether this succeeds or not. -/
def pull (stream : ByteArray) : Except FrameError ByteArray × ByteArray :=
  match takeOff headerSize stream with
  | (none, left) => (.error .noHeader, left)
  | (some head, left) =>
    if maxPayload < announced head then (.error (.tooLong (announced head)), left)
    else
      match takeOff (announced head) left with
      | (none, left) => (.error .cut, left)
      | (some payload, left) => (.ok payload, left)

lemma takeOff_append {head : ByteArray} {count : Nat} (size : head.size = count)
    (rest : ByteArray) : takeOff count (head ++ rest) = (some head, rest) := by
  have total : (head ++ rest).size = head.size + rest.size := ByteArray.size_append
  rw [takeOff, if_neg (by omega), ByteArray.extract_append_eq_left size.symm,
    ByteArray.extract_append_eq_right size.symm total]

/-- Part by part the same payload comes off as all at once, and the same is left. -/
theorem pull_eq (stream : ByteArray) :
    (pull stream).1 = (unframe stream).map Prod.fst ∧
      ∀ payload rest, unframe stream = .ok (payload, rest) → (pull stream).2 = rest := by
  by_cases short : stream.size < headerSize
  · simp [pull, takeOff, unframe, short, Except.map]
  · obtain ⟨head, rest, four, rfl⟩ := exists_head short
    rw [pull, takeOff_append four, unframe_append four]
    dsimp only
    by_cases long : maxPayload < announced head
    · simp [long, Except.map]
    · by_cases cut : rest.size < announced head <;> simp [long, cut, takeOff, Except.map]

/-- A length that is too great is refused when nothing but it has been taken off. -/
lemma pull_tooLong {head : ByteArray} (four : head.size = headerSize)
    (long : maxPayload < announced head) (more : ByteArray) :
    pull (head ++ more) = (.error (.tooLong (announced head)), more) := by
  simp [pull, takeOff_append four, long]

/-! ## Writing and receiving -/

/-- Write a message after what is already written.  Of one that is too long nothing is written. -/
def write (message : Json) (out : ByteArray) : Except FrameError Unit × ByteArray :=
  match frame (payload message) with
  | .ok bytes => (.ok (), out ++ bytes)
  | .error error => (.error error, out)

/-- Write messages one after another. -/
def writeAll (messages : List Json) (out : ByteArray) : ByteArray :=
  messages.foldl (fun out message => (write message out).2) out

/-- Messages that can be received one after another, and what is left of the stream then. -/
inductive Receives {α : Type} (decode? : ByteArray → Option α) :
    ByteArray → List α → ByteArray → Prop where
  | nil (stream : ByteArray) : Receives decode? stream [] stream
  | cons {stream rest left : ByteArray} {message : α} {messages : List α}
      (first : receive decode? stream = .ok (message, rest))
      (others : Receives decode? rest messages left) :
      Receives decode? stream (message :: messages) left

/-- Whether a message is short enough. -/
def Fits (message : Json) : Prop := (payload message).size ≤ maxPayload

instance (message : Json) : Decidable (Fits message) :=
  inferInstanceAs (Decidable ((payload message).size ≤ maxPayload))

lemma write_of_fits {message : Json} (fits : Fits message) (out : ByteArray) :
    write message out =
      (.ok (), out ++ (header (payload message).size ++ payload message)) := by
  rw [write, frame_eq fits]

lemma write_of_not_fits {message : Json} (long : ¬ Fits message) (out : ByteArray) :
    write message out = (.error (.tooLong (payload message).size), out) := by
  have long : ¬ (payload message).size ≤ maxPayload := long
  rw [write, frame, if_neg long]

lemma fits_of_write {message : Json} {bytes : ByteArray}
    (written : write message .empty = (.ok (), bytes)) :
    Fits message ∧ bytes = header (payload message).size ++ payload message := by
  by_cases fits : Fits message
  · rw [write_of_fits fits, ByteArray.empty_append] at written
    exact ⟨fits, (Prod.mk.inj written).2.symm⟩
  · rw [write_of_not_fits fits] at written
    cases written

lemma writeAll_cons (message : Json) (messages : List Json) (out : ByteArray) :
    writeAll (message :: messages) out = writeAll messages (write message out).2 := rfl

lemma writeAll_eq_append (messages : List Json) (out : ByteArray) :
    writeAll messages out = out ++ writeAll messages .empty := by
  induction messages generalizing out with
  | nil => exact ByteArray.append_empty.symm
  | cons message messages ih =>
    rw [writeAll_cons, writeAll_cons, ih, ih (write message .empty).2, ← ByteArray.append_assoc]
    by_cases fits : Fits message
    · rw [write_of_fits fits, write_of_fits fits, ByteArray.empty_append]
    · rw [write_of_not_fits fits, write_of_not_fits fits, ByteArray.append_empty]

/-- A host writes its responses this way. -/
lemma stream_eq_writeAll (responses : List Response) :
    Remote.stream responses = writeAll (responses.map Response.encode) .empty := by
  rw [Remote.stream, writeAll, List.foldl_map]
  congr 1
  funext out response
  rw [write]
  cases frame (payload response.encode) <;> rfl

section

variable {α : Type} {decode? : ByteArray → Option α} {encode : α → Json}

lemma receive_of_unframe {stream payload rest : ByteArray} {message : α}
    (unframed : unframe stream = .ok (payload, rest)) (decodes : decode? payload = some message) :
    receive decode? stream = .ok (message, rest) := by
  simp only [receive, unframed, decodes]

/-- What is received stands at the front of the stream, in a frame. -/
theorem receive_eq_ok {stream rest : ByteArray} {message : α} :
    receive decode? stream = .ok (message, rest) ↔
      ∃ payload, payload.size ≤ maxPayload ∧ decode? payload = some message ∧
        stream = header payload.size ++ (payload ++ rest) := by
  constructor
  · intro h
    unfold receive at h
    split at h
    · cases h
    · rename_i payload left unframed
      split at h
      · cases h
      · rename_i decodes
        cases h
        obtain ⟨fits, starts⟩ := unframe_eq_ok.1 unframed
        exact ⟨payload, fits, decodes, starts⟩
  · rintro ⟨payload, fits, decodes, starts⟩
    exact receive_of_unframe (unframe_eq_ok.2 ⟨fits, starts⟩) decodes

lemma receive_append {stream rest : ByteArray} {message : α}
    (h : receive decode? stream = .ok (message, rest)) (more : ByteArray) :
    receive decode? (stream ++ more) = .ok (message, rest ++ more) := by
  obtain ⟨payload, fits, decodes, rfl⟩ := receive_eq_ok.1 h
  refine receive_eq_ok.2 ⟨payload, fits, decodes, ?_⟩
  rw [ByteArray.append_assoc, ByteArray.append_assoc]

lemma Receives.append {stream rest : ByteArray} {messages : List α}
    (h : Receives decode? stream messages rest) (more : ByteArray) :
    Receives decode? (stream ++ more) messages (rest ++ more) := by
  induction h with
  | nil stream => exact .nil _
  | cons first others ih => exact .cons (receive_append first more) ih

/-- Why nothing that follows can be received: a frame is there, and it is too long or no message. -/
inductive Final : ReceiveError → Prop where
  | tooLong (size : Nat) : Final (.frame (.tooLong size))
  | undecodable (payload : ByteArray) : Final (.undecodable payload)

/-- What is wrong with a frame that is there stays wrong, whatever follows. -/
lemma receive_append_of_final {stream : ByteArray} {error : ReceiveError} (final : Final error)
    (h : receive decode? stream = .error error) (more : ByteArray) :
    receive decode? (stream ++ more) = .error error := by
  cases final with
  | tooLong size =>
    by_cases short : stream.size < headerSize
    · simp [receive, unframe, short] at h
    · obtain ⟨head, left, four, rfl⟩ := exists_head short
      rw [ByteArray.append_assoc, receive, unframe_append four]
      rw [receive, unframe_append four] at h
      -- The announcement stands at the front, so more bytes do not change it.
      by_cases long : maxPayload < announced head
      · rw [if_pos long] at h ⊢
        exact h
      · rw [if_neg long] at h
        split at h
        · rename_i cut
          split at cut <;> cases cut
          cases h
        · split at h <;> cases h
  | undecodable payload =>
    unfold receive at h
    split at h
    · cases h
    · rename_i found left unframed
      split at h
      · rename_i garbled
        cases h
        -- The payload is there as a whole, and so it stays what it is.
        obtain ⟨fits, rfl⟩ := unframe_eq_ok.1 unframed
        rw [ByteArray.append_assoc, ByteArray.append_assoc]
        simp only [receive, unframe_header fits, garbled]
      · cases h

/-- Messages that were written are received, but for those that were too long. -/
lemma receives_writeAll (decodes : ∀ message, Legible maxDepth (encode message) →
      decode? (payload (encode message)) = some message) {messages : List α}
    (legible : ∀ message ∈ messages, Legible maxDepth (encode message)) (rest : ByteArray) :
    Receives decode? (writeAll (messages.map encode) .empty ++ rest)
      (messages.filter fun message => Fits (encode message)) rest := by
  induction messages with
  | nil => exact ByteArray.empty_append.symm ▸ .nil rest
  | cons message messages ih =>
    obtain ⟨first, others⟩ := List.forall_mem_cons.1 legible
    rw [List.map_cons, writeAll_cons, writeAll_eq_append, ByteArray.append_assoc]
    by_cases fits : Fits (encode message)
    · rw [write_of_fits fits, ByteArray.empty_append, List.filter_cons_of_pos (by simpa using fits),
        ByteArray.append_assoc]
      exact .cons (receive_of_unframe (unframe_header fits _) (decodes message first)) (ih others)
    · rw [write_of_not_fits fits, ByteArray.empty_append,
        List.filter_cons_of_neg (by simpa using fits)]
      exact ih others

/-- How a kind of messages travels over a stream. -/
structure Travels (decode? : ByteArray → Option α) (encode : α → Json) : Prop where
  written : ∀ message out, (write (encode message) out).1 = .ok () ↔
    (payload (encode message)).size ≤ maxPayload
  /-- Of one that cannot be written nothing is written. -/
  silent : ∀ message out error, (write (encode message) out).1 = .error error →
    (write (encode message) out).2 = out
  received : ∀ message bytes, Legible maxDepth (encode message) →
    write (encode message) .empty = (.ok (), bytes) →
    ∀ rest, receive decode? (bytes ++ rest) = .ok (message, rest)
  /-- Of messages written one after another, those that could be written are received one after
  another. -/
  sequence : ∀ messages : List α, (∀ message ∈ messages, Legible maxDepth (encode message)) →
    ∀ rest, Receives decode? (writeAll (messages.map encode) .empty ++ rest)
      (messages.filter fun message => Fits (encode message)) rest
  /-- What was cut off anywhere is no message. -/
  cut : ∀ message bytes, write (encode message) .empty = (.ok (), bytes) →
    ∀ front back, bytes = front ++ back → back ≠ .empty →
      receive decode? front = .error (.frame .noHeader) ∨
        receive decode? front = .error (.frame .cut)
  /-- A length that is too great is refused, and nothing after it is taken. -/
  refused : ∀ head more, head.size = headerSize → maxPayload < announced head →
    receive decode? (head ++ more) = .error (.frame (.tooLong (announced head))) ∧
      pull (head ++ more) = (.error (.tooLong (announced head)), more)

lemma travels (decodes : ∀ message, Legible maxDepth (encode message) →
    decode? (payload (encode message)) = some message) : Travels decode? encode where
  written := by
    intro message out
    by_cases fits : Fits (encode message)
    · exact iff_of_true (by rw [write_of_fits fits]) fits
    · exact iff_of_false (by simp [write_of_not_fits fits]) fits
  silent := by
    intro message out error refused
    by_cases fits : Fits (encode message)
    · rw [write_of_fits fits] at refused
      cases refused
    · rw [write_of_not_fits fits]
  received := by
    intro message bytes legible written rest
    obtain ⟨fits, rfl⟩ := fits_of_write written
    rw [ByteArray.append_assoc]
    exact receive_of_unframe (unframe_header fits rest) (decodes message legible)
  sequence := fun messages legible rest => receives_writeAll decodes legible rest
  cut := by
    rintro message _ written front back rfl some
    obtain ⟨fits, whole⟩ := fits_of_write written
    rcases unframe_of_cut fits whole some with short | short
    · exact .inl (by rw [receive, short])
    · exact .inr (by rw [receive, short])
  refused := by
    intro head more four long
    refine ⟨?_, pull_tooLong four long more⟩
    rw [receive, unframe_append four, if_pos long]

end

/-- Requests and responses travel over streams as they are, whatever follows them and whatever values
are in them, as long as these are legible.  This is how a host writes its responses, and it makes no
difference to what is received that a frame is taken off part by part. -/
theorem travels_messages :
    Travels Request.ofPayload? Request.encode ∧ Travels Response.ofPayload? Response.encode ∧
      (∀ responses, Remote.stream responses = writeAll (responses.map Response.encode) .empty) ∧
      ∀ stream, (pull stream).1 = (unframe stream).map Prod.fst ∧
        ∀ payload rest, unframe stream = .ok (payload, rest) → (pull stream).2 = rest :=
  ⟨travels Request.ofPayload?_of_legible, travels Response.ofPayload?_of_legible,
    stream_eq_writeAll, pull_eq⟩

/-- Two requests, the second with a number in it, and a byte that follows them. -/
theorem travels_messages_pair :
    Receives Request.ofPayload?
      (writeAll [.string "GetDocument", .object [("ReplaceDocument", .object [("n", .ofNat 7)])]]
        .empty ++ ⟨#[0]⟩)
      [.getDocument, .replaceDocument (.object [("n", .ofNat 7)])] ⟨#[0]⟩ := by
  have back : (Number.int 7).ReadsBack := by
    unfold Number.ReadsBack
    rfl
  have plain : Legible maxDepth (Request.encode .getDocument) := by
    refine ⟨?_, ?_, ?_⟩ <;> simp [Request.encode, Json.Distinct, Json.numbers, Json.nesting]
  have data : Legible maxDepth (Request.encode (.replaceDocument (.object [("n", .ofNat 7)]))) := by
    refine ⟨?_, ?_, ?_⟩
    · simp [Request.encode, Json.ofNat, Json.Distinct]
    · simp [Request.encode, Json.ofNat, Json.numbers, back]
    · simp [Request.encode, Json.ofNat, Json.nesting, maxDepth]
  have short : Fits (Request.encode (.replaceDocument (.object [("n", .ofNat 7)]))) := by
    unfold Fits
    simp only [Request.encode, size_variant, Json.ofNat, Json.spell, List.map]
    decide
  have both := travels_messages.1.sequence [.getDocument,
    .replaceDocument (.object [("n", .ofNat 7)])] (by simp [plain, data]) ⟨#[0]⟩
  have first : Fits (Request.encode .getDocument) := size_getDocument_le
  rwa [List.filter_eq_self.2 (by simp [first, short])] at both

end Wire

end KanaSettings
