/-!
# Frames

Messages travel over a stream of bytes as frames: the length of the payload as four bytes, the
least significant first, and then the payload.  A payload has a greatest length, which both sides
enforce: a longer one is never sent, and one that is announced is refused before it is read.
-/

namespace KanaSettings.Wire

/-- The greatest length of a payload. -/
def maxPayload : Nat := 10 * 1024 * 1024

/-- A number as that many bytes, the least significant first. -/
def littleEndian : (count : Nat) → Nat → List UInt8
  | 0, _ => []
  | count + 1, n => UInt8.ofNat n :: littleEndian count (n / 256)

/-- The number that bytes form, the least significant first. -/
def ofLittleEndian : List UInt8 → Nat
  | [] => 0
  | byte :: bytes => byte.toNat + 256 * ofLittleEndian bytes

@[simp] theorem length_littleEndian (count n : Nat) : (littleEndian count n).length = count := by
  induction count generalizing n with
  | zero => rfl
  | succ count ih => simp [littleEndian, ih]

theorem ofLittleEndian_littleEndian (count n : Nat) (h : n < Nat.pow 256 count) :
    ofLittleEndian (littleEndian count n) = n := by
  induction count generalizing n with
  | zero =>
    have zero : n = 0 := Nat.lt_one_iff.1 h
    simp [littleEndian, ofLittleEndian, zero]
  | succ count ih =>
    have hdiv : n / 256 < Nat.pow 256 count := Nat.div_lt_of_lt_mul (Nat.mul_comm _ _ ▸ h)
    simp only [littleEndian, ofLittleEndian, ih _ hdiv, UInt8.toNat_ofNat']
    omega

/-- Why no payload can be taken off a stream, or none be sent. -/
inductive FrameError where
  | tooLong (size : Nat)
  /-- The stream ends within the length. -/
  | noHeader
  /-- The stream ends within the payload. -/
  | cut
deriving DecidableEq

/-- What a person is told. -/
def FrameError.message : FrameError → String
  | .tooLong size => s!"IPC message of {size} bytes exceeds {maxPayload}"
  | .noHeader => "Failed to read IPC frame length: failed to fill whole buffer"
  | .cut => "Failed to read IPC frame: failed to fill whole buffer"

/-- The length of a payload as it is sent. -/
def header (size : Nat) : ByteArray := ⟨(littleEndian 4 size).toArray⟩

/-- The number of bytes in front of a payload. -/
def headerSize : Nat := 4

/-- The frame of a payload. -/
def frame (payload : ByteArray) : Except FrameError ByteArray :=
  if payload.size ≤ maxPayload then .ok (header payload.size ++ payload)
  else .error (.tooLong payload.size)

/-- The length that a stream announces. -/
def announced (stream : ByteArray) : Nat :=
  ofLittleEndian (stream.extract 0 headerSize).data.toList

/-- The payload of the frame at the front of a stream, and the rest of the stream. -/
def unframe (stream : ByteArray) : Except FrameError (ByteArray × ByteArray) :=
  if stream.size < headerSize then .error .noHeader
  else
    let size := announced stream
    if maxPayload < size then .error (.tooLong size)
    else if stream.size < headerSize + size then .error .cut
    else .ok (stream.extract headerSize (headerSize + size),
      stream.extract (headerSize + size) stream.size)

/-- A frame takes something off the stream. -/
theorem size_rest_lt {stream payload rest : ByteArray} (h : unframe stream = .ok (payload, rest)) :
    rest.size < stream.size := by
  unfold unframe at h
  split at h
  · cases h
  · rename_i hs
    simp only at h
    split at h
    · cases h
    · split at h
      · cases h
      · simp only [Except.ok.injEq, Prod.mk.injEq] at h
        rw [← h.2, ByteArray.size_extract]
        simp only [headerSize] at hs ⊢
        omega

end KanaSettings.Wire
