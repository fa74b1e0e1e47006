import KanaSettings.Proofs.Wire.Message
import KanaSettings.Store.Basic

/-!
# How long messages are

A message that is too long is not sent.  A document in an answer takes less room than in a request,
and what is said about a file that cannot be read or written fits as long as the path of the file
leaves room for it.
-/

namespace KanaSettings

open Json (spell spellText)
open Wire (Request Response)

/-! ## Bytes of characters -/

/-- The number of bytes of characters. -/
def sizeOfChars (cs : List Char) : Nat := (cs.map Char.utf8Size).sum

@[simp] lemma sizeOfChars_append (front back : List Char) :
    sizeOfChars (front ++ back) = sizeOfChars front + sizeOfChars back := by
  simp [sizeOfChars]

@[simp] lemma sizeOfChars_cons (c : Char) (cs : List Char) :
    sizeOfChars (c :: cs) = c.utf8Size + sizeOfChars cs := by
  simp [sizeOfChars]

lemma utf8ByteSize_eq (text : String) : text.utf8ByteSize = sizeOfChars text.toList := by
  obtain ⟨cs, rfl⟩ : ∃ cs, text = String.ofList cs := ⟨text.toList, String.ofList_toList.symm⟩
  rw [String.toList_ofList]
  induction cs with
  | nil => rfl
  | cons c cs ih =>
    rw [← List.singleton_append, String.ofList_append, String.utf8ByteSize_append, ih]
    simp [sizeOfChars]

lemma size_toUTF8_ofList (cs : List Char) : (String.ofList cs).toUTF8.size = sizeOfChars cs := by
  have size : (String.ofList cs).toUTF8.size = (String.ofList cs).utf8ByteSize := rfl
  rw [size, utf8ByteSize_eq, String.toList_ofList]

lemma size_payload (message : Json) :
    (Wire.payload message).size = sizeOfChars (spell .compact message) := by
  rw [← Json.toList_compact, ← utf8ByteSize_eq]
  rfl

/-- Escaped, a character is at most six times as long. -/
lemma sizeOfChars_escape (c : Char) : sizeOfChars (Json.escape c) ≤ 6 * c.utf8Size := by
  have pos := c.utf8Size_pos
  have hex (n : Nat) : (Json.hexDigit n).utf8Size = 1 := by
    have all : ∀ digit : Fin 16, (Nat.digitChar digit).utf8Size = 1 := by decide
    exact all ⟨n % 16, Nat.mod_lt _ (by decide)⟩
  have ascii : ∀ d ∈ ['\\', '"', 'b', 't', 'n', 'f', 'r', 'u', '0'], d.utf8Size = 1 := by
    simp [Char.utf8Size]
  simp only [List.forall_mem_cons, List.not_mem_nil, false_implies, implies_true, and_true] at ascii
  unfold Json.escape
  split_ifs <;> simp [sizeOfChars, hex, ascii] <;> omega

lemma sizeOfChars_spellText (text : String) :
    sizeOfChars (spellText text) ≤ 6 * text.utf8ByteSize + 2 := by
  have escaped (cs : List Char) : sizeOfChars (cs.flatMap Json.escape) ≤ 6 * sizeOfChars cs := by
    induction cs with
    | nil => simp [sizeOfChars]
    | cons c cs ih =>
      have first := sizeOfChars_escape c
      rw [List.flatMap_cons, sizeOfChars_append, sizeOfChars_cons]
      omega
  have quote : '"'.utf8Size = 1 := rfl
  have inner := escaped text.toList
  rw [utf8ByteSize_eq, spellText, sizeOfChars_append, sizeOfChars_cons, quote]
  have last : sizeOfChars ['"'] = 1 := rfl
  omega

/-! ## Messages -/

namespace Wire

lemma size_variant (name : String) (v : Json) :
    (payload (.object [(name, v)])).size =
      sizeOfChars (spellText name) + (sizeOfChars (spell .compact v) + 3) := by
  have opening : '\x7b'.utf8Size = 1 := rfl
  have colon : ':'.utf8Size = 1 := rfl
  have closing : sizeOfChars ['\x7d'] = 1 := rfl
  rw [size_payload, spell_variant]
  simp only [sizeOfChars_cons, sizeOfChars_append, opening, colon, closing]
  omega

/-- A document takes less room in an answer than in a request. -/
lemma size_document_le (v : Json) :
    (payload (Response.document v).encode).size ≤
      (payload (Request.replaceDocument v).encode).size := by
  have answer : sizeOfChars (spellText "Document") = 10 := by decide
  have request : sizeOfChars (spellText "ReplaceDocument") = 17 := by decide
  rw [Response.encode, Request.encode, size_variant, size_variant, answer, request]
  omega

lemma size_getDocument_le : (payload Request.getDocument.encode).size ≤ maxPayload := by
  have name : sizeOfChars (spellText "GetDocument") = 13 := by decide
  rw [Request.encode, size_payload, spell, name]
  decide

lemma size_probeCapabilities_le :
    (payload Request.probeCapabilities.encode).size ≤ maxPayload := by
  have name : sizeOfChars (spellText "ProbeCapabilities") = 19 := by decide
  rw [Request.encode, size_payload, spell, name]
  decide

lemma size_replaced_le : (payload Response.replaced.encode).size ≤ maxPayload := by
  have name : sizeOfChars (spellText "Replaced") = 10 := by decide
  rw [Response.encode, size_payload, spell, name]
  decide

lemma size_error_le (message : String) :
    (payload (Response.error message).encode).size ≤ 6 * message.utf8ByteSize + 12 := by
  have name : sizeOfChars (spellText "Error") = 7 := by decide
  have text := sizeOfChars_spellText message
  rw [Response.encode, size_variant, name, spell]
  omega

end Wire

/-! ## What is said about a file -/

/-- What is said about a file with this path fits in a message, even if all of the path has to be
escaped.  So it is with every path that the system takes, and with far longer ones. -/
def Path.Mentionable (path : Path) : Prop := 6 * path.size + 1000 ≤ Wire.maxPayload

lemma Path.mentionable_of_size_lt {path : Path} (h : path.size < sizeLimit) : path.Mentionable := by
  simp only [sizeLimit, Mentionable, Wire.maxPayload] at h ⊢
  omega

lemma FileError.size_message_le (error : FileError) : error.message.utf8ByteSize ≤ 60 := by
  cases error with
  | system cause => cases cause <;> decide
  | notText => decide

lemma TextError.size_message_le [Wording] (error : TextError) :
    error.message.utf8ByteSize ≤ 120 := by
  cases error with
  | notJson text => exact Wording.size_notJson_le text
  | notAnObject =>
    have size : "top level is not a JSON object".utf8ByteSize = 30 := by decide
    exact size.le.trans (by decide)

/-- The error is about a file. -/
inductive StoreError.About (path : Path) : StoreError → Prop where
  | io (error : FileError) : About path (.io path error)
  | parse (error : TextError) : About path (.parse path error)

lemma utf8ByteSize_said (front path said : String) :
    (front ++ path ++ ": " ++ said).utf8ByteSize =
      front.utf8ByteSize + path.utf8ByteSize + 2 + said.utf8ByteSize := by
  have colon : ": ".utf8ByteSize = 2 := by decide
  rw [String.utf8ByteSize_append, String.utf8ByteSize_append, String.utf8ByteSize_append, colon]

section

variable [Wording]

lemma StoreError.About.size_message_le {path : Path} {error : StoreError} (h : error.About path) :
    error.message.utf8ByteSize ≤ path.size + 160 := by
  have path_size : path.size = path.text.utf8ByteSize := rfl
  cases h with
  | io error =>
    have inner := error.size_message_le
    have front : "I/O error for ".utf8ByteSize = 14 := by decide
    have size := utf8ByteSize_said "I/O error for " path.text error.message
    rw [front] at size
    exact size.le.trans (by omega)
  | parse error =>
    have inner := error.size_message_le
    have front : "failed to parse document ".utf8ByteSize = 25 := by decide
    have size := utf8ByteSize_said "failed to parse document " path.text error.message
    rw [front] at size
    exact size.le.trans (by omega)

/-- What is said about a file can be said in a message. -/
theorem StoreError.About.size_le {path : Path} {error : StoreError} (h : error.About path)
    (fits : path.Mentionable) :
    (Wire.payload (Response.error error.message).encode).size ≤ Wire.maxPayload := by
  have message := h.size_message_le
  have size := Wire.size_error_le error.message
  rw [Path.Mentionable] at fits
  omega

end

end KanaSettings
