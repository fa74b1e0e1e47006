import KanaSettings.Proofs.Host.Log
import KanaSettings.Proofs.Store.Shelf

/-!
# Documents that a host hands back

A host that has taken a document hands it out again when it is asked, as long as it has not taken
another one.  It does not matter how the request spelled the document: what is handed out is the
document that the file was written for, read again.  So it is the same if its numbers read back, and
it reaches the visitor if it is short enough as the host spells it.
-/

namespace KanaSettings

open FileTree
open Json (spell spellText maxDepth Reader)
open Wire (Request Response)

/-! ## What the host has taken -/

namespace SettingsFile

variable {file : SettingsFile} {document : Document}

/-- A document is read from the contents that were made for it only if its numbers read back. -/
lemma readsBack_of_decode_encode (distinct : document.Distinct)
    (deep : document.toJson.nesting ≤ maxDepth)
    (h : file.decode (encode document) = .ok document) :
    ∀ n ∈ document.toJson.numbers, n.ReadsBack := by
  obtain ⟨text, valid, found⟩ := decode_eq_ok.1 h
  rw [encode, fromUTF8?_toUTF8] at valid
  cases valid
  obtain ⟨spelled, spells, keeps⟩ := Json.exists_spelled_of_parse? found
  rw [Json.spelled?_pretty deep] at spells
  cases spells
  exact Json.readsBack_of_keeps distinct keeps

end SettingsFile

namespace Host

/-- A request for the document that a host was asked after it had taken a document, and no other one
since. -/
inductive AskedAfter (log : List Entry) (document : Document) : Entry → Prop where
  /-- The document was taken, then others were asked, and then this one. -/
  | intro {front between back : List Entry} {taken room : Option Nat} {response : Response}
      (whole : log = front ++ ⟨.replaceDocument document.toJson, .replaced, taken⟩ ::
        (between ++ ⟨.getDocument, response, room⟩ :: back))
      (none : ∀ entry ∈ between, entry.response ≠ .replaced) :
      AskedAfter log document ⟨.getDocument, response, room⟩

/-- A document is handed back. -/
structure HandsBack (document : Document) (entry : Entry) : Prop where
  same : (∀ n ∈ document.toJson.numbers, n.ReadsBack) →
    entry.response = .document document.toJson
  /-- If the response is any document at all, it differs in numbers at most. -/
  outline : ∀ value, entry.response = .document value →
    value.outline = document.toJson.outline
  /-- The response reaches the visitor exactly if it is not too long, and the visitor takes it. -/
  reached : entry.reached = true ↔
    Wire.Fits entry.response.encode ∧ entry.room ≠ some 0
  /-- It is not too long if the request would not have been too long as the host spells it. -/
  fits : (∀ n ∈ document.toJson.numbers, n.ReadsBack) →
    Wire.Fits (Request.replaceDocument document.toJson).encode → Wire.Fits entry.response.encode
  read : (∀ n ∈ document.toJson.numbers, n.ReadsBack) →
    Response.ofPayload? (Wire.payload entry.response.encode) = some (.document document.toJson)

variable {host : Host} {tree : FileTree} {document : Document}

/-- A file that is there has the same contents until a document is taken. -/
lemma read_answer [Wording] {request : Request} (other : (host.answer tree request).1 ≠ .replaced)
    {contents : ByteArray} (holds : tree.read host.file.path = .ok contents) :
    (host.answer tree request).2.read host.file.path = .ok contents := by
  have raised := (host.answers tree request).kept other
  exact read_eq_ok.2 (raised.find (read_eq_ok.1 holds))

lemma Answering.read [Wording] {entries : List Entry} (h : host.Answering tree entries)
    (none : ∀ entry ∈ entries, entry.response ≠ .replaced) {contents : ByteArray}
    (holds : tree.read host.file.path = .ok contents) :
    (host.after tree (entries.map Entry.request)).read host.file.path = .ok contents := by
  induction h with
  | nil tree => exact holds
  | cons request room others ih =>
    obtain ⟨first, later⟩ := List.forall_mem_cons.1 none
    exact ih later (read_answer first holds)

lemma answer_getDocument_of_read [Wording] {contents : ByteArray}
    (holds : tree.read host.file.path = .ok contents) :
    (∃ found, host.file.decode contents = .ok found ∧
      (host.answer tree .getDocument).1 = .document found.toJson) ∨
    ∃ error, host.file.decode contents = .error error ∧
      (host.answer tree .getDocument).1 = .error error.message := by
  have load : host.file.load tree = host.file.decode contents := by
    rw [SettingsFile.load, holds]
  cases found : host.file.decode contents with
  | ok document => exact .inl ⟨document, rfl, by simp [answer, load, found]⟩
  | error error => exact .inr ⟨error, rfl, by simp [answer, load, found]⟩

lemma handsBack_of_read [Wording] (distinct : document.Distinct)
    (deep : document.toJson.nesting ≤ maxDepth - 1)
    (holds : tree.read host.file.path = .ok (SettingsFile.encode document)) (room : Option Nat) :
    HandsBack document ⟨.getDocument, (host.answer tree .getDocument).1, room⟩ := by
  have same : (∀ n ∈ document.toJson.numbers, n.ReadsBack) →
      (host.answer tree .getDocument).1 = .document document.toJson := by
    intro back
    have whole := host.file.decode_encode distinct back (deep.trans (Nat.sub_le _ _))
    rcases answer_getDocument_of_read holds with ⟨found, decoded, response⟩ | ⟨error, failed, -⟩
    · rw [whole] at decoded
      cases decoded
      exact response
    · rw [whole] at failed
      cases failed
  refine ⟨same, ?_, Entry.reached_iff _, ?_, ?_⟩
  · intro value responds
    rcases answer_getDocument_of_read holds with ⟨found, decoded, response⟩ | ⟨error, -, response⟩
    · cases response.symm.trans responds
      have outline := SettingsFile.outline_of_decode_encode distinct decoded
      rw [← Document.toJson_outline, ← Document.toJson_outline, outline]
    · cases response.symm.trans responds
  · intro back fits
    rw [same back]
    exact (Wire.size_document_le _).trans fits
  · intro back
    rw [same back]
    exact Response.ofPayload?_document distinct back deep

lemma Answering.handsBack [Wording] {log : List Entry} (h : host.Answering tree log)
    (came : ∀ entry ∈ log, ∃ payload, Request.ofPayload? payload = some entry.request)
    {asked : Entry} (after : AskedAfter log document asked) : HandsBack document asked := by
  obtain ⟨whole, none⟩ := after
  rename_i front between back taken room response
  subst whole
  obtain ⟨payload, decodes⟩ := came ⟨.replaceDocument document.toJson, .replaced, taken⟩ (by simp)
  obtain ⟨distinct, deep⟩ := Request.shape_of_ofPayload? decodes
  -- The answer that the document was replaced says that the file has its text.
  have later := (answering_append.1 h).2
  generalize host.after tree (front.map Entry.request) = before at later
  generalize taking : (⟨.replaceDocument document.toJson, .replaced, taken⟩ : Entry) = first
    at later
  obtain _ | ⟨request, room', others⟩ := later
  obtain ⟨rfl, took, -⟩ := Entry.mk.inj taking
  obtain ⟨other, asks, -, holds⟩ := (host.answers before _).replaced took.symm
  obtain rfl := Document.toJson_injective (Request.replaceDocument.inj asks)
  -- It still has when it is asked for.
  obtain ⟨between', asked⟩ := answering_append.1 others
  have holds := between'.read none holds
  generalize asking : (⟨.getDocument, response, room⟩ : Entry) = last at asked
  obtain _ | ⟨request, room', -⟩ := asked
  obtain ⟨rfl, rfl, rfl⟩ := Entry.mk.inj asking
  exact handsBack_of_read distinct deep holds room

end Host

namespace World

open Host (Entry sent AskedAfter HandsBack)

/-- Whatever visitors come to a host and however they spell their requests, a document that it has
taken is handed back as long as no other one is taken.  This is said of a log that accounts for all
that visitors are told and for all that becomes of the files. -/
theorem handsBack_visits [Wording] (host : Host) (place : Location) (socket : Path)
    (start : FileTree) (visitors : List Visitor) :
    ((hosted place host start false).visits socket visitors).1 =
        ((hosted place host start false).records socket visitors).map (Except.map sent) ∧
      (∃ stopped, ((hosted place host start false).visits socket visitors).2 =
        hosted place host (host.after start
          (((hosted place host start false).log socket visitors).map Entry.request)) stopped) ∧
      ∀ document asked,
        AskedAfter ((hosted place host start false).log socket visitors) document asked →
          HandsBack document asked := by
  obtain ⟨answering, files⟩ := answering_log host place socket start false visitors
  refine ⟨visits_eq_records _ socket visitors, files, fun document asked after => ?_⟩
  exact answering.handsBack (fun _ => exists_payload_of_mem_log) after

/-! ## A document that is asked for at once -/

/-- A host with no file yet. -/
def keeper : Host := ⟨⟨⟨"a"⟩⟩, .cpuOnly⟩

/-- Nothing but the socket of a host. -/
def bare : FileTree := ⟨[(["s"], .socket)]⟩

/-- The files when a document has been saved. -/
def filed (document : Document) : FileTree :=
  ⟨[(["a"], .file (SettingsFile.encode document)), (["s"], .socket)]⟩

lemma read_filed (document : Document) :
    (filed document).read keeper.file.path = .ok (SettingsFile.encode document) := rfl

/-- A visitor that sends a request in this payload, and then asks for the document. -/
def asker (payload : ByteArray) : Visitor where
  sends := Wire.header payload.size ++ (payload ++
    (Wire.header (Wire.payload Request.getDocument.encode).size ++
      Wire.payload Request.getDocument.encode))
  takes := none

lemma requests_asker {payload : ByteArray} (fits : payload.size ≤ Wire.maxPayload) {value : Json}
    (decodes : Request.ofPayload? payload = some (.replaceDocument value)) :
    Host.requests (asker payload).sends = [.replaceDocument value, .getDocument] := by
  have first := Wire.receive_of_unframe (Wire.unframe_header fits
    (Wire.header (Wire.payload Request.getDocument.encode).size ++
      Wire.payload Request.getDocument.encode)) decodes
  have second := Wire.receive_header Wire.size_getDocument_le
    (Request.ofPayload?_encode .getDocument (by rintro v ⟨⟩))
  have last := Host.requests_of_error (Wire.receive_empty Request.ofPayload?)
  rw [asker, Host.requests_of_ok first, if_neg (by simp [Host.stopsAfter]),
    Host.requests_of_ok second, if_neg (by simp [Host.stopsAfter]), last]

/-- Such a visitor is handed back the document that it has sent. -/
lemma askedAfter_asker [Wording] {payload : ByteArray} (fits : payload.size ≤ Wire.maxPayload)
    {document : Document}
    (decodes : Request.ofPayload? payload = some (.replaceDocument document.toJson)) :
    AskedAfter ((hosted ["s"] keeper bare false).log ⟨"s"⟩ [asker payload]) document
      ⟨.getDocument, (keeper.answer (filed document) .getDocument).1, none⟩ := by
  have saves : keeper.file.save none document bare = (.ok (), filed document) := rfl
  have takes : keeper.answer bare (.replaceDocument document.toJson) =
      (.replaced, filed document) := by
    simp [Host.answer, saves]
  have sends : Entry.reached ⟨.replaceDocument document.toJson, .replaced, none⟩ = true :=
    (Entry.reached_iff _).2 ⟨Wire.size_replaced_le, by simp⟩
  have connects : (hosted ["s"] keeper bare false).connect ⟨"s"⟩ = .ok keeper := rfl
  have room : (asker payload).takes = none := rfl
  have tree : (hosted ["s"] keeper bare false).tree = bare := rfl
  have whole : (hosted ["s"] keeper bare false).log ⟨"s"⟩ [asker payload] = [] ++
      ⟨.replaceDocument document.toJson, .replaced, none⟩ ::
        ([] ++ ⟨.getDocument, (keeper.answer (filed document) .getDocument).1, none⟩ :: []) := by
    simp [log, records, record, connects, Except.map, Except.toOption, requests_asker fits decodes,
      room, tree, Host.entries, takes, sends]
  exact .intro whole (by simp)

/-- A document with a number in it is handed back. -/
theorem handsBack_visits_number : ∃ asked,
    AskedAfter ((hosted ["s"] keeper bare false).log ⟨"s"⟩
        [asker (Wire.payload (Request.replaceDocument (.object [("n", .ofNat 7)])).encode)])
      ⟨[("n", .ofNat 7)]⟩ asked ∧
    asked.response = .document (.object [("n", .ofNat 7)]) ∧ asked.reached = true := by
  have distinct : (Json.object [("n", .ofNat 7)]).Distinct := by simp [Json.ofNat, Json.Distinct]
  have back : ∀ n ∈ (Json.object [("n", .ofNat 7)]).numbers, n.ReadsBack := by
    simp only [Json.numbers, Json.ofNat, List.flatMap_cons, List.flatMap_nil, List.append_nil,
      List.mem_singleton, forall_eq]
    unfold Number.ReadsBack
    rfl
  have decodes := Request.ofPayload?_encode (.replaceDocument (.object [("n", .ofNat 7)])) (by
    rintro _ ⟨⟩
    exact ⟨distinct, back, by simp [Json.ofNat, Json.nesting, maxDepth]⟩)
  have fits : Wire.Fits (Request.replaceDocument (.object [("n", .ofNat 7)])).encode := by
    unfold Wire.Fits
    simp only [Request.encode, Wire.size_variant, Json.ofNat, spell, List.map]
    decide
  have after : AskedAfter _ ⟨[("n", .ofNat 7)]⟩ _ := askedAfter_asker fits decodes
  have handed := (handsBack_visits keeper ["s"] ⟨"s"⟩ bare _).2.2 _ _ after
  exact ⟨_, after, handed.same back, handed.reached.2 ⟨handed.fits back fits, by simp⟩⟩

/-! ## Documents that are not handed back -/

/-- The text of a request to store a document with one member, whose value is spelled in some way. -/
def requestText (value : List Char) : List Char :=
  '\x7b' :: (spellText "ReplaceDocument" ++ ':' :: (Json.lone "a" value ++ ['\x7d']))

lemma ofPayload?_requestText {text : List Char} {value : Json}
    (reads : ∀ bound, text.length ≤ bound → ∀ rest, Reader.Ends rest →
      Reader.value bound (maxDepth - 2) (text ++ rest) = some (value, rest)) :
    Request.ofPayload? (String.ofList (requestText text)).toUTF8 =
      some (.replaceDocument (.object [("a", value)])) := by
  have long : text.length ≤ (requestText text).length := by
    simp only [requestText, Json.lone, Json.Layout.enclose, Json.Layout.spellMember, List.length_cons,
      List.length_append]
    omega
  have object := Json.value_single "a" (show 1 ≤ (requestText text).length by simp [requestText])
    (reads _ long) ['\x7d']
  rw [Request.ofPayload?, fromUTF8?_toUTF8, Option.bind_some, Request.parse?, String.toList_ofList]
  exact Wire.run_variant_data (if_pos rfl) (Json.map_eq object Request.replaceDocument)

lemma sizeOfChars_single (value : List Char) :
    sizeOfChars (Json.lone "a" value) = sizeOfChars value + 6 := by
  have name : sizeOfChars (spellText "a") = 3 := by decide
  have opening : '\x7b'.utf8Size = 1 := rfl
  have colon : sizeOfChars [':'] = 1 := by decide
  have closing : sizeOfChars ['\x7d'] = 1 := by decide
  simp only [Json.lone, Json.Layout.enclose, Json.Layout.spellMember, Json.Layout.deeper,
    Json.Layout.lineBreak, Json.Layout.colon, List.nil_append, List.flatMap_nil, sizeOfChars_cons,
    sizeOfChars_append, name, opening, colon, closing]
  omega

lemma size_requestText (value : List Char) :
    (String.ofList (requestText value)).toUTF8.size = sizeOfChars value + 26 := by
  have name : sizeOfChars (spellText "ReplaceDocument") = 17 := by decide
  have opening : '\x7b'.utf8Size = 1 := rfl
  have colon : ':'.utf8Size = 1 := rfl
  have closing : sizeOfChars ['\x7d'] = 1 := by decide
  rw [size_toUTF8_ofList, requestText, sizeOfChars_cons, sizeOfChars_append, sizeOfChars_cons,
    sizeOfChars_append, sizeOfChars_single, name, opening, colon, closing]
  omega

/-- Ten to the fifteenth, which the host spells with eighteen bytes. -/
def large : Number := .double ⟨false, 8000000000000000, 1071, by decide, by decide, by decide⟩

/-- The same number in four bytes. -/
def short : List Char := "1e15".toList

/-- A text of some length. -/
def filler (count : Nat) : String := String.ofList (List.replicate count 'x')

/-- A document that has little more in it than a long text. -/
def tiresome (count : Nat) : Document :=
  ⟨[("a", .array [.number large, .string (filler count)])]⟩

/-- How the list in it is spelled when it takes few bytes. -/
def tersely (count : Nat) : List Char :=
  Json.Layout.compact.enclose '[' ']' [short, spellText (filler count)]

lemma readsBack_large : large.ReadsBack := by
  unfold Number.ReadsBack
  decide +kernel

lemma ofPayload?_tersely (count : Nat) :
    Request.ofPayload? (String.ofList (requestText (tersely count))).toUTF8 =
      some (.replaceDocument (tiresome count).toJson) := by
  refine ofPayload?_requestText fun bound long rest ends => ?_
  have read : Reader.number short = some (large, []) := by decide +kernel
  have each : ∀ part ∈ [(short, Json.number large), (spellText (filler count), .string (filler count))],
      Json.ReadsAs (Reader.value bound (maxDepth - 3)) Prod.fst ']' part part.2 := by
    simp only [List.forall_mem_cons, List.not_mem_nil, false_implies, implies_true, and_true]
    refine ⟨⟨fun rest ends => ?_, _, _, rfl, rfl, by decide⟩,
      fun rest _ => Json.value_text _ rest, _, _, rfl, rfl, by decide⟩
    exact Json.value_of_number (.inr rfl) read ends
  have enough : 2 ≤ bound := by
    refine le_trans ?_ long
    simp only [tersely, Json.Layout.enclose, List.length_cons, List.length_append]
    omega
  obtain ⟨body, whole, read⟩ := Json.list_enclose '[' Prod.snd (Json.skips_value _ _)
    ⟨rfl, rfl, by decide⟩ .compact each enough
  simp only [List.map_cons, List.map_nil] at whole read
  rw [tersely, whole, List.cons_append]
  exact Json.value_array (read rest)

lemma sizeOfChars_pair (first second : List Char) :
    sizeOfChars (Json.Layout.compact.enclose '[' ']' [first, second]) =
      sizeOfChars first + sizeOfChars second + 3 := by
  have opening : '['.utf8Size = 1 := rfl
  have comma : ','.utf8Size = 1 := rfl
  have closing : sizeOfChars [']'] = 1 := by decide
  simp only [Json.Layout.enclose, Json.Layout.deeper, Json.Layout.lineBreak, Json.Layout.next,
    List.flatMap_cons, List.flatMap_nil, List.nil_append, List.append_nil, sizeOfChars_cons,
    sizeOfChars_append, opening, comma, closing]
  omega

lemma sizeOfChars_spellText_filler (count : Nat) :
    sizeOfChars (spellText (filler count)) = count + 2 := by
  have letters (count : Nat) :
      sizeOfChars ((List.replicate count 'x').flatMap Json.escape) = count := by
    induction count with
    | zero => rfl
    | succ count ih =>
      have letter : sizeOfChars (Json.escape 'x') = 1 := by decide
      rw [List.replicate_succ, List.flatMap_cons, sizeOfChars_append, letter, ih, Nat.add_comm]
  have quote : '"'.utf8Size = 1 := rfl
  have last : sizeOfChars ['"'] = 1 := by decide
  rw [spellText, filler, String.toList_ofList, sizeOfChars_append, sizeOfChars_cons, letters, quote,
    last]
  omega

lemma size_tersely (count : Nat) :
    (String.ofList (requestText (tersely count))).toUTF8.size = count + 35 := by
  have number : sizeOfChars short = 4 := by decide
  rw [size_requestText, tersely, sizeOfChars_pair, sizeOfChars_spellText_filler, number]
  omega

lemma size_tiresome (count : Nat) :
    (Wire.payload (Response.document (tiresome count).toJson).encode).size = count + 42 := by
  have number : sizeOfChars large.text.toList = 18 := by decide +kernel
  have name : sizeOfChars (spellText "Document") = 10 := by decide
  have whole : spell .compact (tiresome count).toJson =
      Json.lone "a"
        (Json.Layout.compact.enclose '[' ']' [large.text.toList, spellText (filler count)]) := by
    simp only [tiresome, Json.lone, Document.toJson, spell, List.map_cons, List.map_nil, Json.Layout.deeper]
  rw [Response.encode, Wire.size_variant, whole, sizeOfChars_single, sizeOfChars_pair,
    sizeOfChars_spellText_filler, name, number]
  omega

lemma ofPayload?_thirty :
    Request.ofPayload? (String.ofList (requestText "30e29".toList)).toUTF8 =
      some (.replaceDocument (.object [("a", .number .thirty)])) := by
  refine ofPayload?_requestText fun bound long rest ends => ?_
  exact Number.stands_thirty bound long _ (Nat.zero_le _) rest ends

/-- A document can be taken that does not reach whoever asks for it, because it is too long as the host
spells it; and one can be taken that is handed out as another one, because a number in it does not read
back. -/
theorem exists_document_that_is_not_handed_back :
    (¬ ∀ (host : Host) (place : Location) (socket : Path) (start : FileTree)
        (visitors : List Visitor) (document : Document) (asked : Entry),
      AskedAfter ((hosted place host start false).log socket visitors) document asked →
      asked.room ≠ some 0 → asked.reached = true) ∧
    ¬ ∀ (host : Host) (place : Location) (socket : Path) (start : FileTree)
        (visitors : List Visitor) (document : Document) (asked : Entry),
      AskedAfter ((hosted place host start false).log socket visitors) document asked →
      asked.response = .document document.toJson := by
  constructor
  · intro h
    -- The request is as long as can be, and the host spells the number in it longer.
    have fits : (String.ofList (requestText (tersely 10485725))).toUTF8.size ≤ Wire.maxPayload := by
      rw [size_tersely]
      decide
    have after := askedAfter_asker fits (ofPayload?_tersely 10485725)
    obtain ⟨distinct, deep⟩ := Request.shape_of_ofPayload? (ofPayload?_tersely 10485725)
    have handed : Host.HandsBack _ ⟨.getDocument, (keeper.answer _ .getDocument).1, none⟩ :=
      Host.handsBack_of_read distinct deep (read_filed _) none
    have arrives := (handed.reached.1 (h _ _ _ _ _ _ _ after (by simp))).1
    have back : ∀ n ∈ (tiresome 10485725).toJson.numbers, n.ReadsBack := by
      simp [tiresome, Document.toJson, Json.numbers, readsBack_large]
    rw [handed.same back, Wire.Fits, size_tiresome] at arrives
    exact absurd arrives (by decide)
  · intro h
    -- What is handed out was read from the file, so its numbers read back.
    have fits : (String.ofList (requestText "30e29".toList)).toUTF8.size ≤ Wire.maxPayload := by
      rw [size_toUTF8_ofList]
      decide
    have after : AskedAfter _ ⟨[("a", .number .thirty)]⟩ _ :=
      askedAfter_asker fits ofPayload?_thirty
    have same := h _ _ _ _ _ _ _ after
    obtain ⟨distinct, deep⟩ := Request.shape_of_ofPayload? ofPayload?_thirty
    have read := read_filed ⟨[("a", .number .thirty)]⟩
    rcases Host.answer_getDocument_of_read read with ⟨found, decoded, response⟩ | ⟨_, -, response⟩
    · have members := Json.object.inj (Response.document.inj (response.symm.trans same))
      obtain rfl : found = ⟨[("a", .number .thirty)]⟩ := congrArg Document.mk members
      have back := SettingsFile.readsBack_of_decode_encode distinct (deep.trans (by decide)) decoded
      exact Number.not_readsBack_thirty (back .thirty (by simp [Document.toJson, Json.numbers]))
    · cases response.symm.trans same

end World

end KanaSettings
