import KanaSettings.Proofs.Document.Distinct
import KanaSettings.Proofs.Store.File
import KanaSettings.Proofs.Wire.Size
import KanaSettings.Store.Remote

/-!
# A document behind a host

Whoever asks a host for its document gets what the file would have handed out, and whoever has the
host replace it has replaced it in the file, as long as what is sent can be sent and reads back.  What
the file says when it fails is told as the message of a remote error.
-/

namespace KanaSettings

open Wire (Request Response)

/-! ## Staying in reach -/

namespace World

variable {world : World} {socket : Path} {host : Host}

lemma connect_eq_ok : world.connect socket = .ok host ↔
    checkAddress socket = .ok () ∧ ∃ place, world.tree.locate socket = .ok place ∧
      world.tree.node? place = some .socket ∧ world.listener = some (place, host) := by
  unfold connect
  cases checkAddress socket with
  | error cause => simp [Bind.bind, Except.bind]
  | ok _ =>
    cases world.tree.locate socket with
    | error cause => simp [Bind.bind, Except.bind]
    | ok place =>
      obtain ⟨tree, listener⟩ := world
      cases hn : tree.node? place with
      | none => simp [Bind.bind, Except.bind, hn]
      | some node =>
        cases node with
        | socket =>
          cases listener with
          | none => simp [Bind.bind, Except.bind, hn]
          | some taken =>
            obtain ⟨there, other⟩ := taken
            by_cases same : there = place
            · simp [Bind.bind, Except.bind, hn, same]
            · simp [Bind.bind, Except.bind, hn, same]
        | _ => simp [Bind.bind, Except.bind, hn]

end World

namespace Remote

variable {remote : Remote} {world : World} {host : Host} {tree tree' : FileTree}

/-- The host can be reached in a world if the files are these. -/
def Reaches (remote : Remote) (world : World) (host : Host) (tree : FileTree) : Prop :=
  World.connect { world with tree := tree } remote.socket = .ok host

lemma Reaches.mono (h : remote.Reaches world host tree)
    (directory : ∀ {q}, tree.node? q = some .directory → tree'.node? q = some .directory)
    (socket : tree.node? remote.socket.location = some .socket →
      tree'.node? remote.socket.location = some .socket) : remote.Reaches world host tree' := by
  obtain ⟨valid, place, located, found, listens⟩ := World.connect_eq_ok.1 h
  have same := FileTree.eq_location_of_locate located
  obtain ⟨checked, leads⟩ := FileTree.locate_eq_ok.1 located
  refine World.connect_eq_ok.2 ⟨valid, place, ?_, ?_, listens⟩
  · exact FileTree.locate_eq_ok.2 ⟨checked, leads.mono directory⟩
  · rw [same] at found ⊢
    exact socket found

/-- A host stays in reach when a file is replaced that is not where its socket is. -/
lemma Reaches.replace (h : remote.Reaches world host tree) {path : Path}
    (apart : path.location ≠ remote.socket.location) (contents : ByteArray)
    (fault : Option Fault) : remote.Reaches world host (tree.replace path contents fault).1 := by
  have grown :=
    (FileTree.outgrows_makeDirectory tree path.directory (fault.bind Fault.limit?)).grown
  have made := h.mono grown.kept grown.kept
  rcases tree.replace_cases path contents fault with ⟨after, done, placed⟩ | ⟨cause, failed⟩
  · obtain ⟨other, rfl⟩ := placed.eq_set
    rw [done]
    refine made.mono (fun {q} found => ?_) fun found => ?_
    · rwa [FileTree.node?_set_of_ne]
      rintro rfl
      exact other found
    · rwa [FileTree.node?_set_of_ne apart.symm]
  · rw [failed]
    exact made

end Remote

/-! ## One question -/

namespace Host

variable {host : Host} {tree : FileTree}

lemma converse_of_receive_eq_error [Wording] {visitor : Visitor} {error : Wire.ReceiveError}
    (h : Wire.receive Request.ofPayload? visitor.sends = .error error) :
    host.converse tree visitor = ⟨[], tree, false⟩ := by
  rw [converse]
  split
  · rfl
  · rename_i received
    rw [h] at received
    cases received

/-- A request that is received is answered, and the conversation goes on if the response reaches the
visitor and the request is not to stop. -/
lemma converse_of_receive [Wording] {visitor : Visitor} {request : Request} {rest : ByteArray}
    (h : Wire.receive Request.ofPayload? visitor.sends = .ok (request, rest)) :
    host.converse tree visitor =
      if reaches (host.answer tree request).1 visitor = false then
        ⟨[], (host.answer tree request).2, false⟩
      else if stopsAfter request then
        ⟨[(host.answer tree request).1], (host.answer tree request).2, true⟩
      else
        let visit := host.converse (host.answer tree request).2 ⟨rest, visitor.takes.map (· - 1)⟩
        { visit with responses := (host.answer tree request).1 :: visit.responses } := by
  rw [converse]
  split
  · rename_i received
    rw [h] at received
    cases received
  · rename_i other left received
    rw [h] at received
    cases received
    simp only [Bool.not_eq_true']

/-- A client that sends one request and takes all answers gets the answer to it, if that can be
sent. -/
lemma converse_single [Wording] {payload : ByteArray} {request : Request}
    (decodes : Request.ofPayload? payload = some request) (fits : payload.size ≤ Wire.maxPayload) :
    host.converse tree ⟨Wire.header payload.size ++ payload, none⟩ =
      if (Wire.payload (host.answer tree request).1.encode).size ≤ Wire.maxPayload then
        ⟨[(host.answer tree request).1], (host.answer tree request).2, stopsAfter request⟩
      else ⟨[], (host.answer tree request).2, false⟩ := by
  have received : Wire.receive Request.ofPayload?
      (Visitor.mk (Wire.header payload.size ++ payload) none).sends = .ok (request, .empty) :=
    Wire.receive_header fits decodes
  have silent : host.converse (host.answer tree request).2 ⟨.empty, none⟩ = ⟨[], _, false⟩ :=
    converse_of_receive_eq_error (Wire.receive_empty _)
  rw [converse_of_receive received]
  by_cases answerFits : (Wire.payload (host.answer tree request).1.encode).size ≤ Wire.maxPayload
  · have reached : reaches (host.answer tree request).1
        ⟨Wire.header payload.size ++ payload, none⟩ = true := by
      simp [reaches, answerFits]
    cases stops : stopsAfter request <;> simp [reached, answerFits, silent]
  · have lost : reaches (host.answer tree request).1
        ⟨Wire.header payload.size ++ payload, none⟩ = false := by
      simp [reaches, answerFits]
    rw [if_pos lost, if_neg answerFits]

end Host

namespace Remote

variable {remote : Remote} {world : World} {host : Host}

/-- A request that arrives and whose answer arrives is answered as the host answers it. -/
lemma call_eq [Wording] (reaches : world.connect remote.socket = .ok host) {request : Request}
    (decodes : Request.ofPayload? (Wire.payload request.encode) = some request)
    (fits : (Wire.payload request.encode).size ≤ Wire.maxPayload)
    (stays : Host.stopsAfter request = false) {response : Response} {tree : FileTree}
    (answer : host.answer world.tree request = (response, tree))
    (answerDecodes : Response.ofPayload? (Wire.payload response.encode) = some response)
    (answerFits : (Wire.payload response.encode).size ≤ Wire.maxPayload) :
    remote.call request world = (.ok response, { world with tree := tree }) := by
  have visit : host.converse world.tree
      ⟨Wire.header (Wire.payload request.encode).size ++ Wire.payload request.encode, none⟩ =
        ⟨[response], tree, false⟩ := by
    rw [Host.converse_single decodes fits, answer, if_pos answerFits, stays]
  have received := Wire.receive_header answerFits answerDecodes
  have sent : stream [response] =
      Wire.header (Wire.payload response.encode).size ++ Wire.payload response.encode := by
    simp [stream, Wire.frame_eq answerFits]
  simp only [call, reaches, Except.map, ask, exchange, Wire.frame_eq fits, peer, visit, sent,
    received, World.afterVisit]
  simp

end Remote

/-! ## What can be sent -/

/-- A document that can be sent: the request to store it is not too long, it leaves one level of
nesting to the message, and its numbers read back. -/
structure Document.Sendable (document : Document) : Prop where
  fits : (Wire.payload (Request.replaceDocument document.toJson).encode).size ≤ Wire.maxPayload
  /-- One level is left. -/
  nesting : document.toJson.nesting < Json.maxDepth
  numbers : ∀ n ∈ document.toJson.numbers, n.ReadsBack

lemma Document.sendable_empty : Document.empty.Sendable := by
  have whole : Document.empty.toJson = .object [] := rfl
  refine ⟨?_, ?_, ?_⟩
  · rw [Request.encode, Wire.size_variant, whole, Json.spell]
    decide
  · rw [whole, Json.nesting]
    decide
  · simp [whole, Json.numbers]

/-- How a client is told of an error of the file: by its message. -/
def StoreError.relayed [Wording] : StoreError → StoreError
  | .io path error => .remote (StoreError.io path error).message
  | .parse path error => .remote (StoreError.parse path error).message
  | error => error

lemma StoreError.About.relayed [Wording] {path : Path} {error : StoreError} (h : error.About path) :
    error.relayed = .remote error.message := by
  cases h <;> rfl

namespace SettingsFile

variable {file : SettingsFile} {tree tree' : FileTree} {error : StoreError}

lemma about_of_load (h : file.load tree = .error error) : error.About file.path := by
  unfold load at h
  split at h
  · unfold decode at h
    split at h
    · cases h
      exact .io _
    · split at h
      · cases h
        exact .parse _
      · split at h
        · cases h
          exact .parse _
        · cases h
  · cases h
  · cases h
    exact .io _

lemma about_of_save {fault : Option Fault} {document : Document}
    (h : file.save fault document tree = (.error error, tree')) : error.About file.path := by
  unfold save at h
  split at h
  · cases h
  · cases h
    exact .io _

end SettingsFile

/-! ## The store -/

namespace Remote

variable {remote : Remote} {world : World} {host : Host}

/-- A document is handed out as the file would, if it can be sent. -/
theorem fetch_eq [Wording] (reaches : world.connect remote.socket = .ok host)
    (fits : host.file.path.Mentionable)
    (sendable : ∀ document, host.file.load world.tree = .ok document → document.Sendable) :
    remote.store.fetch world = ((host.file.load world.tree).mapError StoreError.relayed, world) := by
  have decodes := Request.ofPayload?_encode .getDocument (by rintro v ⟨⟩)
  cases h : host.file.load world.tree with
  | ok found =>
    have sendable := sendable found h
    have answer : host.answer world.tree .getDocument = (.document found.toJson, world.tree) := by
      simp [Host.answer, h]
    have called := call_eq reaches decodes Wire.size_getDocument_le rfl answer
      (Response.ofPayload?_document (SettingsFile.distinct_of_load h) sendable.numbers
        (Nat.le_sub_one_of_lt sendable.nesting))
      ((Wire.size_document_le _).trans sendable.fits)
    simp [store, called, document, Except.mapError]
  | error error =>
    have about := SettingsFile.about_of_load h
    have answer : host.answer world.tree .getDocument = (.error error.message, world.tree) := by
      simp [Host.answer, h]
    have called := call_eq reaches decodes Wire.size_getDocument_le rfl answer
      (Response.ofPayload?_error error.message) (about.size_le fits)
    simp [store, called, document, Except.mapError, about.relayed]

/-- A document is replaced as in the file, if it can be sent. -/
theorem replace_eq [Wording] (reaches : world.connect remote.socket = .ok host)
    (fits : host.file.path.Mentionable) {new : Document} (distinct : new.Distinct)
    (sendable : new.Sendable) :
    remote.store.replace new world =
      ((host.file.save none new world.tree).1.mapError StoreError.relayed,
        { world with tree := (host.file.save none new world.tree).2 }) := by
  have decodes := Request.ofPayload?_encode (.replaceDocument new.toJson) (by
    rintro v ⟨⟩
    exact ⟨distinct, sendable.numbers, Nat.le_sub_one_of_lt sendable.nesting⟩)
  rcases h : host.file.save none new world.tree with ⟨error | done, tree⟩
  · have about := SettingsFile.about_of_save h
    have answer : host.answer world.tree (.replaceDocument new.toJson) =
        (.error error.message, tree) := by
      simp [Host.answer, h]
    have called := call_eq reaches decodes sendable.fits rfl answer
      (Response.ofPayload?_error error.message) (about.size_le fits)
    simp [store, called, replaced, Except.mapError, about.relayed]
  · have answer : host.answer world.tree (.replaceDocument new.toJson) = (.replaced, tree) := by
      simp [Host.answer, h]
    have called := call_eq reaches decodes sendable.fits rfl answer Response.ofPayload?_replaced
      Wire.size_replaced_le
    simp [store, called, replaced, Except.mapError]

/-- What has happened if a request was answered: the host heard a request, which need not be the one
that was sent, and what it answered was heard as the answer. -/
inductive Answered [Wording] (remote : Remote) (world : World) (request : Request)
    (response : Response) :
    World → Prop where
  | intro {host : Host} {heard : Request} {world' : World}
      (connects : world.connect remote.socket = .ok host)
      (fits : (Wire.payload request.encode).size ≤ Wire.maxPayload)
      (arrives : Request.ofPayload? (Wire.payload request.encode) = some heard)
      (returns : Response.ofPayload? (Wire.payload (host.answer world.tree heard).1.encode) =
        some response)
      (leaves : Host.stopsAfter heard = false →
        world' = { world with tree := (host.answer world.tree heard).2 }) :
      Answered remote world request response world'

/-- A response that is received from a stream of one response is what its payload is decoded as. -/
lemma decodes_of_receive_stream {response got : Response} {rest : ByteArray}
    (fits : (Wire.payload response.encode).size ≤ Wire.maxPayload)
    (h : Wire.receive Response.ofPayload? (stream [response]) = .ok (got, rest)) :
    Response.ofPayload? (Wire.payload response.encode) = some got := by
  have sent : stream [response] =
      Wire.header (Wire.payload response.encode).size ++ Wire.payload response.encode := by
    simp [stream, Wire.frame_eq fits]
  rw [sent] at h
  cases decodes : Response.ofPayload? (Wire.payload response.encode) with
  | none =>
    rw [Wire.receive_header_none fits decodes] at h
    cases h
  | some other =>
    rw [Wire.receive_header fits decodes] at h
    cases h
    rfl

lemma receive_stream_nil (decode? : ByteArray → Option Response) :
    Wire.receive decode? (stream []) = .error (.frame .noHeader) := Wire.receive_empty decode?

/-- A request that is answered at all has come to the host. -/
lemma answered_of_call_eq_ok [Wording] {request : Request} {response : Response} {world' : World}
    (h : remote.call request world = (.ok response, world')) :
    remote.Answered world request response world' := by
  -- Everything that keeps the request from the host, or the response from the client, makes the
  -- call fail: no connection, a frame that is too long, a payload that is no message.
  cases connects : world.connect remote.socket with
  | error cause => simp [call, connects, Except.map, ask] at h
  | ok host =>
    simp only [call, connects, Except.map, ask, exchange] at h
    by_cases fits : (Wire.payload request.encode).size ≤ Wire.maxPayload
    · simp only [Wire.frame_eq fits, peer] at h
      cases arrives : Request.ofPayload? (Wire.payload request.encode) with
      | none =>
        have visit : host.converse world.tree ⟨Wire.header (Wire.payload request.encode).size ++
            Wire.payload request.encode, none⟩ = ⟨[], world.tree, false⟩ :=
          Host.converse_of_receive_eq_error (Wire.receive_header_none fits arrives)
        simp [visit, receive_stream_nil] at h
      | some heard =>
        have visit : host.converse world.tree ⟨Wire.header (Wire.payload request.encode).size ++
            Wire.payload request.encode, none⟩ = _ := Host.converse_single arrives fits
        by_cases answerFits :
            (Wire.payload (host.answer world.tree heard).1.encode).size ≤ Wire.maxPayload
        · rw [if_pos answerFits] at visit
          rw [visit] at h
          dsimp only at h
          split at h
          · cases h
          · rename_i got rest received
            simp only [Prod.mk.injEq, Except.ok.injEq] at h
            obtain ⟨rfl, rfl⟩ := h
            refine .intro connects fits arrives (decodes_of_receive_stream answerFits received) ?_
            intro stays
            simp [World.afterVisit, stays]
        · rw [if_neg answerFits] at visit
          simp [visit, receive_stream_nil] at h
    · simp [Wire.frame, fits] at h

/-- A document that was replaced by way of the host is handed out by it, however long it is and
however deep it nests. -/
theorem fetch_of_replace [Wording] (reaches : world.connect remote.socket = .ok host)
    (apart : host.file.path.location ≠ remote.socket.location)
    (fits : host.file.path.Mentionable) {new : Document} (distinct : new.Distinct)
    (back : ∀ n ∈ new.toJson.numbers, n.ReadsBack) {world' : World}
    (h : remote.store.replace new world = (.ok (), world')) :
    remote.store.fetch world' = (.ok new, world') := by
  have sendable : new.Sendable := by
    rcases called : remote.call (.replaceDocument new.toJson) world with ⟨error | response, _⟩
    · simp [store, called, replaced] at h
    · obtain ⟨-, short, decodes, -, -⟩ := answered_of_call_eq_ok called
      have deep := Request.nesting_le_of_ofPayload? distinct back decodes
      exact ⟨short, Nat.lt_of_le_pred (by decide) deep, back⟩
  rw [replace_eq reaches fits distinct sendable] at h
  rcases saved : host.file.save none new world.tree with ⟨error | done, tree⟩
  · simp [saved, Except.mapError] at h
  · simp only [saved, Except.mapError, Prod.mk.injEq, true_and] at h
    have loaded := SettingsFile.load_of_save saved
      (host.file.decode_encode distinct back sendable.nesting.le)
    have kept : remote.Reaches world host tree := by
      have := Reaches.replace reaches apart (SettingsFile.encode new) none
      rwa [← SettingsFile.save_state, saved] at this
    have sendable : ∀ document, host.file.load tree = .ok document → document.Sendable := by
      intro document found
      rw [loaded] at found
      cases found
      exact sendable
    rw [← h, fetch_eq kept fits sendable]
    simp [loaded, Except.mapError]

end Remote

end KanaSettings
