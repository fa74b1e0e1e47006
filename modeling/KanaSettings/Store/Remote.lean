import KanaSettings.World

/-!
# The store of a host

A document that is reached through the host that owns it.  Every request has a connection of its
own, so nothing of one answer is left over for the next.
-/

namespace KanaSettings

open Wire (Request Response)

/-- A host at the other end of a socket. -/
structure Remote where
  socket : Path
deriving DecidableEq

/-- Why a host cannot be asked what its machine can run. -/
inductive ProbeError where
  | host (error : HostError)
  | remote (message : String)
  | unexpected (response : Response)

/-- What a person is told. -/
def ProbeError.message [Wording] : ProbeError → String
  | .host error => (StoreError.host error).message
  | .remote message => "host could not probe capabilities: " ++ message
  | .unexpected response => "unexpected response: " ++ response.describe

namespace Remote

/-! ## One question -/

/-- What a connection leads to: somebody who takes all bytes and answers with bytes. -/
abbrev Peer (σ : Type) := ByteArray → σ → ByteArray × σ

/-- Send a request over a connection and wait for the answer.  A request that is too long is not
sent at all. -/
def exchange {σ : Type} (peer : Peer σ) (request : Request) (state : σ) :
    Except HostError Response × σ :=
  match Wire.frame (Wire.payload request.encode) with
  | .error error => (.error (.send error), state)
  | .ok question =>
    let (reply, state) := peer question state
    match Wire.receive Response.ofPayload? reply with
    | .error error => (.error (.receive error), state)
    | .ok (response, _) => (.ok response, state)

/-- Ask over a connection, if there is one. -/
def ask {σ : Type} (remote : Remote) (connection : Except OsError (Peer σ)) (request : Request)
    (state : σ) : Except HostError Response × σ :=
  match connection with
  | .error cause => (.error (.connect remote.socket cause), state)
  | .ok peer => exchange peer request state

/-! ## What the answers mean -/

/-- The document in an answer. -/
def document : Except HostError Response → Except StoreError Document
  | .error error => .error (.host error)
  | .ok (.document value) =>
    match Document.ofJson? value with
    | some document => .ok document
    | none => .error (.host .notAnObject)
  | .ok (.error message) => .error (.remote message)
  | .ok response => .error (.host (.unexpected response))

/-- Whether an answer says that the document was replaced. -/
def replaced : Except HostError Response → Except StoreError Unit
  | .error error => .error (.host error)
  | .ok .replaced => .ok ()
  | .ok (.error message) => .error (.remote message)
  | .ok response => .error (.host (.unexpected response))

/-- The report in an answer. -/
def capabilities : Except HostError Response → Except ProbeError Capabilities
  | .error error => .error (.host error)
  | .ok (.capabilities report) => .ok report
  | .ok (.error message) => .error (.remote message)
  | .ok response => .error (.unexpected response)

/-! ## The store -/

/-- All frames of responses, one after another. -/
def stream (responses : List Response) : ByteArray :=
  responses.foldl (fun out response =>
    match Wire.frame (Wire.payload response.encode) with
    | .ok frame => out ++ frame
    | .error _ => out) .empty

/-- The host at a socket as a peer, which takes what a client sends and answers it. -/
def peer [Wording] (host : Host) : Peer World := fun bytes world =>
  let visit := host.converse world.tree ⟨bytes, none⟩
  (stream visit.responses, world.afterVisit visit)

/-- Ask the host at the socket. -/
def call [Wording] (remote : Remote) (request : Request) (world : World) :
    Except HostError Response × World :=
  remote.ask ((world.connect remote.socket).map peer) request world

/-- Ask the host what its machine can run. -/
def probe [Wording] (remote : Remote) (world : World) : Except ProbeError Capabilities × World :=
  let (answer, world) := remote.call .probeCapabilities world
  (capabilities answer, world)

/-- The store of the document that a host owns. -/
def store [Wording] (remote : Remote) : Store World where
  fetch := fun world =>
    let (answer, world) := remote.call .getDocument world
    (document answer, world)
  replace := fun document world =>
    let (answer, world) := remote.call (.replaceDocument document.toJson) world
    (replaced answer, world)

end Remote

end KanaSettings
