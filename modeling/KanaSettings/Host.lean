import KanaSettings.Store.File

/-!
# The settings host

A host owns the settings file and answers the requests of its clients, one client at a time and
one request after the other.  A request that cannot be read ends the client's connection, and so
does a response that cannot be sent; the host itself stops only when it has told a client that it
will.
-/

namespace KanaSettings

open Wire (Request Response)

/-- A host. -/
structure Host where
  file : SettingsFile
  capabilities : Capabilities

/-- What a client does on a connection: it sends bytes, and takes responses until it goes away. -/
structure Visitor where
  sends : ByteArray
  /-- How many responses it takes, if it does not take them all. -/
  takes : Option Nat

/-- What came of a connection. -/
structure Visit where
  responses : List Response
  tree : FileTree
  stopped : Bool

namespace Host

/-- Answer a request.  Only the replacement by a document touches the file. -/
def answer [Wording] (host : Host) (tree : FileTree) : Request → Response × FileTree
  | .getDocument =>
    match host.file.load tree with
    | .ok document => (.document document.toJson, tree)
    | .error error => (.error error.message, tree)
  | .replaceDocument value =>
    match Document.ofJson? value with
    | none => (.error "document must be a JSON object", tree)
    | some document =>
      match host.file.save none document tree with
      | (.ok (), tree) => (.replaced, tree)
      | (.error error, tree) => (.error error.message, tree)
  | .probeCapabilities => (.capabilities host.capabilities, tree)
  | .shutdown => (.ready, tree)

/-- Whether a host stops after answering a request. -/
def stopsAfter : Request → Bool
  | .shutdown => true
  | _ => false

/-- Whether a response reaches a client. -/
def reaches (response : Response) (visitor : Visitor) : Bool :=
  (Wire.payload response.encode).size ≤ Wire.maxPayload && visitor.takes != some 0

/-- Answer the requests of a client, until the host stops or the connection ends. -/
def converse [Wording] (host : Host) (tree : FileTree) (visitor : Visitor) : Visit :=
  match _h : Wire.receive Request.ofPayload? visitor.sends with
  | .error _ => ⟨[], tree, false⟩
  | .ok (request, rest) =>
    let (response, tree) := host.answer tree request
    if !reaches response visitor then ⟨[], tree, false⟩
    else if stopsAfter request then ⟨[response], tree, true⟩
    else
      let visit := host.converse tree ⟨rest, visitor.takes.map (· - 1)⟩
      { visit with responses := response :: visit.responses }
termination_by visitor.sends.size
decreasing_by exact Wire.size_lt_of_receive _h

end Host

end KanaSettings
