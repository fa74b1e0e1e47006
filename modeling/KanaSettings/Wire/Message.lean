import KanaSettings.Capabilities
import KanaSettings.Json.Description
import KanaSettings.Json.Printer
import KanaSettings.Text.Stray
import KanaSettings.Wire.Frame
import KanaSettings.Wording

/-!
# Messages

What a client asks of the host that owns the settings document, and what the host answers.  A
message is a JSON value: a message without data is its name, one with data is an object with the
data under its name.
-/

namespace KanaSettings.Wire

open Json (Reader)

/-- What a client asks. -/
inductive Request where
  | getDocument
  | replaceDocument (value : Json)
  | probeCapabilities
  | shutdown

namespace Request

/-- A request as a JSON value. -/
def encode : Request → Json
  | getDocument => .string "GetDocument"
  | replaceDocument value => .object [("ReplaceDocument", value)]
  | probeCapabilities => .string "ProbeCapabilities"
  | shutdown => .string "Shutdown"

/-- The request without data that bears a name. -/
def plain? (name : String) : Option Request :=
  if name = "GetDocument" then some getDocument
  else if name = "ProbeCapabilities" then some probeCapabilities
  else if name = "Shutdown" then some shutdown
  else none

/-- How the data of a request is read, by the request's name. -/
def data? (bound : Nat) (name : String) : Option (Reader Request) :=
  if name = "ReplaceDocument" then
    some ((Reader.value bound (Json.maxDepth - 1)).map replaceDocument)
  else none

/-- The request that a text holds. -/
def parse? (text : String) : Option Request :=
  let cs := text.toList
  (Reader.variant plain? (data? cs.length)).run cs

/-- The request in a payload. -/
def ofPayload? (payload : ByteArray) : Option Request :=
  (String.fromUTF8? payload).bind parse?

end Request

/-- What the host answers. -/
inductive Response where
  | document (value : Json)
  | replaced
  | capabilities (report : Capabilities)
  | ready
  | error (message : String)

namespace Response

/-- A response as a JSON value. -/
def encode : Response → Json
  | document value => .object [("Document", value)]
  | replaced => .string "Replaced"
  | capabilities report => .object [("Capabilities", report.encode)]
  | ready => .string "Ready"
  | error message => .object [("Error", .string message)]

/-- The response without data that bears a name. -/
def plain? (name : String) : Option Response :=
  if name = "Replaced" then some replaced
  else if name = "Ready" then some ready
  else none

/-- How the data of a response is read, by the response's name. -/
def data? (mark : Option Char) (bound : Nat) (name : String) : Option (Reader Response) :=
  if name = "Document" then some ((Reader.value bound (Json.maxDepth - 1)).map document)
  else if name = "Capabilities" then some ((Capabilities.reader mark bound).map capabilities)
  else if name = "Error" then some (Reader.text.map error)
  else none

/-- The response that characters spell, with a mark for stray bytes if there are any. -/
def ofChars? (mark : Option Char) (cs : List Char) : Option Response :=
  (Reader.variant plain? (data? mark cs.length)).run cs

/-- The response that a text holds. -/
def parse? (text : String) : Option Response := ofChars? none text.toList

/-- The response in a payload.  Only in a text that nobody looks at may stray bytes stand. -/
def ofPayload? (payload : ByteArray) : Option Response :=
  match String.fromUTF8? payload with
  | some text => parse? text
  | none => ofChars? (some Text.strayMark) (Text.withStrays payload)

/-- A truth value in a description. -/
def describeFlag (value : Bool) : String := if value then "true" else "false"

/-- How an error message shows a response that it did not expect. -/
def describe : Response → String
  | document value => "Document(" ++ value.describe ++ ")"
  | replaced => "Replaced"
  | capabilities report =>
    "Capabilities(Capabilities \x7b cpu: " ++ describeFlag report.cpu ++
      ", cuda: " ++ describeFlag report.cuda ++
      ", vulkan: " ++ describeFlag report.vulkan ++ " \x7d)"
  | ready => "Ready"
  | error message => "Error(" ++ Text.quotation message ++ ")"

end Response

/-- The payload of a message. -/
def payload (message : Json) : ByteArray := message.compact.toUTF8

/-- Why an exchange with the host fails. -/
inductive ReceiveError where
  | frame (error : FrameError)
  | undecodable (payload : ByteArray)

/-- What a person is told. -/
def ReceiveError.message [Wording] : ReceiveError → String
  | .frame error => error.message
  | .undecodable payload => "Failed to decode IPC message: " ++ Wording.undecodable payload

/-- The message at the front of a stream, and the rest of the stream. -/
def receive {α : Type} (decode? : ByteArray → Option α) (stream : ByteArray) :
    Except ReceiveError (α × ByteArray) :=
  match unframe stream with
  | .error error => .error (.frame error)
  | .ok (payload, rest) =>
    match decode? payload with
    | none => .error (.undecodable payload)
    | some message => .ok (message, rest)

/-- A message takes something off the stream. -/
theorem size_lt_of_receive {α : Type} {decode? : ByteArray → Option α} {stream rest : ByteArray}
    {message : α} (h : receive decode? stream = .ok (message, rest)) : rest.size < stream.size := by
  unfold receive at h
  split at h
  · cases h
  · rename_i payload rest' hu
    split at h
    · cases h
    · simp only [Except.ok.injEq, Prod.mk.injEq] at h
      exact h.2 ▸ size_rest_lt hu

end KanaSettings.Wire
