import KanaSettings.Document
import KanaSettings.FileTree.OsError
import KanaSettings.FileTree.Path
import KanaSettings.Wire.Message

/-!
# Document stores

A store hands out the whole document and takes a whole replacement.  Where the document really
is differs from store to store, and so does what can go wrong.
-/

namespace KanaSettings

/-- Why a file cannot be read or written. -/
inductive FileError where
  | system (cause : OsError)
  | notText
deriving DecidableEq

/-- What a person is told. -/
def FileError.message : FileError → String
  | .system cause => cause.message
  | .notText => "stream did not contain valid UTF-8"

/-- Why a text is no document. -/
inductive TextError where
  | notJson (text : String)
  | notAnObject
deriving DecidableEq

/-- What a person is told. -/
def TextError.message [Wording] : TextError → String
  | .notJson text => Wording.notJson text
  | .notAnObject => "top level is not a JSON object"

/-- Why a host cannot be asked, or its answer not be used. -/
inductive HostError where
  | connect (socket : Path) (cause : OsError)
  | send (error : Wire.FrameError)
  | receive (error : Wire.ReceiveError)
  /-- The answer belongs to another question. -/
  | unexpected (response : Wire.Response)
  | notAnObject

/-- What a person is told. -/
def HostError.message [Wording] : HostError → String
  | .connect socket cause =>
    "Failed to connect to settings host at " ++ socket.text ++ ": " ++ cause.message
  | .send error => error.message
  | .receive error => error.message
  | .unexpected response => "unexpected response: " ++ response.describe
  | .notAnObject => "host sent a non-object document"

/-- Why a store neither hands out the document nor takes a new one. -/
inductive StoreError where
  | io (path : Path) (error : FileError)
  | parse (path : Path) (error : TextError)
  | host (error : HostError)
  | remote (message : String)
  | unavailable (message : String)

namespace StoreError

/-- What a person is told. -/
def message [Wording] : StoreError → String
  | io path error => "I/O error for " ++ path.text ++ ": " ++ error.message
  | parse path error => "failed to parse document " ++ path.text ++ ": " ++ error.message
  | host error => "IPC error: " ++ error.message
  | remote message => "settings host reported an error: " ++ message
  | unavailable message => "document store unavailable: " ++ message

/-- The message, and after it those of the causes behind the error. -/
def causes [Wording] : StoreError → List String
  | io path error => [(io path error).message, error.message]
  | error => [error.message]

end StoreError

/-- A store whose document is kept in a state of type `σ`. -/
structure Store (σ : Type) where
  fetch : σ → Except StoreError Document × σ
  replace : Document → σ → Except StoreError Unit × σ

/-- A store whose state is part of a larger one. -/
def Store.inside {σ τ : Type} (store : Store σ) (part : τ → σ) (update : σ → τ → τ) : Store τ where
  fetch := fun whole =>
    let (result, state) := store.fetch (part whole)
    (result, update state whole)
  replace := fun document whole =>
    let (result, state) := store.replace document (part whole)
    (result, update state whole)

end KanaSettings
