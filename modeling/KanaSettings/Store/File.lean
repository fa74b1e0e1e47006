import KanaSettings.Store.Basic
import KanaSettings.FileTree.Replace

/-!
# The settings file

The document as a file of indented JSON text.  A file that is missing is an empty document, and
one that holds anything but a document is an error, never overwritten unseen.
-/

namespace KanaSettings

/-- The file that holds the document. -/
structure SettingsFile where
  path : Path
deriving DecidableEq

namespace SettingsFile

/-- The document that contents of a file hold. -/
def decode (file : SettingsFile) (contents : ByteArray) : Except StoreError Document :=
  match String.fromUTF8? contents with
  | none => .error (.io file.path .notText)
  | some text =>
    match Json.parse? text with
    | none => .error (.parse file.path (.notJson text))
    | some value =>
      match Document.ofJson? value with
      | none => .error (.parse file.path .notAnObject)
      | some document => .ok document

/-- The contents of a file that holds a document. -/
def encode (document : Document) : ByteArray := document.toJson.pretty.toUTF8

/-- Load the document. -/
def load (file : SettingsFile) (tree : FileTree) : Except StoreError Document :=
  match tree.read file.path with
  | .ok contents => file.decode contents
  | .error .notFound => .ok .empty
  | .error cause => .error (.io file.path (.system cause))

/-- Save a document.  A fault makes one step of it fail. -/
def save (file : SettingsFile) (fault : Option Fault) (document : Document) (tree : FileTree) :
    Except StoreError Unit × FileTree :=
  match tree.replace file.path (encode document) fault with
  | (tree, .ok ()) => (.ok (), tree)
  | (tree, .error cause) => (.error (.io file.path (.system cause)), tree)

/-- The store of a document in a file. -/
def store (file : SettingsFile) : Store FileTree where
  fetch := fun tree => (file.load tree, tree)
  replace := file.save none

end SettingsFile

end KanaSettings
