import KanaSettings.Slice
import KanaSettings.Json.Reader
import KanaSettings.Json.Printer

/-!
# Settings documents

A document is a JSON object.  A slice of it is looked up and stored at the slice's place, and
nothing else is touched: every other member keeps its value and its position.
-/

namespace KanaSettings

/-- A settings document. -/
structure Document where
  members : Members Json
deriving Inhabited

namespace Document

/-- The document without members. -/
def empty : Document := ⟨[]⟩

/-- The document that a JSON value is; only objects are documents. -/
def ofJson? : Json → Option Document
  | .object members => some ⟨members⟩
  | _ => none

/-- The document as a JSON value. -/
def toJson (document : Document) : Json := .object document.members

/-- The document that a text holds. -/
def parse? (text : String) : Option Document := (Json.parse? text).bind ofJson?

@[simp] theorem ofJson?_toJson (document : Document) : ofJson? document.toJson = some document := rfl

theorem toJson_of_ofJson? {value : Json} {document : Document} (h : ofJson? value = some document) :
    document.toJson = value := by
  cases value <;> simp_all [ofJson?, toJson]
  subst h
  rfl

theorem toJson_injective {document other : Document} (same : document.toJson = other.toJson) :
    document = other := by
  have read := congrArg ofJson? same
  simpa using read

/-- What the document holds at a slice's place. -/
def slice? (document : Document) (name : SliceName) : Option Json :=
  match name.path with
  | (container, none) => document.members.get? container
  | (container, some key) => (document.members.get? container).bind (·.field? key)

/-- The members of a container that something is about to be stored in: those of an object, and
none if it is anything else or missing. -/
def containerMembers : Option Json → Members Json
  | some (.object members) => members
  | _ => []

/-- The document with a value at a slice's place.  A container that is missing is appended, and
one that is no object is emptied first. -/
def put (document : Document) (name : SliceName) (value : Json) : Document :=
  match name.path with
  | (container, none) => ⟨Members.put container value document.members⟩
  | (container, some key) =>
    let inner := containerMembers (document.members.get? container)
    ⟨Members.put container (.object (Members.put key value inner)) document.members⟩

/-- The value of a slice. -/
def read (document : Document) (name : SliceName) : name.Value :=
  Slice.normalize name (document.slice? name)

/-- The document with a value of a slice stored. -/
def write (document : Document) (name : SliceName) (value : name.Value) : Document :=
  document.put name (Slice.encode name value)

/-- What the document holds for a slice, in canonical form. -/
def canonical (document : Document) (name : SliceName) : Json :=
  Slice.canonical name (document.slice? name)

/-- Every slice in canonical form, under its name. -/
def overview (document : Document) : Json :=
  .object ((Choice.all : List SliceName).map fun name =>
    (Choice.name name, document.canonical name))

end Document

end KanaSettings
