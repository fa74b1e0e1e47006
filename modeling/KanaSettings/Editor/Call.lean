import KanaSettings.Store.Basic

/-!
# Calls

What an editor can be asked: to look at the document, or to change one slice of it.  A change is
a function on the slice's value; it settles on another value, refuses, or crashes.  What it
settles on is checked before it is stored.
-/

namespace KanaSettings

/-- What a change makes of a value. -/
inductive Outcome (α : Type) where
  | settled (value : α)
  | refused (objections : List Objection)
  /-- Nothing, because the change broke down, with what the runtime tells of it. -/
  | crashed (reason : String := "")

/-- An outcome without crashes. -/
def Outcome.ofExcept {α : Type} : Except (List Objection) α → Outcome α
  | .ok value => .settled value
  | .error objections => .refused objections

/-- The outcome of an edit of a document: the change is made to the value of the slice, and what it
settles on is brought into the form that is kept. -/
def Document.edit (document : Document) (name : SliceName)
    (change : name.Value → Outcome name.Value) : Outcome name.Value :=
  match change (document.read name) with
  | .settled candidate => .ofExcept (Slice.prepare name candidate)
  | .refused objections => .refused objections
  | .crashed reason => .crashed reason

/-- What an editor is asked. -/
inductive Call where
  | refresh
  | edit (name : SliceName) (change : name.Value → Outcome name.Value)

namespace Call

/-- To put a value in the place of a slice. -/
def replace (name : SliceName) (value : name.Value) : Call := .edit name fun _ => .settled value

/-- To change a slice by JSON that somebody hands in. -/
def patch (name : SliceName) (raw : Json) : Call :=
  .edit name fun current => .ofExcept (Slice.patch name current raw)

/-- What a call is called in messages. -/
def label : Call → String
  | refresh => "refresh"
  | edit name _ => Choice.name name

end Call

/-- Why a call fails. -/
inductive EditError where
  /-- The change, or the check of what it settled on, refused. -/
  | rejected (objections : List Objection)
  | transport (error : StoreError)

namespace EditError

/-- What a person is told. -/
def message [Wording] : EditError → String
  | rejected objections => "edit rejected: " ++ Objection.summary objections
  | transport error => "update failed: " ++ error.message

/-- The messages of the causes behind an error. -/
def causes [Wording] : EditError → List String
  | rejected _ => []
  | transport error => error.causes

/-- A call whose change crashed. -/
def ofCrash (call : Call) (reason : String) : EditError :=
  .transport (.unavailable (call.label ++ " task did not complete: " ++ reason))

end EditError

/-- What a call returns when it succeeds. -/
inductive Reply where
  | document (document : Document)
  /-- The value of a slice, as it was stored. -/
  | value (name : SliceName) (value : name.Value)

/-- The reply as JSON. -/
def Reply.encode : Reply → Json
  | .document found => found.toJson
  | .value name stored => Slice.encode name stored

/-! ## One call alone -/

/-- Carry out a call with nothing else going on: the document is fetched once, and replaced at most
once. -/
def Store.attempt {σ : Type} (store : Store σ) (call : Call) (state : σ) :
    Except EditError Reply × σ :=
  match store.fetch state with
  | (.error error, state) => (.error (.transport error), state)
  | (.ok document, state) =>
    match call with
    | .refresh => (.ok (.document document), state)
    | .edit name change =>
      match document.edit name change with
      | .crashed reason => (.error (.ofCrash call reason), state)
      | .refused objections => (.error (.rejected objections), state)
      | .settled value =>
        match store.replace (document.write name value) state with
        | (.error error, state) => (.error (.transport error), state)
        | (.ok (), state) => (.ok (.value name value), state)

end KanaSettings
