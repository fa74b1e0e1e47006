import KanaSettings.Objection
import KanaSettings.Choice

/-!
# Patches

A patch is a JSON object whose members overwrite the fields of a slice that bear their names.  A
member of the wrong type overwrites nothing, and a name that is no field is ignored.
-/

namespace KanaSettings.Patch

/-- The truth value under a name, or else the current one. -/
def flag (patch : Members Json) (key : String) (current : Bool) : Bool :=
  match patch.get? key with
  | some (.bool value) => value
  | _ => current

/-- The text under a name, or else the current one. -/
def text (patch : Members Json) (key : String) (current : String) : String :=
  match patch.get? key with
  | some (.string value) => value
  | _ => current

/-- The choice named under a name, or else the current one. -/
def choice {α : Type} (patch : Members Json) (key : String) (ofName? : String → Option α)
    (current : α) : α :=
  match patch.get? key with
  | some (.string value) => (ofName? value).getD current
  | _ => current

/-- The objection to a patch that is no object. -/
def notAnObject : Objection := .malformed none "expected a JSON object"

/-- The members of a patch. -/
def ofJson : Json → Except (List Objection) (Members Json)
  | .object patch => .ok patch
  | _ => .error [notAnObject]

end KanaSettings.Patch
