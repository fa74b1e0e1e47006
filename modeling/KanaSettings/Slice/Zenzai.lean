import KanaSettings.Slice.Patch

/-!
# The neural conversion model

Whether the model zenzai takes part in conversion, how it is told to write, and what it runs on.
-/

namespace KanaSettings

/-- What a conversion model runs on. -/
inductive Backend where
  | cpu
  | cuda
  | vulkan
deriving DecidableEq

namespace Backend

instance : Choice Backend where
  all := [cpu, cuda, vulkan]
  name
    | cpu => "cpu"
    | cuda => "cuda"
    | vulkan => "vulkan"

/-- A choice read strictly. -/
def decode? (value : Json) : Option Backend :=
  match value.variantName? with
  | some "cpu" => some cpu
  | some "cuda" => some cuda
  | some "vulkan" => some vulkan
  | _ => none

end Backend

/-- The settings of the model. -/
@[ext]
structure Zenzai where
  enable : Bool
  /-- What the model is told about how to write. -/
  profile : String
  backend : Backend
deriving DecidableEq

namespace Zenzai

/-- The model is off, without a profile, unless a document says otherwise. -/
def standard : Zenzai := ⟨false, "", .cpu⟩

/-- The value as a document holds it. -/
def encode (z : Zenzai) : Json :=
  .object [("enable", .bool z.enable), ("profile", .string z.profile),
    ("backend", Choice.encode z.backend)]

/-- A value with every field in place, read strictly. -/
def decode? (value : Json) : Option Zenzai :=
  match value.record? ["enable", "profile", "backend"] with
  | some [enable, profile, backend] =>
    return ⟨← enable.bool?, ← profile.text?, ← Backend.decode? backend⟩
  | _ => none

/-- The value under a patch. -/
def overlay (base : Zenzai) : Json → Zenzai
  | .object patch =>
    { enable := Patch.flag patch "enable" base.enable
      profile := Patch.text patch "profile" base.profile
      backend := Patch.choice patch "backend" Choice.ofName? base.backend }
  | _ => base

/-- The value of whatever a document holds. -/
def normalize (raw : Option Json) : Zenzai := standard.overlay (raw.getD .null)

end Zenzai

end KanaSettings
