import KanaSettings.Slice.Zenzai
import KanaSettings.Json.Reader

/-!
# What a machine can run

A host reports which backends the conversion model can run on.  The report decides which choices
are offered and takes no part in edits of the document; where there is no report, only the
processor is offered.
-/

namespace KanaSettings

/-- For every backend, whether the machine can run it. -/
structure Capabilities where
  cpu : Bool
  cuda : Bool
  vulkan : Bool
deriving DecidableEq

namespace Capabilities

/-- The processor and nothing else. -/
def cpuOnly : Capabilities := ⟨true, false, false⟩

/-- Whether the machine can run a backend. -/
def supports (c : Capabilities) : Backend → Bool
  | .cpu => c.cpu
  | .cuda => c.cuda
  | .vulkan => c.vulkan

/-- The backends to offer, in the order of choices. -/
def selectable (c : Capabilities) : List Backend :=
  (Choice.all : List Backend).filter c.supports

/-- What a probe found out, or the least that can be offered if it failed. -/
def orCpuOnly (probe : Option Capabilities) : Capabilities := probe.getD cpuOnly

/-- The report as a JSON value. -/
def encode (c : Capabilities) : Json :=
  .object [("cpu", .bool c.cpu), ("cuda", .bool c.cuda), ("vulkan", .bool c.vulkan)]

/-- A report with every field in place, read strictly. -/
def decode? (value : Json) : Option Capabilities :=
  match value.record? ["cpu", "cuda", "vulkan"] with
  | some [cpu, cuda, vulkan] => return ⟨← cpu.bool?, ← cuda.bool?, ← vulkan.bool?⟩
  | _ => none

/-- The report that the members of an object give, each with its truth value if its name belongs to
a report; no field may stand twice. -/
def ofFields? (fields : Members (Option Bool)) : Option Capabilities := do
  return ⟨← (← fields.only? "cpu"), ← (← fields.only? "cuda"), ← (← fields.only? "vulkan")⟩

open Json (Reader)

/-- A member of a report, read as its name asks.  What belongs to no report is skipped unread, and
may hold stray bytes if a mark for them is given. -/
def field (mark : Option Char) (bound : Nat) (key : String) : Reader (Option Bool) :=
  if key = "cpu" ∨ key = "cuda" ∨ key = "vulkan" then Reader.bool.map some
  else (Reader.skipped mark bound bound).map fun _ => none

/-- The report that the items of an array give. -/
def ofItems? : List Bool → Option Capabilities
  | [cpu, cuda, vulkan] => some ⟨cpu, cuda, vulkan⟩
  | _ => none

/-- A report at the front of a text. -/
def reader (mark : Option Char) (bound : Nat) : Reader Capabilities := fun cs =>
  match Reader.fields (field mark bound) bound cs with
  | some (fields, rest) => (ofFields? fields).map (·, rest)
  | none =>
    match Reader.array Reader.bool bound cs with
    | some (items, rest) => (ofItems? items).map (·, rest)
    | none => none

/-- The report that a text holds. -/
def parse? (s : String) : Option Capabilities :=
  let cs := s.toList
  (reader none cs.length).run cs

end Capabilities

end KanaSettings
