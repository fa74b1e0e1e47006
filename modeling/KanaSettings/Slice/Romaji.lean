import KanaSettings.Slice.Rows
import KanaSettings.Slice.Romaji.Bundled
import KanaSettings.Text.Blank

/-!
# The romaji table

The rules that turn romaji into kana.  A document without a table uses the bundled one, while an
empty table stays empty.  One input may have several outputs, so rules may repeat; a rule that
is blank throughout is a placeholder, which is dropped when the table is kept.
-/

namespace KanaSettings.RomajiRule

/-- The value as a document holds it. -/
def encode (rule : RomajiRule) : Json :=
  .object [("input", .string rule.input), ("output", .string rule.output),
    ("next_input", .string rule.nextInput)]

/-- A rule read strictly: only what is left to convert may be left out. -/
def decode? (value : Json) : Option RomajiRule :=
  match value.record? ["input", "output", "next_input"] with
  | some [input, output, next] => return ⟨← input.text?, ← output.text?, ← next.text?⟩
  | _ =>
    match value.record? ["input", "output"] with
    | some [input, output] => return ⟨← input.text?, ← output.text?, ""⟩
    | _ => none

/-- A row of a table; what is left to convert may be left out or null. -/
def ofRow? : Json → Option RomajiRule
  | .object fields =>
    match Members.get? fields "input", Members.get? fields "output" with
    | some (.string input), some (.string output) =>
      match Members.get? fields "next_input" with
      | none | some .null => some ⟨input, output, ""⟩
      | some (.string nextInput) => some ⟨input, output, nextInput⟩
      | some _ => none
    | _, _ => none
  | _ => none

/-- A rule without the blanks around its fields. -/
def trimmed (rule : RomajiRule) : RomajiRule :=
  ⟨Text.trim rule.input, Text.trim rule.output, Text.trim rule.nextInput⟩

/-- Whether no field holds anything. -/
def isBlank (rule : RomajiRule) : Bool :=
  rule.input.isEmpty && rule.output.isEmpty && rule.nextInput.isEmpty

/-- Whether the fields that a rule needs hold something. -/
def isComplete (rule : RomajiRule) : Bool := !rule.input.isEmpty && !rule.output.isEmpty

end KanaSettings.RomajiRule

namespace KanaSettings.RomajiTable

/-- The table as a document holds it. -/
def encode (rules : List RomajiRule) : Json := .array (rules.map RomajiRule.encode)

/-- A table read strictly. -/
def decode? (value : Json) : Option (List RomajiRule) := do
  (← value.items?).mapM RomajiRule.decode?

/-- The table of whatever a document holds. -/
def normalize : Option Json → List RomajiRule
  | some (.array items) => items.filterMap RomajiRule.ofRow?
  | _ => bundled

/-- The table that somebody hands in. -/
def ofInput : Json → Except (List Objection) (List RomajiRule) :=
  Rows.ofInput "romaji row" RomajiRule.ofRow?

/-- Go through the rules from position `index` on: the objections to them, and the trimmed rules
that are kept. -/
def sort : (index : Nat) → List RomajiRule → List Objection × List RomajiRule
  | _, [] => ([], [])
  | index, rule :: rules =>
    let (objections, kept) := sort (index + 1) rules
    let rule := rule.trimmed
    if rule.isBlank then (objections, kept)
    else if rule.isComplete then (objections, rule :: kept)
    else (.incomplete index :: objections, kept)

/-- The table to keep for a candidate: its rules trimmed and without the blank ones. -/
def check (rules : List RomajiRule) : Except (List Objection) (List RomajiRule) :=
  match sort 0 rules with
  | ([], kept) => .ok kept
  | (objections, _) => .error objections

end KanaSettings.RomajiTable
