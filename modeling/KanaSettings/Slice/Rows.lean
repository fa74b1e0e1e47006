import KanaSettings.Objection

/-!
# Slices made of rows

Two slices are sequences of rows.  A stored sequence is read leniently: what is no row is left
out.  A sequence that somebody hands in is read strictly: one malformed row and it is refused,
with every such row named.
-/

namespace KanaSettings.Rows

variable {α : Type}

/-- Read every item as a row, from position `index` on: the objections to the items that are
none, and the rows. -/
def sort (what : String) (row? : Json → Option α) :
    (index : Nat) → List Json → List Objection × List α
  | _, [] => ([], [])
  | index, item :: items =>
    let (objections, rows) := sort what row? (index + 1) items
    match row? item with
    | some row => (objections, row :: rows)
    | none =>
      (.malformed (some index) ("not a well-formed " ++ what) :: objections, rows)

/-- The rows that somebody hands in; `what` is the name of a row in messages. -/
def ofInput (what : String) (row? : Json → Option α) : Json → Except (List Objection) (List α)
  | .array items =>
    match sort what row? 0 items with
    | ([], rows) => .ok rows
    | (objections, _) => .error objections
  | _ => .error [.malformed none ("expected an array of " ++ what)]

/-- The rows without the one at a position, and that row. -/
def remove (rows : List α) (index : Nat) : Except (List Objection) (α × List α) :=
  match rows[index]? with
  | some row => .ok (row, rows.eraseIdx index)
  | none =>
    .error [.malformed (some index) s!"no row at {index} (table has {rows.length} rows)"]

end KanaSettings.Rows
