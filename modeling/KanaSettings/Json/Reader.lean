import KanaSettings.Json.Numeral

/-!
# Reading JSON

The grammar of JSON, strictly, and the shapes that typed data needs.  A reader takes something off the
front of a text and returns it with the rest.  Readers of lists take a bound on the number of items
and readers of values the number of levels that may still open, so that all of them are structural.
-/

namespace KanaSettings.Json

/-- How many arrays and objects may stand inside one another. -/
def maxDepth : Nat := 127

/-- A reader takes a value off the front of a text. -/
abbrev Reader (α : Type) := List Char → Option (α × List Char)

namespace Reader

variable {α β : Type}

/-- Apply a function to what a reader returns. -/
def map (f : α → β) (read : Reader α) : Reader β := fun cs =>
  match read cs with
  | some (a, rest) => some (f a, rest)
  | none => none

/-! ## Tokens -/

/-- The blanks between tokens. -/
def isBlank (c : Char) : Bool := c = ' ' || c = '\n' || c = '\t' || c = '\r'

/-- A text without the blanks at its front. -/
def skipBlanks (cs : List Char) : List Char := cs.dropWhile isBlank

/-- What follows a fixed word at the front of a text. -/
def after? : (word : List Char) → List Char → Option (List Char)
  | [], cs => some cs
  | w :: word, c :: cs => if w = c then after? word cs else none
  | _ :: _, [] => none

/-- A fixed word that stands for a value. -/
def keyword (word : List Char) (a : α) : Reader α := fun cs => (after? word cs).map (a, ·)

/-- The value of a hexadecimal digit of either case. -/
def hexValue? (c : Char) : Option Nat :=
  if '0' ≤ c ∧ c ≤ '9' then some (c.toNat - '0'.toNat)
  else if 'a' ≤ c ∧ c ≤ 'f' then some (c.toNat - 'a'.toNat + 10)
  else if 'A' ≤ c ∧ c ≤ 'F' then some (c.toNat - 'A'.toNat + 10)
  else none

/-- The code unit written by four hexadecimal digits. -/
def unit? (a b c d : Char) : Option Nat := do
  return 4096 * (← hexValue? a) + 256 * (← hexValue? b) + 16 * (← hexValue? c) + (← hexValue? d)

/-- The character after a backslash that needs no further digits. -/
def shortEscape? (c : Char) : Option Char :=
  if c = '"' then some '"'
  else if c = '\\' then some '\\'
  else if c = '/' then some '/'
  else if c = 'b' then some '\x08'
  else if c = 'f' then some '\x0c'
  else if c = 'n' then some '\n'
  else if c = 'r' then some '\r'
  else if c = 't' then some '\t'
  else none

/-- The first half of a surrogate pair. -/
def isHighSurrogate (u : Nat) : Bool := 0xD800 ≤ u && u < 0xDC00

/-- The second half of a surrogate pair. -/
def isLowSurrogate (u : Nat) : Bool := 0xDC00 ≤ u && u < 0xE000

/-- The rest of a quoted text, after its opening quote; `out` is what is already read. -/
def quoted (out : String) : List Char → Option (String × List Char)
  | [] => none
  | '"' :: rest => some (out, rest)
  | '\\' :: 'u' :: a :: b :: c :: d :: rest =>
    match unit? a b c d with
    | none => none
    | some high =>
      if isHighSurrogate high then
        match rest with
        | '\\' :: 'u' :: a :: b :: c :: d :: rest =>
          match unit? a b c d with
          | none => none
          | some low =>
            if isLowSurrogate low then
              let code := 0x10000 + 0x400 * (high - 0xD800) + (low - 0xDC00)
              quoted (out.push (Char.ofNat code)) rest
            else none
        | _ => none
      else if isLowSurrogate high then none
      else quoted (out.push (Char.ofNat high)) rest
  | '\\' :: c :: rest =>
    match shortEscape? c with
    | none => none
    | some c => quoted (out.push c) rest
  | c :: rest => if c.toNat < 0x20 then none else quoted (out.push c) rest

/-- A quoted text. -/
def string : Reader String
  | '"' :: cs => quoted "" cs
  | _ => none

/-- Skip the rest of a quoted text that nobody looks at: its escapes have to be spelled
correctly, but need not make characters.  A control character that is the mark for stray bytes may
stand in it. -/
def skipQuoted (mark : Option Char) : List Char → Option (List Char)
  | [] => none
  | '"' :: rest => some rest
  | '\\' :: 'u' :: a :: b :: c :: d :: rest =>
    match unit? a b c d with
    | none => none
    | some _ => skipQuoted mark rest
  | '\\' :: c :: rest =>
    match shortEscape? c with
    | none => none
    | some _ => skipQuoted mark rest
  | c :: rest => if c.toNat < 0x20 ∧ mark ≠ some c then none else skipQuoted mark rest

/-- The decimal digits at the front of a text. -/
def digits (cs : List Char) : List Nat × List Char :=
  let (ds, rest) := cs.span Char.isDigit
  (ds.map fun d => d.toNat - '0'.toNat, rest)

/-- The digits before the point: a zero stands alone. -/
def wholePart : Reader (List Nat)
  | '0' :: rest =>
    match rest with
    | c :: _ => if c.isDigit then none else some ([0], rest)
    | [] => some ([0], rest)
  | cs =>
    match digits cs with
    | ([], _) => none
    | (ds, rest) => some (ds, rest)

/-- The point and the digits after it, if there is a point. -/
def fractionPart : Reader (List Nat)
  | '.' :: cs =>
    match digits cs with
    | ([], _) => none
    | (ds, rest) => some (ds, rest)
  | cs => some ([], cs)

/-- The digits of a power of ten, with its sign. -/
def exponentDigits (negative : Bool) : Reader (Option Int) := fun cs =>
  match digits cs with
  | ([], _) => none
  | (ds, rest) =>
    let e : Nat := ds.foldl (fun n d => n * 10 + d) 0
    some (some (if negative then -(e : Int) else e), rest)

/-- The power of ten, if there is one. -/
def exponentPart : Reader (Option Int)
  | c :: cs =>
    if c = 'e' ∨ c = 'E' then
      match cs with
      | '+' :: cs => exponentDigits false cs
      | '-' :: cs => exponentDigits true cs
      | cs => exponentDigits false cs
    else some (none, c :: cs)
  | [] => some (none, [])

/-- A number token. -/
def numeral : Reader Numeral := fun cs =>
  let (negative, cs) := match cs with
    | '-' :: cs => (true, cs)
    | cs => (false, cs)
  match wholePart cs with
  | none => none
  | some (whole, cs) =>
    match fractionPart cs with
    | none => none
    | some (fraction, cs) =>
      match exponentPart cs with
      | none => none
      | some (exponent, cs) => some (⟨negative, whole, fraction, exponent⟩, cs)

/-- A number. -/
def number : Reader Number := fun cs =>
  match numeral cs with
  | none => none
  | some (n, rest) => n.number?.map (·, rest)

/-! ## Lists -/

/-- One or more items up to a closing character; `seen` holds those already read, the last one
first.  At most `bound` more are read. -/
def items (close : Char) (item : Reader α) : (bound : Nat) → (seen : List α) → Reader (List α)
  | 0, _, _ => none
  | bound + 1, seen, cs =>
    match item cs with
    | none => none
    | some (a, cs) =>
      match skipBlanks cs with
      | [] => none
      | c :: cs =>
        if c = ',' then items close item bound (a :: seen) cs
        else if c = close then some ((a :: seen).reverse, cs)
        else none

/-- The rest of a list, after its opening character. -/
def list (close : Char) (item : Reader α) (bound : Nat) : Reader (List α) := fun cs =>
  match skipBlanks cs with
  | [] => none
  | c :: rest => if c = close then some ([], rest) else items close item bound [] (c :: rest)

/-- A member of an object, its value read as its name asks. -/
def member (value : String → Reader α) : Reader (String × α) := fun cs =>
  match string (skipBlanks cs) with
  | none => none
  | some (key, cs) =>
    match skipBlanks cs with
    | ':' :: cs => (value key).map (key, ·) cs
    | _ => none

/-- The rest of an object, after its opening brace, with its members as they stand, repeated
names included. -/
def members (value : String → Reader α) (bound : Nat) : Reader (List (String × α)) :=
  list '\x7d' (member value) bound

/-! ## Values -/

/-- A value with blanks before it, in which at most `depth` more arrays and objects may open
inside one another and no list has more than `bound` items. -/
def value (bound : Nat) : (depth : Nat) → Reader Json
  | depth, cs =>
    match skipBlanks cs with
    | [] => none
    | c :: rest =>
      if c = '"' then (quoted "" rest).map fun (s, rest) => (.string s, rest)
      else if c = '[' then
        match depth with
        | 0 => none
        | depth + 1 => (list ']' (value bound depth) bound).map .array rest
      else if c = '\x7b' then
        match depth with
        | 0 => none
        | depth + 1 =>
          (members (fun _ => value bound depth) bound).map (fun ms => .object (Members.ofPairs ms)) rest
      else if c = 'n' then keyword ['u', 'l', 'l'] .null rest
      else if c = 't' then keyword ['r', 'u', 'e'] (.bool true) rest
      else if c = 'f' then keyword ['a', 'l', 's', 'e'] (.bool false) rest
      else number.map .number (c :: rest)

/-- Skip a value that nobody looks at, with blanks before it.  It has to follow the grammar, but
its numbers may be of any size and its texts need not make characters, not even where the mark
stands for a stray byte. -/
def skipped (mark : Option Char) (bound : Nat) : (depth : Nat) → Reader Unit
  | depth, cs =>
    match skipBlanks cs with
    | [] => none
    | c :: rest =>
      if c = '"' then (skipQuoted mark rest).map ((), ·)
      else if c = '[' then
        match depth with
        | 0 => none
        | depth + 1 => (list ']' (skipped mark bound depth) bound).map (fun _ => ()) rest
      else if c = '\x7b' then
        match depth with
        | 0 => none
        | depth + 1 =>
          let skippedMember : Reader Unit := fun cs =>
            match skipBlanks cs with
            | '"' :: cs =>
              match skipQuoted mark cs with
              | none => none
              | some cs =>
                match skipBlanks cs with
                | ':' :: cs => skipped mark bound depth cs
                | _ => none
            | _ => none
          (list '\x7d' skippedMember bound).map (fun _ => ()) rest
      else if c = 'n' then keyword ['u', 'l', 'l'] () rest
      else if c = 't' then keyword ['r', 'u', 'e'] () rest
      else if c = 'f' then keyword ['a', 'l', 's', 'e'] () rest
      else numeral.map (fun _ => ()) (c :: rest)

/-! ## Typed shapes -/

/-- A truth value with blanks before it. -/
def bool : Reader Bool := fun cs =>
  match skipBlanks cs with
  | 't' :: cs => keyword ['r', 'u', 'e'] true cs
  | 'f' :: cs => keyword ['a', 'l', 's', 'e'] false cs
  | _ => none

/-- The value `null` with blanks before it. -/
def null (a : α) : Reader α := fun cs => keyword ['n', 'u', 'l', 'l'] a (skipBlanks cs)

/-- A text with blanks before it. -/
def text : Reader String := fun cs => string (skipBlanks cs)

/-- An array with blanks before it. -/
def array (item : Reader α) (bound : Nat) : Reader (List α) := fun cs =>
  match skipBlanks cs with
  | '[' :: cs => list ']' item bound cs
  | _ => none

/-- An object with blanks before it, its members read as their names ask. -/
def fields (value : String → Reader α) (bound : Nat) : Reader (List (String × α)) := fun cs =>
  match skipBlanks cs with
  | '\x7b' :: cs => members value bound cs
  | _ => none

/-- A variant with blanks before it: the name of one without data, or an object with one member,
its name and its data.  One without data may be an object too, with `null` under its name. -/
def variant (plain : String → Option α) (data : String → Option (Reader α)) : Reader α := fun cs =>
  match skipBlanks cs with
  | '"' :: cs =>
    match quoted "" cs with
    | none => none
    | some (name, cs) => (plain name).map (·, cs)
  | '\x7b' :: cs =>
    let payload : String → Reader α := fun name =>
      match data name with
      | some read => read
      | none =>
        match plain name with
        | some a => null a
        | none => fun _ => none
    match member payload cs with
    | none => none
    | some ((_, a), cs) =>
      match skipBlanks cs with
      | '\x7d' :: cs => some (a, cs)
      | _ => none
  | _ => none

/-- Read a whole text, with nothing but blanks after the value. -/
def run (read : Reader α) (cs : List Char) : Option α :=
  match read cs with
  | none => none
  | some (a, rest) => if (skipBlanks rest).isEmpty then some a else none

end Reader

/-- The value that a text holds. -/
def parse? (s : String) : Option Json :=
  let cs := s.toList
  (Reader.value cs.length maxDepth).run cs

end KanaSettings.Json
