/-!
# Paths

A path is a text whose parts are divided by slashes.  An empty part and a single dot stay where
they are, two dots go back to the directory above, and any other part goes into what it names.
Paths and names have greatest lengths, which count bytes.
-/

namespace KanaSettings

/-- A path as somebody wrote it. -/
structure Path where
  text : String
deriving DecidableEq, Inhabited

namespace Path

/-- What one part of a path does. -/
inductive Move where
  | stay
  | back
  | enter (name : String)
deriving DecidableEq

/-- Divide characters at every slash. -/
def split : List Char → List (List Char)
  | [] => [[]]
  | c :: cs =>
    match split cs with
    | [] => [[c]]
    | part :: parts => if c = '/' then [] :: part :: parts else (c :: part) :: parts

/-- What a part says. -/
def Move.ofPart (part : List Char) : Move :=
  if part = [] ∨ part = ['.'] then .stay
  else if part = ['.', '.'] then .back
  else .enter (String.ofList part)

/-- The moves of a path, from the root on. -/
def moves (path : Path) : List Move := (split path.text.toList).map Move.ofPart

/-- Whether a path starts at the root wherever it is used. -/
def isAbsolute (path : Path) : Bool := path.text.toList.head? = some '/'

/-- Whether a path ends in a slash, so that only a directory can bear it. -/
def namesDirectory (path : Path) : Bool := path.text.toList.getLast? = some '/'

/-- The moves before the last part of a path, and the move of the last part.  Slashes at the end
divide nothing.  The moves before end in a stay, which only a directory allows. -/
def lastMove (path : Path) : List Move × Move :=
  let reversed := path.text.toList.reverse.dropWhile (· = '/')
  let above := (reversed.dropWhile (· ≠ '/')).reverse
  let last := (reversed.takeWhile (· ≠ '/')).reverse
  ((split above).map Move.ofPart, Move.ofPart last)

/-- The number of bytes of a path. -/
def size (path : Path) : Nat := path.text.utf8ByteSize

/-- Whether a path holds the character that ends a path for the system. -/
def holdsNul (path : Path) : Bool := path.text.toList.contains '\x00'

/-- The number of bytes from which on a path is too long. -/
def sizeLimit : Nat := 4096

/-- The greatest number of bytes of a name. -/
def maxNameSize : Nat := 255

/-- The number of bytes from which on a path is too long for the address of a socket. -/
def addressLimit : Nat := 108

/-- Characters in reverse order without the slashes and single dots that end a path. -/
def dropEnding : List Char → List Char
  | '/' :: rest => dropEnding rest
  | '.' :: '/' :: rest => dropEnding rest
  | rest => rest

/-- The path of the directory that holds what a path names; none for the root and for the path
without any part, and the path without any part for a single name. -/
def parent? (path : Path) : Option Path :=
  match dropEnding path.text.toList.reverse with
  | [] => none
  | last =>
    match dropEnding (last.dropWhile (· ≠ '/')) with
    | [] => some ⟨if path.isAbsolute then "/" else ""⟩
    | above => some ⟨String.ofList above.reverse⟩

/-- The directory of a file, which is where one stands if the path is a single name. -/
def directory (path : Path) : Path :=
  match path.parent? with
  | some parent => if parent.text.isEmpty then ⟨"."⟩ else parent
  | none => ⟨"."⟩

/-- At most so many paths: a path, the one of the directory that holds what it names, and so on, as
far up as there are parts in the text. -/
def ancestorsWithin : (count : Nat) → Path → List Path
  | 0, _ => []
  | count + 1, path =>
    if path.text.isEmpty then []
    else
      match path.parent? with
      | none => [path]
      | some above => path :: ancestorsWithin count above

/-- A path and the paths of all directories above it.  Each is shorter than the one before. -/
def ancestors (path : Path) : List Path := ancestorsWithin path.text.length path

/-- A path from a directory on. -/
def join (directory : Path) (rest : String) : Path :=
  if rest.toList.head? = some '/' then ⟨rest⟩
  else if directory.text.isEmpty then ⟨rest⟩
  else if directory.text.toList.getLast? = some '/' then ⟨directory.text ++ rest⟩
  else ⟨directory.text ++ "/" ++ rest⟩

end Path

end KanaSettings
