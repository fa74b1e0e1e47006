import KanaSettings.Host

/-!
# Hosts at their sockets

A world is a tree of files and at most one host that listens at a socket in it.  Listening makes
the socket, whose directory is made if it is missing and whose place is cleared of what an
earlier host left behind, and a host that stops takes its socket away.
-/

namespace KanaSettings

/-- Files, and the host that listens at a socket among them. -/
structure World where
  tree : FileTree
  /-- The host, with the location of its socket. -/
  listener : Option (Location × Host)

/-- Why a host cannot listen. -/
inductive ListenError where
  | directory (path : Path) (cause : OsError)
  /-- What an earlier host left behind cannot be removed. -/
  | stale (path : Path) (cause : OsError)
  | bind (path : Path) (cause : OsError)
deriving DecidableEq

namespace ListenError

/-- What was tried. -/
def attempt : ListenError → String
  | directory path _ => "Failed to create socket directory: " ++ path.text
  | stale path _ => "Failed to remove stale socket: " ++ path.text
  | bind path _ => "Failed to bind socket at " ++ path.text

/-- What the system said. -/
def cause : ListenError → OsError
  | directory _ cause | stale _ cause | bind _ cause => cause

/-- The message, with its cause after a colon. -/
def message (error : ListenError) : String := error.attempt ++ ": " ++ error.cause.message

end ListenError

namespace World

/-- Who may use a socket: its owner and nobody else, as permission bits. -/
def socketMode : Nat := 0o700

/-- Refuse a path that cannot be the address of a socket. -/
def checkAddress (socket : Path) : Except OsError Unit :=
  if socket.holdsNul then .error .nulInAddress
  else if Path.addressLimit ≤ socket.size then .error .addressTooLong
  else .ok ()

/-- Make the directory of a socket.  The tree holds what was made also when that fails. -/
def makeSocketDirectory (tree : FileTree) (socket : Path) : FileTree × Except ListenError Unit :=
  match socket.parent? with
  | none => (tree, .ok ())
  | some parent =>
    match tree.makeDirectory parent none with
    | (tree, .ok ()) => (tree, .ok ())
    | (tree, .error cause) => (tree, .error (.directory parent cause))

/-- Remove what stands at the path of a socket. -/
def removeStale (tree : FileTree) (socket : Path) : Except ListenError FileTree :=
  if tree.has socket then
    match tree.remove socket with
    | .ok tree => .ok tree
    | .error cause => .error (.stale socket cause)
  else .ok tree

/-- Make a socket, and return its location. -/
def bind (tree : FileTree) (socket : Path) : Except ListenError (FileTree × Location) :=
  match (do checkAddress socket; tree.addSocket socket) with
  | .ok bound => .ok bound
  | .error cause => .error (.bind socket cause)

/-- Let a host listen at a socket.  What was made or removed before a failure stays so. -/
def listen (world : World) (socket : Path) (host : Host) : Except ListenError Unit × World :=
  match makeSocketDirectory world.tree socket with
  | (tree, .error error) => (.error error, { world with tree := tree })
  | (tree, .ok ()) =>
    match removeStale tree socket with
    | .error error => (.error error, { world with tree := tree })
    | .ok tree =>
      match bind tree socket with
      | .error error => (.error error, { world with tree := tree })
      | .ok (tree, place) => (.ok (), ⟨tree, some (place, host)⟩)

/-- Let the host stop. -/
def close (world : World) : World :=
  match world.listener with
  | none => world
  | some (place, _) => ⟨world.tree.erase place, none⟩

/-- The host that listens at a socket. -/
def connect (world : World) (socket : Path) : Except OsError Host := do
  checkAddress socket
  let place ← world.tree.locate socket
  match world.tree.node? place, world.listener with
  | none, _ => .error .notFound
  | some .socket, some (taken, host) => if taken = place then .ok host else .error .connectionRefused
  | _, _ => .error .connectionRefused

/-- The world after a client's visit to the host. -/
def afterVisit (world : World) (visit : Visit) : World :=
  let world := { world with tree := visit.tree }
  if visit.stopped then world.close else world

/-- Let a client visit the host at a socket: the responses it is sent. -/
def visit [Wording] (world : World) (socket : Path) (visitor : Visitor) :
    Except OsError (List Wire.Response) × World :=
  match world.connect socket with
  | .error cause => (.error cause, world)
  | .ok host =>
    let visit := host.converse world.tree visitor
    (.ok visit.responses, world.afterVisit visit)

end World

end KanaSettings
