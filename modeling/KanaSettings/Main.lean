import KanaSettings.CommandLine.Run

/-!
# The program

A process runs its command line in a world that holds what stands at the path of its settings
file, and afterwards brings the file into the state that it has there.  Sockets are not part of
this world: nobody listens behind one, and a process cannot stay as a host.
-/

namespace KanaSettings.CommandLine

/-- The variables of the environment of this process. -/
def readEnvironment : IO Environment := do
  return ⟨← IO.getEnv "IME_SETTINGS_CONFIG", ← IO.getEnv "XDG_CONFIG_HOME",
    ← IO.getEnv "XDG_CACHE_HOME", ← IO.getEnv "XDG_RUNTIME_DIR", ← IO.getEnv "HOME"⟩

/-- The code by which the system tells that a directory is where a file should be. -/
def directoryCode : UInt32 := 21

/-- What stands at a path. -/
def readNode (path : Path) : IO (Option Node) := do
  try
    return some (.file (← IO.FS.readBinFile path.text))
  catch
    | .noFileOrDirectory _ _ _ | .invalidArgument _ _ _ => return none
    | .inappropriateType place code details =>
      if code = directoryCode then return some .directory
      else throw (.inappropriateType place code details)
    | error => throw error

/-- The world in which something, or nothing, stands at a path whose directories are there. -/
def worldWith (path : Path) (node : Option Node) : World :=
  ⟨(FileTree.empty.makeDirectory path.directory none).1.plant path node, none⟩

/-- Put contents into a file by way of a temporary one beside it. -/
def writeContents (path : Path) (contents : ByteArray) : IO Unit := do
  let temporary := path.text ++ ".new"
  IO.FS.createDirAll path.directory.text
  IO.FS.writeBinFile temporary contents
  IO.FS.rename temporary path.text

/-- Bring a file into the state that it has after a command. -/
def writeBack (path : Path) (before after : World) : IO Unit := do
  match after.tree.read path with
  | .error _ => return
  | .ok contents =>
    match before.tree.read path with
    | .ok earlier => unless earlier.data = contents.data do writeContents path contents
    | .error _ => writeContents path contents

/-- Print what a command line came to. -/
def tell (output : Output) : IO UInt32 := do
  IO.print output.out
  IO.eprint output.err
  return UInt32.ofNat output.code

/-- Run a command line on the files of this machine. -/
def runProcess (words : List String) : IO UInt32 := do
  let environment ← readEnvironment
  match parse words with
  | .error stop => tell stop.output
  | .ok invocation =>
    let path := (invocation.file environment).path
    let before := worldWith path (← readNode path)
    match run environment words before with
    | (.exits output, after) =>
      writeBack path before after
      tell output
    | (.serves socket, _) =>
      tell ⟨1, "", (Failure.ofMessage ("no host can stay at " ++ socket.text)).text⟩

end KanaSettings.CommandLine

/-- Run the command line of this process. -/
def main (words : List String) : IO UInt32 := KanaSettings.CommandLine.runProcess words
