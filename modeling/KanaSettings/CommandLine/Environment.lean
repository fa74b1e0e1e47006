import KanaSettings.FileTree.Path

/-!
# Where things are

The command line says where the settings file and the socket of the host are, or the variables of
the environment do: the file is in the directory for configuration, the socket in the directory
for a session or else in the one for caches.
-/

namespace KanaSettings.CommandLine

/-- The variables of the environment that matter, as far as they are set. -/
structure Environment where
  settingsFile : Option String
  configHome : Option String
  cacheHome : Option String
  runtimeDirectory : Option String
  home : Option String

namespace Environment

/-- A directory in the home of the person. -/
def inHome? (environment : Environment) (name : String) : Option Path :=
  (environment.home.filter fun home => !home.isEmpty).map fun home => Path.join ⟨home⟩ name

/-- The directory that a variable names, which has to be an absolute path, or else one in the
home. -/
def base? (environment : Environment) (named : Option String) (name : String) : Option Path :=
  match (named.map Path.mk).filter Path.isAbsolute with
  | some path => some path
  | none => environment.inHome? name

/-- Where the settings file is unless the command line says otherwise. -/
def settingsPath (environment : Environment) : Path :=
  match environment.settingsFile with
  | some path => ⟨path⟩
  | none =>
    ((environment.base? environment.configHome ".config").getD ⟨"."⟩).join
      "ime-settings/settings.json"

/-- The directory for sockets. -/
def socketDirectory? (environment : Environment) : Option Path :=
  match environment.runtimeDirectory with
  | some path => some ⟨path⟩
  | none => environment.base? environment.cacheHome ".cache"

/-- Where the socket is unless the command line says otherwise. -/
def socketPath? (environment : Environment) : Option Path :=
  environment.socketDirectory?.map fun directory => directory.join "ime-settings/settings.sock"

end Environment

end KanaSettings.CommandLine
