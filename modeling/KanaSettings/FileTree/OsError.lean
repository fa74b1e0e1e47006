/-!
# What the system refuses

The causes for which an operation on files, directories or sockets fails, and what the system says
about each.  The last three are found before the system is asked.
-/

namespace KanaSettings

/-- Why an operation on files or sockets fails. -/
inductive OsError where
  | notFound
  | alreadyExists
  | notADirectory
  | isADirectory
  /-- A path that should end in a name leads back to a directory it has passed. -/
  | busy
  /-- A path that a file should come to cannot be given to the system. -/
  | invalid
  | nameTooLong
  /-- A socket is where a file should be. -/
  | noDevice
  /-- Something is where a socket should come. -/
  | addressInUse
  | connectionRefused
  | noSpace
  /-- A path holds the character that would end it. -/
  | nulInPath
  /-- The path of a socket holds the character that would end it. -/
  | nulInAddress
  | addressTooLong
deriving DecidableEq

/-- What the system says. -/
def OsError.message : OsError → String
  | .notFound => "No such file or directory (os error 2)"
  | .alreadyExists => "File exists (os error 17)"
  | .notADirectory => "Not a directory (os error 20)"
  | .isADirectory => "Is a directory (os error 21)"
  | .busy => "Device or resource busy (os error 16)"
  | .invalid => "Invalid argument (os error 22)"
  | .nameTooLong => "File name too long (os error 36)"
  | .noDevice => "No such device or address (os error 6)"
  | .addressInUse => "Address already in use (os error 98)"
  | .connectionRefused => "Connection refused (os error 111)"
  | .noSpace => "No space left on device (os error 28)"
  | .nulInPath => "file name contained an unexpected NUL byte"
  | .nulInAddress => "paths must not contain interior null bytes"
  | .addressTooLong => "path must be shorter than SUN_LEN"

end KanaSettings
