/-
Failures of file operations.

The reasons are those of a POSIX system, with its texts and numbers, and two that arise before the
system is asked: a name that it could not be given, and content that is no text.
-/

set_option autoImplicit false

namespace RecordSchema

/-- Why a file operation fails. -/
inductive FileError where
  | notFound
  | isDirectory
  | notDirectory
  | alreadyExists
  | nameTooLong
  | busy
  | denied
  /-- The path has a zero character, which ends a name for the system. -/
  | invalidName
  /-- The content is not UTF-8. -/
  | invalidText
  deriving Repr, DecidableEq

def FileError.message : FileError → String
  | .notFound => "No such file or directory (os error 2)"
  | .isDirectory => "Is a directory (os error 21)"
  | .notDirectory => "Not a directory (os error 20)"
  | .alreadyExists => "File exists (os error 17)"
  | .nameTooLong => "File name too long (os error 36)"
  | .busy => "Device or resource busy (os error 16)"
  | .denied => "Permission denied (os error 13)"
  | .invalidName => "file name contained an unexpected NUL byte"
  | .invalidText => "stream did not contain valid UTF-8"

end RecordSchema
