import Testbench.Path

/-!
# Error — why an operation failed

- `FileError` : causes that come from the file system;
- `Error`     : causes of a failed operation;
- `message`   : how each is told.
-/

namespace Testbench

inductive FileError where
  | notFound
  | accessDenied
  | exists
  | notDirectory
  | isDirectory
  | nameTooLong
  | tooManyLinks
  | badExecutable
  | notText
  | nulInPath
  | other (text : String)
  deriving DecidableEq, Repr, Inhabited

def FileError.message : FileError → String
  | .notFound => "No such file or directory (os error 2)"
  | .badExecutable => "Exec format error (os error 8)"
  | .accessDenied => "Permission denied (os error 13)"
  | .exists => "File exists (os error 17)"
  | .notDirectory => "Not a directory (os error 20)"
  | .isDirectory => "Is a directory (os error 21)"
  | .nameTooLong => "File name too long (os error 36)"
  | .tooManyLinks => "Too many levels of symbolic links (os error 40)"
  | .notText => "stream did not contain valid UTF-8"
  | .nulInPath => "file name contained an unexpected NUL byte"
  | .other text => text

inductive ConfigError where
  | notAnObject (path : Path)
  | missingScript (path : Path)
  | unreadable
  | other (text : String)
  deriving DecidableEq, Repr, Inhabited

def ConfigError.message : ConfigError → String
  | .notAnObject path => path.text ++ " is not a JSON object"
  | .missingScript path => "Helper script " ++ path.text ++ " does not exist"
  | .unreadable => "Failed to parse config: not a configuration"
  | .other text => text

inductive Error where
  | file (cause : FileError)
  | config (cause : ConfigError)
  | environment (text : String)
  /-- An external program could not be run or refused its task. -/
  | tool (command text : String)
  | projectNotFound (path : Path)
  | watch (text : String)
  | malformedJson
  | other (text : String)
  deriving DecidableEq, Repr, Inhabited

def Error.message : Error → String
  | .file cause => "IO error: " ++ cause.message
  | .config cause => "Configuration error: " ++ cause.message
  | .environment text => "Environment error: " ++ text
  | .tool command text => "Failed to run \x60" ++ command ++ "\x60: " ++ text
  | .projectNotFound path => "No QTA project contains " ++ path.text
  | .watch text => "Watch error: " ++ text
  | .malformedJson => "Serialization error: not JSON"
  | .other text => text

/-- A failure of the file system as a failure of the operation. -/
def liftFile {α : Type} : Except FileError α → Except Error α
  | .ok x => .ok x
  | .error cause => .error (.file cause)

end Testbench
