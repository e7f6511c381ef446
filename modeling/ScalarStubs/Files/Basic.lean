/-
  Files: what a program can ask of the place where its files are.

  * `FileStore` is the interface, two operations in a monad of one's choice: the contents of a
    file, and new contents for one.
  * `FileError` is what can go wrong. Contents that are asked for as a text must be UTF-8;
    `FileStore.readText` checks that.
-/
import ScalarStubs.Text.Utf8

namespace ScalarStubs

/-- Why a file could not be read or written. -/
inductive FileError where
  | notFound
  | isDirectory
  | notDirectory
  | nameTooLong
  /-- The path holds a NUL, which no name can. -/
  | nulInPath
  | notUtf8
  /-- Something else, in the words of whoever noticed it. -/
  | other (text : String)
deriving DecidableEq, Repr

/-- The wording of a failure. -/
def FileError.message : FileError → String
  | .notFound => "No such file or directory (os error 2)"
  | .isDirectory => "Is a directory (os error 21)"
  | .notDirectory => "Not a directory (os error 20)"
  | .nameTooLong => "File name too long (os error 36)"
  | .nulInPath => "file name contained an unexpected NUL byte"
  | .notUtf8 => "stream did not contain valid UTF-8"
  | .other text => text

/-- Files that are known by their paths. -/
class FileStore (m : Type → Type) where
  read : String → m (Except FileError (List UInt8))
  /-- Gives a file new contents, and makes it if there is none. -/
  write : String → List UInt8 → m (Except FileError Unit)

namespace FileStore

variable {m : Type → Type} [Monad m] [FileStore m]

/-- The text that contents stand for. -/
def asText (bytes : List UInt8) : Except FileError String :=
  match Text.decode? bytes with
  | some s => .ok s
  | none => .error .notUtf8

/-- The contents of a file as a text. -/
def readText (path : String) : m (Except FileError String) := do
  return (← read path) >>= asText

/-- Gives a file a text for its new contents. -/
def writeText (path : String) (s : String) : m (Except FileError Unit) :=
  write path (Text.encode s)

end FileStore

end ScalarStubs
