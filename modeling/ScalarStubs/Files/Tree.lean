/-
  File trees: directories and files in memory, with a directory to start from.

  * `FileTree` is a tree of `Node`s and the path of its working directory.
  * `FileTree.read` and `FileTree.write` follow a path step by step. Each step must start at a
    directory; `.` stays, `..` goes back, and an empty path leads nowhere. Names and paths have a
    greatest length.
  * With these, programs that carry a tree along are a `FileStore`.
-/
import ScalarStubs.Files.Basic
import ScalarStubs.Named

namespace ScalarStubs

/-- A file or a directory. -/
inductive Node where
  | file (bytes : List UInt8)
  | directory (entries : List (String × Node))

namespace Node

/-- What lies at the end of a path of names. -/
def find? (n : Node) : List String → Option Node
  | [] => some n
  | name :: names =>
    match n with
    | file _ => none
    | directory entries => (entries.lookup name).bind fun m => m.find? names

/-- Puts something at the end of a path of names. A directory is made where there is none on the
    way, and a file on the way gives way to one. -/
def put (n : Node) (path : List String) (new : Node) : Node :=
  match path with
  | [] => new
  | name :: names =>
    let entries := match n with
      | file _ => []
      | directory entries => entries
    let old := (entries.lookup name).getD (directory [])
    directory (Named.put name (old.put names new) entries)

end Node

/-- A tree of files with a working directory. -/
structure FileTree where
  root : Node := .directory []
  /-- The names on the way from the root to the working directory. -/
  workingDirectory : List String := []

namespace FileTree

/-- The steps of a path, whether or not it ends in a slash. -/
def steps (path : String) : List String :=
  (path.splitOn "/").filter (· != "")

/-- The place at which a path starts. -/
def start (t : FileTree) (path : String) : List String :=
  if path.startsWith "/" then [] else t.workingDirectory

/-- Whether a name is too long. -/
def isTooLong (name : String) : Bool :=
  255 < name.utf8ByteSize

/-- Takes steps from a place, each of them from a directory. -/
def follow (t : FileTree) : List String → List String → Except FileError (List String)
  | place, [] => .ok place
  | place, step :: rest =>
    match t.root.find? place with
    | none => .error .notFound
    | some (.file _) => .error .notDirectory
    | some (.directory _) =>
      if step = "." then t.follow place rest
      else if step = ".." then t.follow place.dropLast rest
      else if isTooLong step then .error .nameTooLong
      else t.follow (place ++ [step]) rest

/-- What is wrong with a path, whatever files there are. -/
def pathFault? (path : String) : Option FileError :=
  if path.toList.contains '\x00' then some .nulInPath
  else if path = "" then some .notFound
  else if 4095 < path.utf8ByteSize then some .nameTooLong
  else none

/-- The contents of a file. The step before a last slash must lead to a directory. -/
def read (t : FileTree) (path : String) : Except FileError (List UInt8) := do
  if let some e := pathFault? path then throw e
  let last := if path.endsWith "/" then ["."] else []
  match t.root.find? (← t.follow (t.start path) (steps path ++ last)) with
  | none => .error .notFound
  | some (.directory _) => .error .isDirectory
  | some (.file bytes) => .ok bytes

/-- The tree in which a file has new contents. A path that does not end in a name is taken for
    that of a directory. -/
def write (t : FileTree) (path : String) (bytes : List UInt8) : Except FileError FileTree := do
  if let some e := pathFault? path then throw e
  let name := (steps path).getLastD "."
  let place ← t.follow (t.start path) ((steps path).dropLast ++ ["."])
  if path.endsWith "/" ∨ name = "." ∨ name = ".." then throw .isDirectory
  if isTooLong name then throw .nameTooLong
  match t.root.find? (place ++ [name]) with
  | some (.directory _) => .error .isDirectory
  | _ => .ok { t with root := t.root.put (place ++ [name]) (.file bytes) }

instance : FileStore (StateM FileTree) where
  read path := do return (← get).read path
  write path bytes := do
    match (← get).write path bytes with
    | .ok t =>
      set t
      return .ok ()
    | .error e => return .error e

end FileTree

end ScalarStubs
