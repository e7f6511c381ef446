/-
  Values of TOML: texts, numbers, moments, truth values, arrays and tables in braces.

  * `value` reads a value that nests at most so deep. The tables in braces are built as those of
    a document are, so that no name in them is given twice.
-/
import ScalarStubs.Toml.Moment
import ScalarStubs.Toml.Table

namespace ScalarStubs.Toml

open Reader

/-- Reads a value that holds no others. -/
def atom : Reader Value :=
  (Value.text <$> text) <|>
  (do
    moment <|> float <|> (do let _ ← integer) <|> exactly "true" <|> exactly "false"
    return .other)

/-- Reads an array. A comma may stand behind the last item. -/
def array (item : Reader Value) : Reader Value := do
  let padded : Reader Unit := do filler; let _ ← item; filler
  exactly "["
  let _ ← optional (do
    let _ ← separated padded ","
    optional (exactly ","))
  filler
  exactly "]"
  return .other

/-- Reads a key with a value, and the blanks behind it. -/
def pair (item : Reader Value) : Reader (Key × Value) := do
  let key ← Key.read
  exactly "="
  blanks
  let v ← item
  blanks
  return (key, v)

/-- Reads a table in braces. -/
def inlineTable (item : Reader Value) : Reader Value := do
  exactly "\x7b"
  let pairs ← optional (separated (pair item) ",")
  blanks
  exactly "\x7d"
  guard ((pairs.getD []).foldlM (fun es (key, v) => Entries.assign [] key v es) []).isSome
  return .other

/-- Reads a value in which arrays and tables nest at most so deep. -/
def value : Nat → Reader Value
  | 0 => atom
  | depth + 1 => atom <|> array (value depth) <|> inlineTable (value depth)

end ScalarStubs.Toml
