/-
  Readers of TOML: what stands at the front of a text, and the text behind it.

  * `Reader` is the type. A reader fails without a reason, for a text that is not TOML is refused
    as a whole; where one fails, another may be tried at the same place.
  * `oneOf`, `span` and `exactly` read single characters, runs of them and fixed words; `many`
    reads the same thing again and again.
  * `blanks`, `newline`, `comment` and `lineEnd` read what stands between and behind the entries
    of a document, and `filler` what may stand between the items of an array.
-/

namespace ScalarStubs.Toml

/-- A reader takes what it reads from the front of a text and leaves the rest. -/
abbrev Reader (α : Type) := StateT (List Char) Option α

namespace Reader

/-- What is left of a text behind a given beginning. -/
def behind? : List Char → List Char → Option (List Char)
  | [], cs => some cs
  | _ :: _, [] => none
  | w :: ws, c :: cs => if w = c then behind? ws cs else none

/-- Reads one character of a class. -/
def oneOf (p : Char → Bool) : Reader Char := fun
  | [] => none
  | c :: cs => if p c then some (c, cs) else none

/-- Reads all characters of a class, as far as they go. -/
def span (p : Char → Bool) : Reader (List Char) := fun cs =>
  some (cs.takeWhile p, cs.dropWhile p)

/-- Reads a given word. -/
def exactly (word : String) : Reader Unit := fun cs =>
  (behind? word.toList cs).map fun rest => ((), rest)

/-- Reads the end of the text. -/
def atEnd : Reader Unit := fun
  | [] => some ((), [])
  | _ :: _ => none

/-- Reads as many as there are. It stops in front of one that cannot be read, and behind one that
    takes nothing from the text. -/
def many {α : Type} (item : Reader α) (cs : List Char) : Option (List α × List Char) :=
  match item cs with
  | none => some ([], cs)
  | some (a, rest) =>
    if rest.length < cs.length then
      (many item rest).map fun (as, last) => (a :: as, last)
    else some ([a], rest)
termination_by cs.length

/-- Reads several, one at least, with a word between them. -/
def separated {α : Type} (item : Reader α) (word : String) : Reader (List α) := do
  let a ← item
  let as ← many (exactly word *> item)
  return a :: as

end Reader

/-! ## Between the entries -/

open Reader

/-- Whether a character is a blank within a line. -/
def isMargin (c : Char) : Bool :=
  c == ' ' || c == '\t'

/-- Whether a character may stand in a comment: anything but a control character, and tabs. -/
def isPlain (c : Char) : Bool :=
  c == '\t' || (' ' ≤ c && c != '\x7f')

/-- Reads blanks within a line. -/
def blanks : Reader Unit := do
  let _ ← span isMargin

/-- Reads a line break. A carriage return is part of one only in front of a line feed. -/
def newline : Reader Unit := fun
  | '\n' :: cs => some ((), cs)
  | '\r' :: '\n' :: cs => some ((), cs)
  | _ => none

/-- Reads a comment, up to the end of its line. -/
def comment : Reader Unit := do
  exactly "#"
  let _ ← span isPlain

/-- Reads what may follow an entry in its line, and the end of that line. -/
def lineEnd : Reader Unit := do
  blanks
  let _ ← optional comment
  newline <|> atEnd

/-- Reads blanks, comments and line breaks. -/
def filler : Reader Unit := do
  blanks
  let _ ← many do
    let _ ← optional comment
    newline
    blanks

end ScalarStubs.Toml
