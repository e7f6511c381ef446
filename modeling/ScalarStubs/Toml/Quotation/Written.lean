/-
  Texts as they are written: the choice of marks and the escapes.

  * `Quotation.chosen` chooses how to write a text: between single double quotes if nothing in it is
    in the way, else with as few escapes as can be.
  * `Quotation.write` writes a text with its marks. Between double quotes, control characters and
    backslashes are escaped, and so is each quote that would add up to a mark.
  * `quote` does both. It refuses a text with too many marks in a row.
-/
import ScalarStubs.Toml.Quotation.Basic

namespace ScalarStubs.Toml

/-- Whether a character is a control character other than a tab or a line feed. -/
def isControl (c : Char) : Bool :=
  (c < ' ' && c != '\t' && c != '\n') || c == '\x7f'

/-- The length of the run of a character at the front of a text, and of its longest run. -/
def runs (m : Char) : List Char → Nat × Nat
  | [] => (0, 0)
  | c :: cs =>
    let (front, longest) := runs m cs
    if c = m then (front + 1, max (front + 1) longest) else (0, longest)

/-- The length of the longest run of a character in a text. -/
def longestRun (m : Char) (cs : List Char) : Nat :=
  (runs m cs).2

/-- A hexadecimal digit, in upper case. -/
def hexDigit (n : Nat) : Char :=
  if n < 10 then Char.ofNat ('0'.toNat + n) else Char.ofNat ('A'.toNat + (n - 10))

/-- The sign that stands for a character behind a backslash. -/
def signOf? (c : Char) : Option Char :=
  (signs.map fun (s, d) => (d, s)).lookup c

/-- What is written for a character that cannot stand for itself. -/
def escapeOf? (c : Char) : Option (List Char) :=
  match signOf? c with
  | some s => some ['\\', s]
  | none =>
    if c < ' ' || c == '\x7f' then
      some ['\\', 'u', '0', '0', hexDigit (c.toNat / 16), hexDigit (c.toNat % 16)]
    else none

namespace Quotation

/-- The way to write a text. -/
def chosen (cs : List Char) : Quotation :=
  let broken := cs.contains '\n'
  if cs.any isControl then ⟨.double, broken⟩
  else if !cs.contains '\\' && !cs.contains '"' && !broken then ⟨.double, false⟩
  else if !cs.contains '\'' && !broken then ⟨.single, false⟩
  else if !cs.contains '\\' && longestRun '"' cs ≤ 2 then ⟨.double, true⟩
  else if longestRun '\'' cs ≤ 2 then ⟨.single, true⟩
  else ⟨.double, broken⟩

/-- How many double quotes in a row need no escape. -/
def marksAllowed (q : Quotation) : Nat :=
  if q.tripled then 2 else 0

/-- Writes a text between double quotes, behind so many quotes in a row. -/
def escaped (q : Quotation) (marks : Nat) : List Char → List Char
  | [] => []
  | c :: cs =>
    if c = '"' then
      if marks < q.marksAllowed then '"' :: q.escaped (marks + 1) cs
      else '\\' :: '"' :: q.escaped 0 cs
    else if c = '\n' ∧ q.tripled then '\n' :: q.escaped 0 cs
    else (escapeOf? c).getD [c] ++ q.escaped 0 cs

/-- Writes what stands between the marks. -/
def content (q : Quotation) (cs : List Char) : List Char :=
  match q.mark with
  | .double => q.escaped 0 cs
  | .single => cs

/-- Writes a text with its marks. A text over several lines begins in a line of its own. -/
def write (q : Quotation) (cs : List Char) : List Char :=
  q.delimiter ++ (if q.tripled ∧ cs.contains '\n' then ['\n'] else []) ++ q.content cs ++
    q.delimiter

end Quotation

/-- The greatest number of equal marks in a row. -/
def runLimit : Nat := 255

/-- Why a text cannot be written. -/
inductive QuoteError where
  /-- It holds more than `runLimit` equal marks in a row. -/
  | longRun
deriving DecidableEq, Repr

/-- The wording of a refusal: one more mark could not be counted. -/
def QuoteError.message : QuoteError → String
  | .longRun => "attempt to add with overflow"

/-- Writes a text in the way that is chosen for it. -/
def quote (s : String) : Except QuoteError String :=
  let cs := s.toList
  if longestRun '"' cs ≤ runLimit ∧ longestRun '\'' cs ≤ runLimit then
    .ok (String.ofList ((Quotation.chosen cs).write cs))
  else .error .longRun

end ScalarStubs.Toml
