/-
  The indenting printer: text on its way to a sink.

  * `Printer` is a sink with a unit of indentation, the current depth and whether the next
    character begins a line.
  * `Printer.write` writes a text line by line. A line that is not blank is preceded by the margin,
    one unit for each level, but only where it begins; so a line may be written in several
    pieces. Writing stops at the first failure of the sink, with the state that it had reached.
  * `Printer.writeEach` writes several texts, `Printer.indented` runs something one level deeper.
  * `Printer.debugText` shows the state of a printer.
-/
import ScalarStubs.Sink.Basic
import ScalarStubs.Text.Lines
import ScalarStubs.Text.Utf8

namespace ScalarStubs

/-- A printer onto a sink with states in `σ`. -/
structure Printer (σ : Type) where
  sink : σ
  /-- What is written once for each level at the beginning of a line. -/
  unit : String := "    "
  /-- The number of levels. The first that does not fit a word, `2 ^ 64`, is out of reach: it takes
      as many calls to get there. -/
  depth : Nat := 0
  /-- Whether the next character begins a line. -/
  atLineStart : Bool := true

namespace Printer

variable {σ : Type}

/-- Goes one level deeper. -/
def indent (p : Printer σ) : Printer σ :=
  { p with depth := p.depth + 1 }

/-- Goes one level back; at the outermost level nothing changes. -/
def unindent (p : Printer σ) : Printer σ :=
  { p with depth := p.depth - 1 }

/-- Runs `body` one level deeper and goes one level back after it. -/
def indented {α : Type} (p : Printer σ) (body : Printer σ → Printer σ × α) : Printer σ × α :=
  let (q, a) := body p.indent
  (q.unindent, a)

/-- The state of a printer, for those who look for what went wrong. -/
def debugText (p : Printer σ) : String :=
  "Formatter \x7b depth: " ++ toString p.depth ++ ", at_line_start: " ++ toString p.atLineStart ++
    ", .. \x7d"

variable {ε : Type} [ByteSink σ ε]

/-- How many units of indentation a piece of a line is preceded by. -/
def margin (p : Printer σ) (piece : List Char) : Nat :=
  if p.atLineStart && piece != ['\n'] then p.depth else 0

/-- Writes a piece of one line, which holds no line feed but at its end. -/
def writePiece (p : Printer σ) (piece : List Char) : Printer σ × Option (SinkError ε) :=
  match p, p.margin piece with
  | ⟨sink, unit, depth, atLineStart⟩, margin =>
    match ByteSink.writeTimes sink (Text.encode unit) margin with
    | (sink, some e) => (⟨sink, unit, depth, atLineStart⟩, some e)
    | (sink, none) =>
      match ByteSink.writeAll sink (Text.encodeChars piece) with
      | (sink, some e) => (⟨sink, unit, depth, atLineStart⟩, some e)
      | (sink, none) => (⟨sink, unit, depth, piece.getLast? == some '\n'⟩, none)

/-- Writes pieces of lines one after another, up to the first failure. -/
def writePieces (p : Printer σ) : List (List Char) → Printer σ × Option (SinkError ε)
  | [] => (p, none)
  | l :: ls =>
    match p.writePiece l with
    | (q, none) => q.writePieces ls
    | (q, some e) => (q, some e)

/-- Writes a text, up to the first failure. -/
def write (p : Printer σ) (text : String) : Printer σ × Option (SinkError ε) :=
  p.writePieces (Text.lines text.toList)

/-- Writes texts one after another, up to the first failure. -/
def writeEach (p : Printer σ) : List String → Printer σ × Option (SinkError ε)
  | [] => (p, none)
  | t :: ts =>
    match p.write t with
    | (q, none) => q.writeEach ts
    | (q, some e) => (q, some e)

/-- Asks the sink to pass on what it holds back. -/
def flush (p : Printer σ) : Printer σ × Option (SinkError ε) :=
  let (sink, e) := ByteSink.flush p.sink
  ({ p with sink }, e.map .failed)

end Printer

end ScalarStubs
