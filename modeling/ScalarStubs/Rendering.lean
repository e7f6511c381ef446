/-
  Rendering: texts printed into memory at a given depth.

  * `Settings.printer` is a printer onto an empty buffer, some levels deep, with the indentation
    of the settings.
  * `Settings.render` prints texts one after another and reads the buffer as a text.
  * `RenderError` is what could go wrong on the way; a buffer takes everything and is given
    nothing but encoded texts, so nothing does.
-/
import ScalarStubs.Printer.Basic
import ScalarStubs.Settings.Basic
import ScalarStubs.Sink.Buffer

namespace ScalarStubs

/-- Why nothing was rendered. -/
inductive RenderError where
  | sink (cause : SinkError Empty)
  | notUtf8
deriving DecidableEq, Repr

/-- The wording of what went wrong. -/
def RenderError.message : RenderError → String
  | .sink cause => "failed to write generated code: " ++ cause.message Empty.elim
  | .notUtf8 => "emitted code is not UTF-8"

namespace Settings

/-- A printer onto an empty buffer. -/
def printer (s : Settings) (depth : Nat) : Printer Buffer :=
  { sink := {}, unit := s.indent, depth }

/-- The text that comes of printing texts one after another. -/
def render (s : Settings) (depth : Nat) (texts : List String) : Except RenderError String :=
  match (s.printer depth).writeEach texts with
  | (_, some e) => .error (.sink e)
  | (p, none) =>
    match p.sink.text? with
    | some text => .ok text
    | none => .error .notUtf8

end Settings

end ScalarStubs
