/-
  Scripts: sequences of printer commands, carried out even past a failure or up to the first one.

  * `Command` is one thing a printer can be told; `indented` holds commands that are carried out
    one level deeper. Each statement comes with the settings that it is to be generated with.
  * `Printer.exec` carries out a command and `Printer.execAll` a list of them. Both leave a
    `Trace`: the printer after the command, the failure if there was one, and the traces of the
    commands inside.
  * `Printer.attempt` and `Printer.attemptAll` do the same for those who give up at the first
    failure, inside a command and behind it.
-/
import ScalarStubs.Statement

namespace ScalarStubs

/-- Something a printer can be told to do. -/
inductive Command where
  | write (text : String)
  /-- Write a statement as the settings ask for it. -/
  | emit (s : Settings) (stmt : Statement)
  | flush
  | indent
  | unindent
  /-- Carry out the commands one level deeper. -/
  | indented (body : List Command)

mutual

/-- Whether a command never asks the sink to pass anything on. -/
def Command.flushless : Command → Bool
  | .flush => false
  | .indented body => Command.flushlessAll body
  | .write _ | .emit _ _ | .indent | .unindent => true

/-- Whether none of the commands asks the sink to pass anything on. -/
def Command.flushlessAll : List Command → Bool
  | [] => true
  | c :: cs => c.flushless && Command.flushlessAll cs

end

/-- How a command failed, on a sink that fails for causes in `ε`. -/
inductive CommandError (ε : Type) where
  | sink (cause : SinkError ε)
  | emit (error : EmitError ε)
deriving DecidableEq, Repr

namespace CommandError

variable {ε : Type}

/-- The failure of the sink behind it. -/
def cause : CommandError ε → SinkError ε
  | sink cause => cause
  | emit error => error.cause

/-- The wording of a failure, by the wording of the sink's own causes. -/
def message (wording : ε → String) : CommandError ε → String
  | sink cause => cause.message wording
  | emit error => error.message wording

end CommandError

/-- What became of a command. -/
inductive Trace (σ ε : Type) where
  | mk (after : Printer σ) (failure : Option (CommandError ε)) (inner : List (Trace σ ε))

namespace Trace

variable {σ ε : Type}

/-- The printer after the command. -/
def after : Trace σ ε → Printer σ
  | mk after _ _ => after

/-- The failure of the command itself. -/
def failure : Trace σ ε → Option (CommandError ε)
  | mk _ failure _ => failure

/-- The traces of the commands inside. -/
def inner : Trace σ ε → List (Trace σ ε)
  | mk _ _ inner => inner

end Trace

namespace Printer

variable {σ ε : Type} [ByteSink σ ε]

mutual

/-- Carries out a command. -/
def exec (p : Printer σ) : Command → Trace σ ε
  | .write text =>
    let (q, e) := p.write text
    ⟨q, e.map .sink, []⟩
  | .emit s stmt =>
    let (q, e) := p.emit s stmt
    ⟨q, e.map .emit, []⟩
  | .flush =>
    let (q, e) := p.flush
    ⟨q, e.map .sink, []⟩
  | .indent => ⟨p.indent, none, []⟩
  | .unindent => ⟨p.unindent, none, []⟩
  | .indented body =>
    let (q, inner) := p.indented fun p => execAll p body
    ⟨q, none, inner⟩

/-- Carries out commands one after another; a failure does not stop them. -/
def execAll (p : Printer σ) : List Command → Printer σ × List (Trace σ ε)
  | [] => (p, [])
  | c :: cs =>
    let t := exec p c
    let (q, ts) := execAll t.after cs
    (q, t :: ts)

end

mutual

/-- Carries out a command, and the commands inside up to the first failure. -/
def attempt (p : Printer σ) : Command → Printer σ × Option (CommandError ε)
  | .indented body => p.indented fun p => attemptAll p body
  | c => ((p.exec c).after, (p.exec c).failure)

/-- Carries out commands one after another, up to the first failure. -/
def attemptAll (p : Printer σ) : List Command → Printer σ × Option (CommandError ε)
  | [] => (p, none)
  | c :: cs =>
    match attempt p c with
    | (q, none) => attemptAll q cs
    | (q, some e) => (q, some e)

end

end Printer

end ScalarStubs
