/-
  Byte sinks: what generated code is written to.

  * A sink is offered bytes and answers with a `Reply`: how many it took, that it was
    interrupted and wants to be asked again, or that it failed, with a cause of its own.
  * `ByteSink` is the interface, for any type of states and any type of causes. Beside the
    operations it has a view, `taken`, the bytes taken so far, and laws that tie each reply to it. A
    sink may interrupt only so many times in a row: `patience` goes down with each interruption.
  * `writeAll` offers bytes until all are taken. Nothing is offered where there is nothing to
    write, an interrupted offer is repeated, and a sink that takes nothing has stalled. Other than
    that a `SinkError` is the sink's own cause, passed on as it is.
-/

namespace ScalarStubs

/-- Why bytes did not get through to a sink that fails for causes in `ε`. -/
inductive SinkError (ε : Type) where
  /-- The sink took nothing of what it was offered. -/
  | stalled
  | failed (cause : ε)
deriving DecidableEq, Repr

/-- The wording of a failure, by the wording of the sink's own causes. -/
def SinkError.message {ε : Type} (wording : ε → String) : SinkError ε → String
  | .stalled => "failed to write whole buffer"
  | .failed cause => wording cause

/-- The answer of a sink to an offer of bytes. -/
inductive Reply (ε : Type) where
  /-- So many of the bytes were taken, from the front. -/
  | took (count : Nat)
  | interrupted
  | failed (cause : ε)
deriving DecidableEq, Repr

/-- The failure that an answer amounts to, if the sink refuses with it to go on. -/
def Reply.refusal? {ε : Type} : Reply ε → Option (SinkError ε)
  | .took 0 => some .stalled
  | .took (_ + 1) | .interrupted => none
  | .failed cause => some (.failed cause)

/-- A sink for bytes with states in `σ` that fails for causes in `ε`. -/
class ByteSink (σ : Type) (ε : outParam Type) where
  /-- Offers bytes. -/
  offer : σ → List UInt8 → σ × Reply ε
  /-- Asks the sink to pass on what it holds back. -/
  flush : σ → σ × Option ε
  /-- All bytes taken so far. -/
  taken : σ → List UInt8
  /-- How many times in a row the sink may still interrupt. -/
  patience : σ → Nat
  taken_of_took {s : σ} {bytes : List UInt8} {n : Nat} (h : (offer s bytes).2 = .took n) :
    n ≤ bytes.length ∧ taken (offer s bytes).1 = taken s ++ bytes.take n
  taken_of_interrupted {s : σ} {bytes : List UInt8} (h : (offer s bytes).2 = .interrupted) :
    patience (offer s bytes).1 < patience s ∧ taken (offer s bytes).1 = taken s
  taken_of_failed {s : σ} {bytes : List UInt8} {cause : ε}
    (h : (offer s bytes).2 = .failed cause) : taken (offer s bytes).1 = taken s
  taken_flush (s : σ) : taken (flush s).1 = taken s

namespace ByteSink

variable {σ ε : Type} [ByteSink σ ε]

/-- Offers bytes until the sink has taken all of them or fails. -/
def writeAll (s : σ) (bytes : List UInt8) : σ × Option (SinkError ε) :=
  if bytes = [] then (s, none)
  else
    match _ : offer s bytes with
    | (s', .took 0) => (s', some .stalled)
    | (s', .took (n + 1)) => writeAll s' (bytes.drop (n + 1))
    | (s', .interrupted) => writeAll s' bytes
    | (s', .failed cause) => (s', some (.failed cause))
termination_by (bytes.length, patience s)
decreasing_by
  · have : 0 < bytes.length := List.length_pos_iff.2 ‹_›
    exact Prod.Lex.left _ _ (by simp; omega)
  · rename_i h
    exact Prod.Lex.right _ (by simpa [h] using (taken_of_interrupted (congrArg Prod.snd h)).1)

theorem writeAll_nil (s : σ) : writeAll s [] = (s, none) := by
  rw [writeAll, if_pos rfl]

/-- Writes the same bytes a number of times, up to the first failure. -/
def writeTimes (s : σ) (bytes : List UInt8) : Nat → σ × Option (SinkError ε)
  | 0 => (s, none)
  | n + 1 =>
    match writeAll s bytes with
    | (s', none) => writeTimes s' bytes n
    | (s', some e) => (s', some e)

end ByteSink

end ScalarStubs
