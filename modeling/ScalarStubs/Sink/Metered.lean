/-
  A sink with limits, to watch how writers behave when writes fall short.

  * `MeteredSink` takes so many bytes in all and so many at a time, may interrupt every other
    offer, and counts the offers.
  * `Refusal` says how it answers when it can take nothing more, and `MeteredSink.Failure` lists the
    causes for which it can fail.
-/
import ScalarStubs.Sink.Basic

namespace ScalarStubs

/-- The causes for which a metered sink fails. -/
inductive MeteredSink.Failure where
  | closed
  | denied
  | flushRefused
deriving DecidableEq, Repr

/-- The wording of a cause. -/
def MeteredSink.Failure.message : Failure → String
  | .closed => "sink closed"
  | .denied => "denied"
  | .flushRefused => "flush failed"

/-- How a full sink answers. -/
inductive Refusal where
  | closed
  | denied
  /-- It takes nothing and calls that a success. -/
  | silent
deriving DecidableEq, Repr

/-- The answer of a full sink. -/
def Refusal.reply : Refusal → Reply MeteredSink.Failure
  | .closed => .failed .closed
  | .denied => .failed .denied
  | .silent => .took 0

/-- A sink that takes its bytes in portions and only up to a limit. -/
structure MeteredSink where
  /-- The greatest number of bytes in all. -/
  limit : Option Nat := none
  /-- The greatest number of bytes at a time. -/
  portion : Option Nat := none
  refusal : Refusal := .closed
  /-- Whether each offer with an odd number is interrupted. -/
  stutters : Bool := false
  refusesFlush : Bool := false
  offers : Nat := 0
  bytes : Array UInt8 := #[]

namespace MeteredSink

/-- How many of so many bytes the sink can take at once. -/
def capacity (s : MeteredSink) (count : Nat) : Nat :=
  min count (min (s.portion.getD count) ((s.limit.map (· - s.bytes.size)).getD count))

/-- Whether the next offer will be interrupted. -/
def interruptsNext (s : MeteredSink) : Bool :=
  s.stutters && s.offers % 2 == 0

/-- Takes what the limits allow. -/
def offer (s : MeteredSink) (bytes : List UInt8) : MeteredSink × Reply Failure :=
  if s.interruptsNext then ({ s with offers := s.offers + 1 }, .interrupted)
  else if s.capacity bytes.length = 0 then ({ s with offers := s.offers + 1 }, s.refusal.reply)
  else
    ({ s with
        offers := s.offers + 1
        bytes := s.bytes ++ bytes.take (s.capacity bytes.length) },
      .took (s.capacity bytes.length))

theorem capacity_le (s : MeteredSink) (count : Nat) : s.capacity count ≤ count :=
  Nat.min_le_left _ _

theorem reply_ne_interrupted (r : Refusal) : r.reply ≠ .interrupted := by
  cases r <;> simp [Refusal.reply]

theorem reply_eq_took {r : Refusal} {n : Nat} (h : r.reply = .took n) : n = 0 := by
  cases r <;> simp_all [Refusal.reply]

instance : ByteSink MeteredSink Failure where
  offer := offer
  flush s := (s, if s.refusesFlush then some .flushRefused else none)
  taken s := s.bytes.toList
  patience s := if s.interruptsNext then 1 else 0
  taken_of_took {s bytes n} h := by
    unfold offer at h ⊢
    split at h
    · exact nomatch h
    · split at h
      · cases reply_eq_took h; simp_all
      · cases h; simp_all [capacity_le]
  taken_of_interrupted {s bytes} h := by
    unfold offer at h ⊢
    split at h
    · simp_all [interruptsNext]; omega
    · split at h
      · exact absurd h (reply_ne_interrupted _)
      · exact nomatch h
  taken_of_failed {s bytes cause} h := by
    unfold offer at h ⊢
    split at h
    · exact nomatch h
    · split at h
      · simp_all
      · exact nomatch h
  taken_flush _ := rfl

end MeteredSink

end ScalarStubs
