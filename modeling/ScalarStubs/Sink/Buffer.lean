/-
  The sink that never fails: bytes in memory.

  * `Buffer` holds the bytes taken; there is no cause for which it fails. `Buffer.text?` is the
    text that the bytes stand for, if they are well-formed UTF-8, and `Buffer.lossyText` is one in
    any case.
  * `writeAll_buffer`: whatever is written is appended, and nothing fails.
-/
import ScalarStubs.Sink.Basic
import ScalarStubs.Text.Utf8

namespace ScalarStubs

/-- A sink that takes everything and keeps it in memory. -/
structure Buffer where
  bytes : Array UInt8 := #[]

namespace Buffer

/-- The buffer with more bytes behind those it holds. -/
def append (s : Buffer) (bytes : List UInt8) : Buffer :=
  { bytes := s.bytes ++ bytes }

instance : ByteSink Buffer Empty where
  offer s bytes := (s.append bytes, .took bytes.length)
  flush s := (s, none)
  taken s := s.bytes.toList
  patience _ := 0
  taken_of_took h := by cases h; simp [append]
  taken_of_interrupted h := nomatch h
  taken_of_failed h := nomatch h
  taken_flush _ := rfl

/-- The text that the bytes stand for. -/
def text? (s : Buffer) : Option String :=
  Text.decode? s.bytes.toList

/-- The text that the bytes stand for, with a replacement character for what is ill formed. -/
def lossyText (s : Buffer) : String :=
  Text.decodeLossy s.bytes.toList

theorem writeAll_buffer (s : Buffer) (bytes : List UInt8) :
    ByteSink.writeAll s bytes = (s.append bytes, none) := by
  rw [ByteSink.writeAll]
  split
  · rename_i h; subst h; simp [append]
  · rename_i h
    have hpos : 0 < bytes.length := List.length_pos_iff.2 h
    split <;> rename_i heq <;> simp only [ByteSink.offer, Prod.mk.injEq, Reply.took.injEq,
      reduceCtorEq, and_false] at heq
    · omega
    · obtain ⟨rfl, hl⟩ := heq
      simp only [Nat.succ_eq_add_one] at hl
      rw [← hl, List.drop_length, ByteSink.writeAll_nil]

end Buffer

end ScalarStubs
