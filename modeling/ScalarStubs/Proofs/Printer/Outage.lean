/-
  Printing on a sink that may refuse, beside printing in memory.

  * `Printer.callsAll` lists the commands that print, with what became of each.
  * `Mirrors L p b`: the sink of `p` holds what has got through of the text in memory, and as long
    as everything has, the two printers stand at the same place.
  * `outage`: whether the failures stop the printer or not, nothing of what gets through is lost,
    doubled or moved, and the first call that goes beyond the limit reports the refusal.
-/
import ScalarStubs.Proofs.Printer.Printed

namespace ScalarStubs

open ByteSink (Accepts Refused Within cut taken)

variable {σ ε : Type}

/-! ## Calls -/

/-- What became of a command that prints. -/
structure Call (σ ε : Type) where
  before : Printer σ
  after : Printer σ
  failure : Option (CommandError ε)

namespace Printer

variable [ByteSink σ ε]

/-- What becomes of a command. -/
def call (p : Printer σ) (c : Command) : Call σ ε :=
  ⟨p, (p.exec c).after, (p.exec c).failure⟩

mutual

/-- The calls that are made for a command, past all failures. -/
def calls (p : Printer σ) : Command → List (Call σ ε)
  | .write text => [p.call (.write text)]
  | .emit s stmt => [p.call (.emit s stmt)]
  | .indented body => callsAll p.indent body
  | .flush | .indent | .unindent => []

/-- The calls that are made for commands, past all failures. -/
def callsAll (p : Printer σ) : List Command → List (Call σ ε)
  | [] => []
  | c :: cs => calls p c ++ callsAll (p.exec c).after cs

end

/-- The same printer onto memory that holds the same bytes. -/
def inMemory (p : Printer σ) : Printer Buffer :=
  ⟨⟨(taken p.sink).toArray⟩, p.unit, p.depth, p.atLineStart⟩

end Printer

/-! ## Two printers side by side -/

variable [ByteSink σ ε] {L : Option Nat} {p q : Printer σ} {b : Printer Buffer} {cs : List Char}
  {r : Printer σ × Option (SinkError ε)} {r' : Printer Buffer × Option (SinkError Empty)}

/-- The printer `p` has got as much through as there is room for of what `b` has in memory. -/
structure Mirrors (L : Option Nat) (p : Printer σ) (b : Printer Buffer) : Prop where
  accepts : Accepts L p.sink
  unit_eq : p.unit = b.unit
  depth_eq : p.depth = b.depth
  taken_eq : taken p.sink = cut L (taken b.sink)
  atLineStart_eq : Within L (taken b.sink).length → p.atLineStart = b.atLineStart

namespace Mirrors

theorem start (h : Accepts L p.sink) : Mirrors L p p.inMemory where
  accepts := h
  unit_eq := rfl
  depth_eq := rfl
  taken_eq := (ByteSink.cut_of_within h.within).symm
  atLineStart_eq _ := rfl

theorem indent (h : Mirrors L p b) : Mirrors L p.indent b.indent where
  accepts := h.accepts
  unit_eq := h.unit_eq
  depth_eq := congrArg (· + 1) h.depth_eq
  taken_eq := h.taken_eq
  atLineStart_eq := h.atLineStart_eq

theorem unindent (h : Mirrors L p b) : Mirrors L p.unindent b.unindent where
  accepts := h.accepts
  unit_eq := h.unit_eq
  depth_eq := congrArg (· - 1) h.depth_eq
  taken_eq := h.taken_eq
  atLineStart_eq := h.atLineStart_eq

theorem flush (h : Mirrors L p b) : Mirrors L p.flush.1 b.flush.1 where
  accepts := h.accepts.offered (.flush .refl)
  unit_eq := h.unit_eq
  depth_eq := h.depth_eq
  taken_eq := (ByteSink.taken_flush p.sink).trans h.taken_eq
  atLineStart_eq := h.atLineStart_eq

theorem typewriter_eq (h : Mirrors L p b) (hw : Within L (taken b.sink).length) :
    p.typewriter = b.typewriter := by
  rw [Printer.typewriter, h.unit_eq, h.depth_eq, h.atLineStart_eq hw]
  rfl

theorem typedBytes_eq (h : Mirrors L p b) (hw : Within L (taken b.sink).length)
    (cs : List Char) : p.typedBytes cs = b.typedBytes cs := by
  rw [Printer.typedBytes, Printer.typedBytes, h.typewriter_eq hw]

theorem same (h : Mirrors L p b) (hw : Within L (taken b.sink).length) :
    taken p.sink = taken b.sink := by
  rw [h.taken_eq, ByteSink.cut_of_within hw]

theorem full (h : Mirrors L p b) (hn : ¬ Within L (taken b.sink).length) :
    ¬ Within L ((taken p.sink).length + 1) := by
  rw [h.taken_eq]
  exact ByteSink.full_cut hn

theorem cut_append (h : Mirrors L p b) (cs : List Char) :
    cut L (taken p.sink ++ p.typedBytes cs) = cut L (taken b.sink ++ b.typedBytes cs) := by
  by_cases hw : Within L (taken b.sink).length
  · rw [h.same hw, h.typedBytes_eq hw]
  · rw [ByteSink.cut_append_of_full h.accepts.within (h.full hw),
      ByteSink.cut_append_of_not_within hw, h.taken_eq]

theorem within_of_printed (hr' : Printed none b cs r') (hw : Within L (taken r'.1.sink).length) :
    Within L (taken b.sink).length := by
  rw [hr'.taken_of_none] at hw
  exact hw.mono (by simp)

theorem ok (h : Mirrors L p b) (hr : Printed L p cs r) (hr' : Printed none b cs r')
    (hw : Within L (taken r'.1.sink).length) : r.2 = none := by
  have hbefore := within_of_printed hr' hw
  rw [hr'.taken_of_none] at hw
  exact hr.delivered.ok (by rwa [h.same hbefore, h.typedBytes_eq hbefore])

theorem printed (h : Mirrors L p b) (hr : Printed L p cs r) (hr' : Printed none b cs r') :
    Mirrors L r.1 r'.1 := by
  refine ⟨hr.accepts h.accepts, ?_, ?_, ?_, fun hw => ?_⟩
  · rw [hr.unit_eq, hr'.unit_eq, h.unit_eq]
  · rw [hr.depth_eq, hr'.depth_eq, h.depth_eq]
  · rw [hr.delivered.taken_eq, h.cut_append, hr'.taken_of_none]
  · rw [hr.atLineStart_eq (h.ok hr hr' hw), hr'.atLineStart_eq hr'.ok_of_none,
      h.typewriter_eq (within_of_printed hr' hw)]

theorem refused (h : Mirrors L p b) (hr : Printed L p cs r) (hr' : Printed none b cs r')
    (hn : ¬ Within L (taken r'.1.sink).length) (hne : taken r'.1.sink ≠ taken b.sink) :
    ∃ e, r.2 = some e ∧ Refused r.1.sink e := by
  rw [hr'.taken_of_none] at hn hne
  refine hr.delivered.refused fun hw => ?_
  by_cases hbefore : Within L (taken b.sink).length
  · rw [h.same hbefore, h.typedBytes_eq hbefore] at hw
    exact hn hw
  · -- the flags may differ by now, but whatever is printed there is no room for it
    have hcs : cs ≠ [] := by
      rintro rfl
      exact hne (List.append_nil _)
    have hpos : 0 < (p.typedBytes cs).length := by
      rw [List.length_pos_iff, Printer.typedBytes, Ne, Text.encodeChars_eq_nil_iff]
      exact Typewriter.typed_ne_nil _ hcs
    rw [List.length_append] at hw
    exact h.full hbefore (hw.mono (by omega))

end Mirrors

/-! ## Whole runs -/

/-- What becomes of a call on a sink with a limit, by what becomes of it in memory. -/
structure Call.Fares (L : Option Nat) (c : Call σ ε) (d : Call Buffer Empty) : Prop where
  ok : Within L (taken d.after.sink).length → c.failure = none
  refused : ¬ Within L (taken d.after.sink).length →
    taken d.after.sink ≠ taken d.before.sink →
      ∃ e, c.failure = some e ∧ Refused c.after.sink e.cause

section

variable {c : Command}

theorem Mirrors.call (h : Mirrors L p b) (hc : c.text? = some cs) :
    Mirrors L (p.exec c).after (b.exec c).after ∧ (p.call c).Fares L (b.call c) := by
  have hr := printed_exec h.accepts hc
  have hr' := printed_exec (Buffer.accepts b.sink) hc
  refine ⟨h.printed hr hr', fun hw => ?_, fun hn hne => ?_⟩
  · exact Option.map_eq_none_iff.1 (h.ok hr hr' hw)
  · obtain ⟨e, he, hrefused⟩ := h.refused hr hr' hn hne
    obtain ⟨f, hf, rfl⟩ := Option.map_eq_some_iff.1 he
    exact ⟨f, hf, hrefused⟩

end

mutual

theorem Mirrors.exec {p : Printer σ} {b : Printer Buffer} (h : Mirrors L p b) :
    ∀ c : Command, Mirrors L (p.exec c).after (b.exec c).after ∧
      List.Forall₂ (Call.Fares L) (p.calls c) (b.calls c)
  | .write _ => (h.call rfl).imp_right fun hc => .cons hc .nil
  | .emit _ _ => (h.call rfl).imp_right fun hc => .cons hc .nil
  | .flush => ⟨h.flush, .nil⟩
  | .indent => ⟨h.indent, .nil⟩
  | .unindent => ⟨h.unindent, .nil⟩
  | .indented body => (Mirrors.execAll h.indent body).imp_left Mirrors.unindent

theorem Mirrors.execAll {p : Printer σ} {b : Printer Buffer} (h : Mirrors L p b) :
    ∀ cs : List Command, Mirrors L (p.execAll cs).1 (b.execAll cs).1 ∧
      List.Forall₂ (Call.Fares L) (p.callsAll cs) (b.callsAll cs)
  | [] => ⟨h, .nil⟩
  | c :: cs =>
    have hc := h.exec c
    have hcs := Mirrors.execAll hc.1 cs
    ⟨hcs.1, List.rel_append hc.2 hcs.2⟩

end

/-! ## Runs up to a failure -/

/-- The outcome of attempts that lead to `b` in memory. -/
structure Attempted (L : Option Nat) (b : Printer Buffer)
    (r : Printer σ × Option (CommandError ε)) : Prop where
  ok : Within L (taken b.sink).length → r.2 = none ∧ Mirrors L r.1 b
  refused : ¬ Within L (taken b.sink).length →
    taken r.1.sink = cut L (taken b.sink) ∧ ∃ e, r.2 = some e ∧ Refused r.1.sink e.cause

namespace Attempted

variable {b' : Printer Buffer} {r : Printer σ × Option (CommandError ε)} {e : CommandError ε}

theorem of_mirrors (h : Mirrors L p b) (hw : Within L (taken b.sink).length) :
    Attempted L b (p, none) :=
  ⟨fun _ => ⟨rfl, h⟩, fun hn => absurd hw hn⟩

theorem unindent (h : Attempted L b r) : Attempted L b.unindent (r.1.unindent, r.2) :=
  ⟨fun hw => (h.ok hw).imp_right Mirrors.unindent, h.refused⟩

theorem not_within (h : Attempted L b (q, some e)) : ¬ Within L (taken b.sink).length :=
  fun hw => nomatch (h.ok hw).1

theorem within (h : Attempted L b (q, none)) : Within L (taken b.sink).length := by
  by_cases hw : Within L (taken b.sink).length
  · exact hw
  · obtain ⟨-, e, he, -⟩ := h.refused hw
    exact nomatch he

theorem append (h : Attempted L b (q, some e)) {more : List UInt8}
    (hmore : taken b'.sink = taken b.sink ++ more) : Attempted L b' (q, some e) := by
  have hn := h.not_within
  obtain ⟨htaken, hrefused⟩ := h.refused hn
  refine ⟨fun hw => ?_, fun _ => ⟨?_, hrefused⟩⟩
  · rw [hmore] at hw
    exact absurd (hw.mono (by simp)) hn
  · rw [htaken, hmore, ByteSink.cut_append_of_not_within hn]

end Attempted

theorem Mirrors.attempt_call {c : Command} (h : Mirrors L p b)
    (hw : Within L (taken b.sink).length) (hc : c.text? = some cs) :
    Attempted L (b.exec c).after ((p.exec c).after, (p.exec c).failure) := by
  obtain ⟨hafter, hok, hrefused⟩ := h.call hc
  refine ⟨fun hw' => ⟨hok hw', hafter⟩, fun hn => ⟨hafter.taken_eq, hrefused hn ?_⟩⟩
  intro hsame
  have hsame : taken (b.exec c).after.sink = taken b.sink := hsame
  rw [hsame] at hn
  exact hn hw

mutual

theorem Mirrors.attempt {p : Printer σ} {b : Printer Buffer} (h : Mirrors L p b)
    (hw : Within L (taken b.sink).length) :
    ∀ c : Command, c.flushless = true → Attempted L (b.exec c).after (p.attempt c)
  | .write _, _ => h.attempt_call hw rfl
  | .emit _ _, _ => h.attempt_call hw rfl
  | .indent, _ => .of_mirrors h.indent hw
  | .unindent, _ => .of_mirrors h.unindent hw
  | .indented body, hbody => (Mirrors.attemptAll h.indent hw body hbody).unindent

theorem Mirrors.attemptAll {p : Printer σ} {b : Printer Buffer} (h : Mirrors L p b)
    (hw : Within L (taken b.sink).length) :
    ∀ cs : List Command, Command.flushlessAll cs = true →
      Attempted L (b.execAll cs).1 (p.attemptAll cs)
  | [], _ => .of_mirrors h hw
  | c :: cs, hcs => by
    obtain ⟨hc, hcs⟩ := Bool.and_eq_true_iff.1 hcs
    have hfirst := Mirrors.attempt h hw c hc
    rw [Printer.attemptAll]
    split <;> rename_i ha <;> rw [ha] at hfirst
    · exact Mirrors.attemptAll (hfirst.ok hfirst.within).2 hfirst.within cs hcs
    · have hrest := (InStep.start (Buffer.accepts (b.exec c).after.sink)).execAll cs
      exact hfirst.append hrest.taken_eq

end

/-- **Failures lose nothing, double nothing and move nothing.** However many bytes the sink takes
    at a time, it ends up with the first of the bytes that the same commands put in memory, as many
    as there is room for, whether the commands stop at the first failure or not. A call succeeds as
    long as everything has got through, and any call that prints fails from the first on that goes
    beyond the limit, with the refusal of the sink. -/
theorem outage (h : Accepts L p.sink) (cs : List Command) :
    let all := taken (p.inMemory.execAll cs).1.sink
    taken (p.execAll cs).1.sink = cut L all ∧
      List.Forall₂ (Call.Fares L) (p.callsAll cs) (p.inMemory.callsAll cs) ∧
      (Command.flushlessAll cs = true →
        taken (p.attemptAll cs).1.sink = cut L all ∧
          (Within L all.length → (p.attemptAll cs).2 = none) ∧
          (¬ Within L all.length →
            ∃ e, (p.attemptAll cs).2 = some e ∧
              Refused (p.attemptAll cs).1.sink e.cause)) := by
  have hstart := Mirrors.start h
  obtain ⟨hrun, hcalls⟩ := hstart.execAll cs
  refine ⟨hrun.taken_eq, hcalls, fun hcs => ?_⟩
  have hattempt := hstart.attemptAll h.within cs hcs
  refine ⟨?_, fun hw => (hattempt.ok hw).1, fun hn => (hattempt.refused hn).2⟩
  by_cases hw : Within L (taken (p.inMemory.execAll cs).1.sink).length
  · exact (hattempt.ok hw).2.taken_eq
  · exact (hattempt.refused hw).1

/-- A sink for five bytes that takes one at a time, interrupts and then goes silent. -/
theorem outage_metered :
    let sink : MeteredSink :=
      { limit := some 5, portion := some 1, refusal := .silent, stutters := true }
    let p : Printer MeteredSink := { sink, unit := "\t" }
    let cs : List Command := [.write "ab\n", .indented [.write "cd", .write "e\n"], .write "f"]
    Accepts (some 5) p.sink ∧ Command.flushlessAll cs = true ∧
      taken (p.execAll cs).1.sink = Text.encode "ab\n\tc" ∧
      taken (p.attemptAll cs).1.sink = Text.encode "ab\n\tc" ∧
      ∃ e, (p.attemptAll cs).2 = some e := by
  intro sink p cs
  have h : Accepts (some 5) p.sink := MeteredSink.accepts (by decide) (by decide)
  obtain ⟨hrun, -, hstop⟩ := outage h cs
  obtain ⟨hattempt, -, hfailed⟩ := hstop rfl
  have hmemory : taken (p.inMemory.execAll cs).1.sink = Text.encode "ab\n\tcde\nf" :=
    ((InStep.start (Buffer.accepts p.inMemory.sink)).execAll cs).taken_eq.trans (by decide)
  rw [hmemory] at hrun hattempt hfailed
  obtain ⟨e, he, -⟩ := hfailed (by decide)
  exact ⟨h, rfl, hrun.trans (by decide), hattempt.trans (by decide), e, he⟩

end ScalarStubs
