/-
  Printing on a sink, beside a typewriter.

  * `Printed L p cs r`: the outcome `r` of printing the characters `cs` is that what a typewriter
    would type is delivered to the sink, and that the printer then stands where the typewriter
    does, unless the sink failed. On a sink that accepts up to a limit this is what `Written` comes
    to (`Written.printed`).
  * `printed_exec`: each command that prints, prints its text, in however many pieces.
  * `execAll_typewriter`: on a sink that never refuses, a printer does what a typewriter does.
-/
import ScalarStubs.Proofs.Printer.Leftovers

namespace ScalarStubs

/-! ## Ends of texts -/

namespace Text

variable {cs : List Char}

theorem getLast?_utf8EncodeChar (c : Char) :
    (String.utf8EncodeChar c).getLast? = some 10 ↔ c = '\n' := by
  have hval : c = '\n' ↔ c.val.toNat = 10 := by
    rw [← Char.toNat_inj]
    rfl
  have hbyte : ∀ n : Nat, UInt8.ofNat n = 10 ↔ n % 256 = 10 := fun n => by
    rw [← UInt8.toNat_inj, UInt8.toNat_ofNat']
    rfl
  rw [hval]
  unfold String.utf8EncodeChar
  generalize c.val.toNat = v
  dsimp only
  split_ifs <;>
    rw [List.getLast?_eq_some_getLast (by simp)] <;>
    simp only [List.getLast_cons_cons, List.getLast_singleton, Option.some_inj, hbyte] <;>
    omega

theorem encodeChars_eq_nil_iff : encodeChars cs = [] ↔ cs = [] := by
  cases cs with
  | nil => exact ⟨fun _ => rfl, fun _ => rfl⟩
  | cons c cs => simp [encodeChars, String.utf8EncodeChar_ne_nil]

theorem getLast?_encodeChars (cs : List Char) :
    (encodeChars cs).getLast? = some 10 ↔ cs.getLast? = some '\n' := by
  rcases List.eq_nil_or_concat cs with rfl | ⟨cs, c, rfl⟩
  · exact ⟨nofun, nofun⟩
  · have hone : encodeChars [c] = String.utf8EncodeChar c := List.append_nil _
    rw [List.concat_eq_append, encodeChars_append, hone, List.getLast?_append,
      List.getLast?_eq_some_getLast String.utf8EncodeChar_ne_nil, Option.some_or,
      ← List.getLast?_eq_some_getLast, getLast?_utf8EncodeChar, List.getLast?_concat,
      Option.some_inj]

end Text

/-! ## Printing -/

open ByteSink (Accepts Delivered taken)

variable {σ ε : Type} [ByteSink σ ε] {L : Option Nat} {p q : Printer σ} {cs : List Char}
  {r : Printer σ × Option (SinkError ε)}

/-- The outcome `r` of printing `cs` with the printer `p`. -/
structure Printed (L : Option Nat) (p : Printer σ) (cs : List Char)
    (r : Printer σ × Option (SinkError ε)) : Prop where
  unit_eq : r.1.unit = p.unit
  depth_eq : r.1.depth = p.depth
  delivered : Delivered L p.sink (p.typedBytes cs) (r.1.sink, r.2)
  atLineStart_eq : r.2 = none → r.1.atLineStart = (p.typewriter.typeAll cs).atLineStart

namespace Printed

theorem accepts (hr : Printed L p cs r) (h : Accepts L p.sink) : Accepts L r.1.sink :=
  h.offered hr.delivered.offered

theorem ok_of_none (hr : Printed none p cs r) : r.2 = none :=
  hr.delivered.ok nofun

theorem taken_of_none (hr : Printed none p cs r) :
    taken r.1.sink = taken p.sink ++ p.typedBytes cs := by
  rw [hr.delivered.taken_eq, ByteSink.cut_none]

theorem typewriter_eq (hr : Printed L p cs r) (hok : r.2 = none) :
    r.1.typewriter = (p.typewriter.typeAll cs).clear :=
  Printer.typewriter_eq hr.unit_eq hr.depth_eq (hr.atLineStart_eq hok)

end Printed

theorem Written.printed {got : List UInt8} (h : Written p cs r got) (hp : Accepts L p.sink) :
    Printed L p cs r :=
  ⟨h.unit_eq, h.depth_eq, h.reached.delivered hp, h.atLineStart_eq⟩

theorem printed_write (h : Accepts L p.sink) (text : String) :
    Printed L p text.toList (p.write text) := by
  obtain ⟨got, hgot⟩ := leaves_write p text
  exact hgot.toWritten.printed h

theorem written_writeEach (p : Printer σ) (ts : List String) :
    ∃ got, Written p (ts.flatMap String.toList) (p.writeEach ts) got := by
  induction ts generalizing p with
  | nil => exact ⟨[], .nil p⟩
  | cons t ts ih =>
    obtain ⟨got, ht⟩ := leaves_write p t
    rw [List.flatMap_cons, Printer.writeEach]
    split <;> rename_i q hw <;> rw [hw] at ht
    · obtain ⟨more, hmore⟩ := ih q
      exact ⟨_, ht.toWritten.append hmore⟩
    · exact ⟨got, ht.toWritten.append_of_failed _⟩

theorem printed_writeEach (h : Accepts L p.sink) (ts : List String) :
    Printed L p (ts.flatMap String.toList) (p.writeEach ts) := by
  obtain ⟨got, hgot⟩ := written_writeEach p ts
  exact hgot.printed h

/-- Texts come to what they come to as one text. -/
theorem writeEach_output (h : Accepts none p.sink) (ts : List String) :
    (p.writeEach ts).2 = none ∧
      taken (p.writeEach ts).1.sink = taken p.sink ++ p.output (String.join ts) := by
  have heach := printed_writeEach h ts
  refine ⟨heach.ok_of_none, ?_⟩
  rw [heach.taken_of_none, Printer.output_eq, String.toList_join]

theorem printed_emit (h : Accepts L p.sink) (s : Settings) (stmt : Statement) :
    Printed L p ((stmt.pieces s).flatMap String.toList)
      ((p.emit s stmt).1, (p.emit s stmt).2.map EmitError.cause) := by
  have heach := printed_writeEach h (stmt.pieces s)
  show Printed L p _ ((p.writeEach (stmt.pieces s)).1,
    ((p.writeEach (stmt.pieces s)).2.map .mk).map EmitError.cause)
  rwa [Option.map_map, show EmitError.cause ∘ .mk = id from rfl, Option.map_id]

/-- A statement comes to what its pieces come to as one text. -/
theorem emit_output (h : Accepts none p.sink) (s : Settings) (stmt : Statement) :
    (p.emit s stmt).2 = none ∧
      taken (p.emit s stmt).1.sink = taken p.sink ++ p.output (String.join (stmt.pieces s)) := by
  obtain ⟨hok, htaken⟩ := writeEach_output h (stmt.pieces s)
  exact ⟨congrArg (Option.map EmitError.mk) hok, htaken⟩

/-! ## Commands -/

/-- The characters that a command prints, if it does print. -/
def Command.text? : Command → Option (List Char)
  | write text => some text.toList
  | emit s stmt => some ((stmt.pieces s).flatMap String.toList)
  | _ => none

variable {c : Command}

theorem printed_exec (h : Accepts L p.sink) (hc : c.text? = some cs) :
    Printed L p cs ((p.exec c).after, (p.exec c).failure.map CommandError.cause) := by
  cases c with
  | write text =>
    obtain rfl := Option.some.inj hc
    have hwrite := printed_write h text
    show Printed L p _ ((p.write text).1, ((p.write text).2.map .sink).map CommandError.cause)
    rwa [Option.map_map, show CommandError.cause ∘ .sink = id from rfl, Option.map_id]
  | emit s stmt =>
    obtain rfl := Option.some.inj hc
    have hemit := printed_emit h s stmt
    show Printed L p _ ((p.emit s stmt).1, ((p.emit s stmt).2.map .emit).map CommandError.cause)
    rwa [Option.map_map]
  | _ => exact nomatch hc

/-! ## Sinks that never refuse -/

/-- The printer stands where the typewriter does, and the paper is what came behind `before`. -/
structure InStep (before : List UInt8) (p : Printer σ) (t : Typewriter) : Prop where
  accepts : Accepts none p.sink
  typewriter_eq : p.typewriter = t.clear
  taken_eq : taken p.sink = before ++ Text.encodeChars t.paper

namespace InStep

variable {before : List UInt8} {t : Typewriter}

theorem start (h : Accepts none p.sink) : InStep (taken p.sink) p p.typewriter where
  accepts := h
  typewriter_eq := rfl
  taken_eq := (List.append_nil _).symm

theorem printed (h : InStep before p t) (hr : Printed none p cs r) :
    r.2 = none ∧ InStep before r.1 (t.typeAll cs) := by
  have hok := hr.ok_of_none
  have htyped : p.typedBytes cs = Text.encodeChars (t.typed cs) := by
    rw [Printer.typedBytes, h.typewriter_eq]
    rfl
  refine ⟨hok, hr.accepts h.accepts, ?_, ?_⟩
  · rw [hr.typewriter_eq hok, h.typewriter_eq, Typewriter.typeAll_eq t]
    rfl
  · rw [hr.taken_of_none, htyped, h.taken_eq, List.append_assoc, Typewriter.paper_typeAll,
      Text.encodeChars_append]

theorem indent (h : InStep before p t) : InStep before p.indent t.indent where
  accepts := h.accepts
  typewriter_eq := congrArg Typewriter.indent h.typewriter_eq
  taken_eq := h.taken_eq

theorem unindent (h : InStep before p t) : InStep before p.unindent t.unindent where
  accepts := h.accepts
  typewriter_eq := congrArg Typewriter.unindent h.typewriter_eq
  taken_eq := h.taken_eq

theorem flush (h : InStep before p t) : InStep before p.flush.1 t where
  accepts := h.accepts.offered (.flush .refl)
  typewriter_eq := h.typewriter_eq
  taken_eq := (ByteSink.taken_flush p.sink).trans h.taken_eq

end InStep

mutual

theorem InStep.exec {before : List UInt8} {p : Printer σ} {t : Typewriter}
    (h : InStep before p t) : ∀ c : Command, InStep before (p.exec c).after (t.exec c)
  | .write text => (h.printed (printed_write h.accepts text)).2
  | .emit s stmt => (h.printed (printed_emit h.accepts s stmt)).2
  | .flush => h.flush
  | .indent => h.indent
  | .unindent => h.unindent
  | .indented body => (InStep.execAll h.indent body).unindent

theorem InStep.execAll {before : List UInt8} {p : Printer σ} {t : Typewriter}
    (h : InStep before p t) : ∀ cs : List Command, InStep before (p.execAll cs).1 (t.execAll cs)
  | [] => h
  | c :: cs => InStep.execAll (h.exec c) cs

end

/-- Two printers that wrote the same and would go on alike. -/
structure Printer.Alike (p q : Printer σ) : Prop where
  taken_eq : taken p.sink = taken q.sink
  unit_eq : p.unit = q.unit
  depth_eq : p.depth = q.depth
  atLineStart_eq : p.atLineStart = q.atLineStart

namespace InStep

variable {before : List UInt8} {t : Typewriter}

theorem unit_eq (h : InStep before p t) : p.unit = t.unit :=
  congrArg Typewriter.unit h.typewriter_eq

theorem depth_eq (h : InStep before p t) : p.depth = t.depth :=
  congrArg Typewriter.depth h.typewriter_eq

theorem atLineStart_eq (h : InStep before p t) : p.atLineStart = t.atLineStart :=
  congrArg Typewriter.atLineStart h.typewriter_eq

theorem alike (h : InStep before p t) (h' : InStep before q t) : p.Alike q where
  taken_eq := h.taken_eq.trans h'.taken_eq.symm
  unit_eq := h.unit_eq.trans h'.unit_eq.symm
  depth_eq := h.depth_eq.trans h'.depth_eq.symm
  atLineStart_eq := h.atLineStart_eq.trans h'.atLineStart_eq.symm

theorem tracks (h : InStep before p t) (ht : t.Tracks) :
    p.atLineStart = true ↔
      Text.encodeChars t.paper = [] ∨ (Text.encodeChars t.paper).getLast? = some 10 := by
  rw [h.atLineStart_eq, Text.encodeChars_eq_nil_iff, Text.getLast?_encodeChars]
  exact ht

end InStep

/-- **A printer is a typewriter** on a sink that never refuses: whatever it is told, it writes
    what the typewriter types and stands where the typewriter does. So a text may be written in
    two pieces, and a printer that began at the beginning of a line knows whether it is there. -/
theorem execAll_typewriter (h : Accepts none p.sink) :
    (∀ cs : List Command,
      let q := (p.execAll cs).1
      let t := p.typewriter.execAll cs
      taken q.sink = taken p.sink ++ Text.encodeChars t.paper ∧
        q.unit = t.unit ∧ q.depth = t.depth ∧ q.atLineStart = t.atLineStart) ∧
    (∀ a b : String,
      let q := (p.write a).1
      (p.write a).2 = none ∧ (q.write b).2 = none ∧ (p.write (a ++ b)).2 = none ∧
        (q.write b).1.Alike (p.write (a ++ b)).1) ∧
    (p.atLineStart = true → ∀ cs : List Command, ∃ written,
      taken (p.execAll cs).1.sink = taken p.sink ++ written ∧
        ((p.execAll cs).1.atLineStart = true ↔
          written = [] ∨ written.getLast? = some 10)) := by
  have hstart := InStep.start h
  refine ⟨fun cs => ?_, fun a b => ?_, fun hflag cs => ?_⟩
  · have hrun := hstart.execAll cs
    exact ⟨hrun.taken_eq, hrun.unit_eq, hrun.depth_eq, hrun.atLineStart_eq⟩
  · obtain ⟨ha, hq⟩ := hstart.printed (printed_write h a)
    obtain ⟨hb, hab⟩ := hq.printed (printed_write hq.accepts b)
    obtain ⟨hone, hall⟩ := hstart.printed (printed_write h (a ++ b))
    rw [String.toList_append, Typewriter.typeAll_append] at hall
    exact ⟨ha, hb, hone, hab.alike hall⟩
  · have hrun := hstart.execAll cs
    exact ⟨_, hrun.taken_eq, hrun.tracks (.execAll (Printer.tracks_typewriter hflag) cs)⟩

/-- Lines in pieces, and statements under different settings, on a sink that takes two bytes at a
    time and interrupts. -/
theorem execAll_typewriter_metered :
    let p : Printer MeteredSink := { sink := { portion := some 2, stutters := true }, unit := "\t" }
    let check : Settings → Command := fun s => .emit s (.statusCheck .ignore)
    let cs : List Command :=
      [.write "a\n", .indented [.write "b", .write "\n\nc", check { statusVar := "x" }],
        check { statusVar := "y" }, .write "d"]
    Accepts none p.sink ∧
      taken (p.execAll cs).1.sink = Text.encode
        "a\n\tb\n\n\tc/* x ignored! */\n\n/* y ignored! */\n\nd" ∧
      (p.execAll cs).1.depth = 0 ∧ (p.execAll cs).1.atLineStart = false ∧
      ∃ written, taken (p.execAll cs).1.sink = written ∧
        ((p.execAll cs).1.atLineStart = true ↔
          written = [] ∨ written.getLast? = some 10) := by
  intro p check cs
  have h : Accepts none p.sink := MeteredSink.accepts (by decide) nofun
  obtain ⟨hrun, -, htracks⟩ := execAll_typewriter h
  obtain ⟨htaken, -, hdepth, hflag⟩ := hrun cs
  exact ⟨h, htaken.trans (by decide +kernel), hdepth, hflag, htracks rfl cs⟩

end ScalarStubs
