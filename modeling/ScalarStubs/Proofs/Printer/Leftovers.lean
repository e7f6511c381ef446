/-
  What a write leaves behind, on any sink.

  * `Written p cs r got`: the outcome `r` of printing the characters `cs` with the printer `p` is
    that a typewriter's bytes for them reached the sink as far as `got`, and that the printer then
    stands where the typewriter does, unless the sink failed.
  * `Printer.TookLine` says that a line got through as a whole, and `Leaves` adds to `Written` where
    the printer stands after a failure. `leaves_writePieces` goes through the lines of a text.
  * `Printer.output` is what a text comes to where nothing fails. `write_leftovers`: a write that
    fails leaves a beginning of it in the sink, and the printer at the beginning of a line if it
    stood there before or if a line got through.
-/
import ScalarStubs.Proofs.Printer.Typewriter
import ScalarStubs.Proofs.Sink.Delivery

namespace ScalarStubs

open ByteSink (taken)

/-! ## Lines -/

/-- Only the last line may lack the line feed. -/
theorem Text.getLast?_of_mem_dropLast_lines {cs l : List Char} (h : l ∈ (lines cs).dropLast) :
    l.getLast? = some '\n' := by
  induction cs generalizing l with
  | nil => cases h
  | cons c cs ih =>
    rw [lines] at h
    split at h
    · rename_i hc
      cases hls : lines cs with
      | nil => simp [hls] at h
      | cons k ks =>
        rw [hls] at h ih
        rcases List.mem_cons.1 h with rfl | h
        · rw [hc]
          rfl
        · exact ih h
    · split at h
      · cases h
      · rename_i k ks hls
        rw [hls] at ih
        cases ks with
        | nil => cases h
        | cons m ms =>
          rcases List.mem_cons.1 h with rfl | h
          · rw [List.getLast?_cons, ih (List.mem_cons_self ..)]
            rfl
          · exact ih (List.mem_cons_of_mem _ h)

/-! ## Printers -/

variable {σ ε : Type} {p q : Printer σ} {as bs cs l : List Char} {got more : List UInt8}
  {e : SinkError ε} {r : Printer σ × Option (SinkError ε)}

namespace Printer

/-- What characters come to where nothing fails. -/
def typedBytes (p : Printer σ) (cs : List Char) : List UInt8 :=
  Text.encodeChars (p.typewriter.typed cs)

theorem typedBytes_prefix (p : Printer σ) (h : as <+: bs) :
    p.typedBytes as <+: p.typedBytes bs := by
  obtain ⟨cs, rfl⟩ := h
  rw [typedBytes, typedBytes, Typewriter.typed_append, Text.encodeChars_append]
  exact List.prefix_append ..

/-- Among the bytes are those of a line of the characters, and of all in front of it. -/
def TookLine (p : Printer σ) (cs : List Char) (got : List UInt8) : Prop :=
  ∃ line, line ++ ['\n'] <+: cs ∧ p.typedBytes (line ++ ['\n']) <+: got

theorem tookLine_append_iff (h : got.length < (p.typedBytes as).length) :
    p.TookLine (as ++ bs) got ↔ p.TookLine as got := by
  constructor
  · rintro ⟨line, hline, hgot⟩
    refine ⟨line, ?_, hgot⟩
    rcases List.prefix_or_prefix_of_prefix hline (List.prefix_append as bs) with hle | hle
    · exact hle
    · have := ((p.typedBytes_prefix hle).trans hgot).length_le
      omega
  · rintro ⟨line, hline, hgot⟩
    exact ⟨line, hline.trans (List.prefix_append as bs), hgot⟩

theorem not_tookLine_of_piece (hl : Typewriter.IsPiece l)
    (h : got.length < (p.typedBytes l).length) : ¬ p.TookLine l got := by
  obtain ⟨body, c, rfl, hbody⟩ := hl
  rintro ⟨line, hline, hgot⟩
  rcases List.prefix_concat_iff.1 hline with heq | hin
  · have := hgot.length_le
    rw [heq] at this
    omega
  · exact hbody (hin.subset (by simp))

end Printer

variable [ByteSink σ ε]

/-- The outcome `r` of printing `cs` with the printer `p`, of which the sink took `got`. -/
structure Written (p : Printer σ) (cs : List Char) (r : Printer σ × Option (SinkError ε))
    (got : List UInt8) : Prop where
  unit_eq : r.1.unit = p.unit
  depth_eq : r.1.depth = p.depth
  reached : ByteSink.Reached p.sink (p.typedBytes cs) (r.1.sink, r.2) got
  atLineStart_eq : r.2 = none → r.1.atLineStart = (p.typewriter.typeAll cs).atLineStart

namespace Written

theorem nil (p : Printer σ) : Written p [] (p, none) [] where
  unit_eq := rfl
  depth_eq := rfl
  reached := .nil p.sink
  atLineStart_eq _ := rfl

theorem typewriter_eq (h : Written p cs r got) (hok : r.2 = none) :
    r.1.typewriter = (p.typewriter.typeAll cs).clear :=
  Printer.typewriter_eq h.unit_eq h.depth_eq (h.atLineStart_eq hok)

theorem append (h : Written p as (q, none) more) (h' : Written q bs r got) :
    Written p (as ++ bs) r (p.typedBytes as ++ got) := by
  have hsheet := h.typewriter_eq rfl
  refine ⟨h'.unit_eq.trans h.unit_eq, h'.depth_eq.trans h.depth_eq, ?_, fun hr => ?_⟩
  · have hrest := h'.reached
    rw [Printer.typedBytes, hsheet] at hrest
    rw [Printer.typedBytes, Typewriter.typed_append, Text.encodeChars_append]
    exact h.reached.append hrest
  · rw [Typewriter.typeAll_append, h'.atLineStart_eq hr, hsheet, Typewriter.typeAll_eq,
      Typewriter.typeAll_eq (p.typewriter.typeAll as)]
    rfl

theorem append_of_failed (h : Written p as (q, some e) got) (bs : List Char) :
    Written p (as ++ bs) (q, some e) got := by
  refine ⟨h.unit_eq, h.depth_eq, ?_, nofun⟩
  rw [Printer.typedBytes, Typewriter.typed_append, Text.encodeChars_append]
  exact h.reached.append_of_failed _

end Written

/-- Beside that, a printer that failed is at the beginning of a line if it was there before or if
    the sink took a line. -/
structure Leaves (p : Printer σ) (cs : List Char) (r : Printer σ × Option (SinkError ε))
    (got : List UInt8) : Prop extends Written p cs r got where
  failed : ∀ e, r.2 = some e →
    (r.1.atLineStart = true ↔ p.atLineStart = true ∨ p.TookLine cs got)

namespace Leaves

theorem short (h : Leaves p cs r got) (hr : r.2 = some e) :
    got.length < (p.typedBytes cs).length :=
  (h.reached.failed e hr).1

theorem nil (p : Printer σ) : Leaves p [] (p, none) [] :=
  ⟨.nil p, nofun⟩

/-- Behind a whole line the printer stands at the beginning of one, and whatever fails from there
    on leaves it so. -/
theorem append (h : Leaves p as (q, none) more) (h' : Leaves q bs r got)
    (hline : ∀ e, r.2 = some e → as.getLast? = some '\n') :
    Leaves p (as ++ bs) r (p.typedBytes as ++ got) := by
  refine ⟨h.toWritten.append h'.toWritten, fun e hr => ?_⟩
  obtain ⟨line, rfl⟩ := List.getLast?_eq_some_iff.1 (hline e hr)
  have hstart : q.atLineStart = true := by
    rw [h.atLineStart_eq rfl, Typewriter.typeAll_append]
    rfl
  have htook : p.TookLine (line ++ ['\n'] ++ bs) (p.typedBytes (line ++ ['\n']) ++ got) :=
    ⟨line, List.prefix_append .., List.prefix_append ..⟩
  exact iff_of_true ((h'.failed e hr).2 (Or.inl hstart)) (Or.inr htook)

theorem append_of_failed (h : Leaves p as (q, some e) got) (bs : List Char) :
    Leaves p (as ++ bs) (q, some e) got := by
  refine ⟨h.toWritten.append_of_failed bs, fun f hr => ?_⟩
  rw [Printer.tookLine_append_iff (h.short hr)]
  exact h.failed f hr

end Leaves

theorem Printer.writePiece_eq (p : Printer σ) (l : List Char) :
    p.writePiece l =
      match ByteSink.writeTimes p.sink (Text.encode p.unit) (p.margin l) with
      | (sink, some e) => ({ p with sink }, some e)
      | (sink, none) =>
        match ByteSink.writeAll sink (Text.encodeChars l) with
        | (sink, some e) => ({ p with sink }, some e)
        | (sink, none) => ({ p with sink, atLineStart := l.getLast? == some '\n' }, none) :=
  rfl

theorem leaves_writePiece (p : Printer σ) (hl : Typewriter.IsPiece l) :
    ∃ got, Leaves p l (p.writePiece l) got := by
  have htyped : p.typedBytes l =
      (List.replicate (p.margin l) (Text.encode p.unit)).flatten ++ Text.encodeChars l := by
    rw [Printer.typedBytes, Typewriter.typed_piece _ hl, Text.encodeChars_append,
      Printer.encodeChars_margin]
  -- a piece that fails leaves the flag alone, and no line feed of it got through
  have hfailed : ∀ {sink : σ} {e : SinkError ε} {got : List UInt8},
      ByteSink.Reached p.sink (p.typedBytes l) (sink, some e) got →
        Leaves p l ({ p with sink }, some e) got := by
    intro sink e got h
    refine ⟨⟨rfl, rfl, h, nofun⟩, fun f hr => ?_⟩
    rw [or_iff_left (Printer.not_tookLine_of_piece hl (h.failed f hr).1)]
  obtain ⟨got, hmargin⟩ :=
    ByteSink.reached_writeTimes p.sink (Text.encode p.unit) (p.margin l)
  rw [Printer.writePiece_eq]
  split <;> rename_i sink hm <;> rw [hm] at hmargin
  · exact ⟨got, hfailed (htyped ▸ hmargin.append_of_failed _)⟩
  · obtain ⟨more, hpiece⟩ := ByteSink.reached_writeAll sink (Text.encodeChars l)
    split <;> rename_i ha <;> rw [ha] at hpiece
    · exact ⟨_, hfailed (htyped ▸ hmargin.append hpiece)⟩
    · refine ⟨_, ⟨rfl, rfl, htyped ▸ hmargin.append hpiece, fun _ => ?_⟩, nofun⟩
      exact (Typewriter.atLineStart_piece _ hl).symm

theorem leaves_writePieces (p : Printer σ) {ls : List (List Char)}
    (hls : ∀ l ∈ ls, Typewriter.IsPiece l) (hend : ∀ l ∈ ls.dropLast, l.getLast? = some '\n') :
    ∃ got, Leaves p ls.flatten (p.writePieces ls) got := by
  induction ls generalizing p with
  | nil => exact ⟨[], .nil p⟩
  | cons l ls ih =>
    rw [List.forall_mem_cons] at hls
    obtain ⟨got, hl⟩ := leaves_writePiece p hls.1
    rw [List.flatten_cons, Printer.writePieces]
    split <;> rename_i q hw <;> rw [hw] at hl
    · cases ls with
      | nil => exact ⟨_, hl.append (.nil q) nofun⟩
      | cons k ks =>
        rw [List.dropLast_cons_cons, List.forall_mem_cons] at hend
        obtain ⟨more, hmore⟩ := ih q hls.2 hend.2
        exact ⟨_, hl.append hmore fun _ _ => hend.1⟩
    · exact ⟨got, hl.append_of_failed _⟩

theorem leaves_write (p : Printer σ) (text : String) :
    ∃ got, Leaves p text.toList (p.write text) got := by
  have hpieces : ∀ l ∈ Text.lines text.toList, Typewriter.IsPiece l :=
    fun _ => Typewriter.isPiece_of_mem_lines
  have hall := leaves_writePieces p hpieces fun _ => Text.getLast?_of_mem_dropLast_lines
  rwa [Text.flatten_lines] at hall

/-! ## Texts -/

namespace Printer

omit [ByteSink σ ε]

/-- The bytes that a text comes to where nothing fails. -/
def output (p : Printer σ) (text : String) : List UInt8 :=
  taken ((⟨{}, p.unit, p.depth, p.atLineStart⟩ : Printer Buffer).write text).1.sink

theorem output_eq (p : Printer σ) (text : String) : p.output text = p.typedBytes text.toList := by
  obtain ⟨got, h⟩ := leaves_write (⟨{}, p.unit, p.depth, p.atLineStart⟩ : Printer Buffer) text
  have hdelivered := h.reached.delivered (Buffer.accepts {})
  rw [output, hdelivered.taken_eq, ByteSink.cut_none]
  rfl

theorem tookLine_iff {text : String} :
    p.TookLine text.toList got ↔
      ∃ line rest, text = line ++ "\n" ++ rest ∧ p.output (line ++ "\n") <+: got := by
  constructor
  · rintro ⟨line, ⟨rest, hrest⟩, hgot⟩
    refine ⟨String.ofList line, String.ofList rest, ?_, ?_⟩
    · rw [← String.toList_inj, ← hrest]
      simp
    · rw [output_eq]
      simpa using hgot
  · rintro ⟨line, rest, rfl, hgot⟩
    rw [output_eq] at hgot
    exact ⟨line.toList, by simp, by simpa using hgot⟩

end Printer

/-- **What a write leaves behind.** On any sink, if it fails, the sink took a beginning of what
    was to be written and not all, and the printer stands at the beginning of a line if it stood
    there before or if a line with its line feed got through. If it goes through, all was taken,
    and the end of the text decides. -/
theorem write_leftovers (p : Printer σ) (text : String) :
    let r := p.write text
    let all := p.output text
    r.1.depth = p.depth ∧
    (∀ e, r.2 = some e → ∃ got, taken r.1.sink = taken p.sink ++ got ∧ got <+: all ∧ got ≠ all ∧
      (r.1.atLineStart = true ↔ p.atLineStart = true ∨
        ∃ line rest, text = line ++ "\n" ++ rest ∧ p.output (line ++ "\n") <+: got)) ∧
    (r.2 = none → taken r.1.sink = taken p.sink ++ all ∧
      r.1.atLineStart =
        if text = "" then p.atLineStart else text.toList.getLast? == some '\n') := by
  obtain ⟨got, h⟩ := leaves_write p text
  intro r all
  have hall : all = p.typedBytes text.toList := p.output_eq text
  refine ⟨h.depth_eq, fun e he => ?_, fun hok => ?_⟩
  · have hshort := h.short he
    rw [← hall] at hshort
    refine ⟨got, h.reached.taken_eq, hall ▸ h.reached.isPrefix, ?_, ?_⟩
    · rintro rfl
      exact Nat.lt_irrefl _ hshort
    · rw [← Printer.tookLine_iff]
      exact h.failed e he
  · refine ⟨?_, ?_⟩
    · rw [hall, ← h.reached.ok hok]
      exact h.reached.taken_eq
    · rw [h.atLineStart_eq hok, Typewriter.atLineStart_typeAll]
      simp only [String.toList_eq_nil_iff]
      rfl

/-- A sink that is full behind the margin of the second line. -/
theorem write_leftovers_margin :
    let p : Printer MeteredSink :=
      { sink := { limit := some 4, portion := some 2, refusal := .denied, stutters := true }
        unit := "\t"
        depth := 1
        atLineStart := false }
    let r := p.write "ab\ncd\n"
    (p.write "ab\n").2 = none ∧ (p.write "ab\n").1.atLineStart = true ∧
      ∃ e, r.2 = some e ∧ r.1.depth = 1 ∧ taken r.1.sink = Text.encode "ab\n\t" ∧
        r.1.atLineStart = true := by
  intro p r
  have haccepts : ByteSink.Accepts (some 4) p.sink := MeteredSink.accepts (by decide) (by decide)
  obtain ⟨_, hone⟩ := leaves_write p "ab\n"
  obtain ⟨_, htwo⟩ := leaves_write p "ab\ncd\n"
  have hline : (p.write "ab\n").2 = none := (hone.reached.delivered haccepts).ok (by decide)
  have hboth := htwo.reached.delivered haccepts
  have htaken : taken r.1.sink = Text.encode "ab\n\t" := hboth.taken_eq.trans (by decide)
  obtain ⟨e, he, -⟩ := hboth.refused (by decide)
  obtain ⟨hdepth, hfailed, -⟩ := write_leftovers p "ab\ncd\n"
  obtain ⟨got, hgot, -, -, hflag⟩ := hfailed e he
  have houtput : p.output ("ab" ++ "\n") <+: got := by
    rw [Printer.output_eq, show got = Text.encode "ab\n\t" from hgot.symm.trans htaken]
    decide
  exact ⟨hline, ((write_leftovers p "ab\n").2.2 hline).2.trans (by decide), e, he, hdepth, htaken,
    hflag.2 (Or.inr ⟨"ab", "cd\n", by decide, houtput⟩)⟩

end ScalarStubs
