/-
  What is rendered.

  * `typed_eq_mapLines`: a typewriter at the beginning of a line types each line behind its margin,
    and an empty line as it is.
  * `Printer.output_eq_encode`: what a printer at the beginning of a line makes of a text.
  * `Settings.render_eq`: so rendering puts texts in a row and sets their lines behind the margin
    of the depth. It never fails.
-/
import ScalarStubs.Proofs.Printer.Printed
import ScalarStubs.Proofs.Text.ByLine
import ScalarStubs.Rendering

namespace ScalarStubs

namespace Typewriter

variable {t : Typewriter}

theorem typed_line (ht : t.atLineStart = true) {l : List Char} (hl : '\n' ∉ l) :
    t.typed (l ++ ['\n']) = Text.behind t.margin l ++ ['\n'] ∧
      (t.typeAll (l ++ ['\n'])).atLineStart = true := by
  have hpiece : IsPiece (l ++ ['\n']) := ⟨l, '\n', rfl, hl⟩
  refine ⟨?_, ?_⟩
  · rw [typed_piece t hpiece, ht, Text.behind]
    by_cases h : l = [] <;> simp [h]
  · rw [atLineStart_piece t hpiece, List.getLast?_concat]
    rfl

theorem typed_lastLine (ht : t.atLineStart = true) {l : List Char} (hl : '\n' ∉ l) :
    t.typed l = Text.behind t.margin l := by
  rcases List.eq_nil_or_concat l with rfl | ⟨body, c, rfl⟩
  · rfl
  · rw [List.concat_eq_append, List.mem_append, not_or] at hl
    have hc : c ≠ '\n' := by simpa [eq_comm] using hl.2
    rw [List.concat_eq_append, typed_piece t ⟨body, c, rfl, hl.1⟩, ht, Text.behind]
    cases body <;> simp [hc]

theorem typed_intercalate {t : Typewriter} (ht : t.atLineStart = true) :
    ∀ {ls : List (List Char)}, (∀ l ∈ ls, '\n' ∉ l) →
      t.typed (['\n'].intercalate ls) = ['\n'].intercalate (ls.map (Text.behind t.margin))
  | [], _ => rfl
  | [l], h => by
    rw [List.map_singleton, List.intercalate_singleton, List.intercalate_singleton]
    exact typed_lastLine ht (h l (by simp))
  | l :: k :: ls, h => by
    obtain ⟨hline, hstart⟩ := typed_line ht (h l (by simp))
    have hks : ∀ m ∈ k :: ls, '\n' ∉ m := fun m hm => h m (List.mem_cons_of_mem l hm)
    have hrest := typed_intercalate hstart hks
    have hmargin : (t.typeAll (l ++ ['\n'])).margin = t.margin := by simp [margin]
    rw [List.intercalate_cons_cons, typed_append, hline, hrest, hmargin]
    simp only [List.map_cons, List.intercalate_cons_cons]

/-- **Each line stands behind the margin**, unless it is empty. -/
theorem typed_eq_mapLines (ht : t.atLineStart = true) (cs : List Char) :
    t.typed cs = Text.mapLines (Text.behind t.margin) cs := by
  have hlines : ∀ l ∈ cs.splitOn '\n', '\n' ∉ l := fun l => Text.not_mem_of_mem_splitOn
  have h := typed_intercalate ht hlines
  rwa [List.intercalate_splitOn] at h

end Typewriter

/-- What a text comes to at the beginning of a line. -/
theorem Printer.output_eq_encode {σ : Type} {p : Printer σ} (hp : p.atLineStart = true)
    (text : String) :
    p.output text = Text.encode (Text.indentLines (Text.margin p.unit p.depth) text) := by
  rw [output_eq, typedBytes, Typewriter.typed_eq_mapLines hp, Text.encode, Text.indentLines,
    String.toList_ofList]
  rfl

/-- **Rendering never fails**, and all that it adds to the texts are margins. -/
theorem Settings.render_eq (s : Settings) (depth : Nat) (texts : List String) :
    s.render depth texts =
      .ok (Text.indentLines (Text.margin s.indent depth) (String.join texts)) := by
  obtain ⟨hok, htaken⟩ := writeEach_output (Buffer.accepts (s.printer depth).sink) texts
  rw [Printer.output_eq_encode rfl, show ByteSink.taken (s.printer depth).sink = [] from rfl,
    List.nil_append] at htaken
  rw [render]
  generalize (s.printer depth).writeEach texts = r at hok htaken
  obtain ⟨p, e⟩ := r
  obtain rfl : e = none := hok
  have htext : p.sink.text? =
      some (Text.indentLines (Text.margin s.indent depth) (String.join texts)) := by
    show Text.decode? (ByteSink.taken p.sink) = _
    rw [htaken]
    exact Text.decode?_encode _
  simp only [htext]

end ScalarStubs
