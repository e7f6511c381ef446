/-
  The shape of a status check.

  * `LineAndGap`: one line that is not blank, and then an empty line. A margin does not change
    whether a text has this shape.
  * `newline_mem_line_iff`: the line of a status check is broken by line feeds in the success value,
    and by nothing else that settings without a fault can hold.
  * `status_check_line`: so settings that were read from a file yield one line and an empty one,
    unless the success value has a line feed in it and is asked for.
-/
import ScalarStubs.Proofs.Printer.Shapes
import ScalarStubs.Proofs.Rendering.Depth
import ScalarStubs.Proofs.Settings.RoundTrip

namespace ScalarStubs

/-! ## One line and an empty one -/

namespace Text

variable {l m cs : List Char}

/-- One line that is not blank, ended by a line feed, and then an empty line. -/
def LineAndGap (cs : List Char) : Prop :=
  ∃ l, cs = l ++ ['\n', '\n'] ∧ '\n' ∉ l ∧ ∃ c ∈ l, isBlank c = false

theorem lineAndGap_append_iff :
    LineAndGap (l ++ ['\n', '\n']) ↔ '\n' ∉ l ∧ ∃ c ∈ l, isBlank c = false := by
  constructor
  · rintro ⟨l', hl', h⟩
    rwa [List.append_cancel_right hl']
  · exact fun h => ⟨l, rfl, h⟩

theorem lineAndGap_iff_splitOn :
    LineAndGap cs ↔ ∃ l, cs.splitOn '\n' = [l, [], []] ∧ ∃ c ∈ l, isBlank c = false := by
  have hjoin : ∀ l : List Char, ['\n'].intercalate [l, [], []] = l ++ ['\n', '\n'] := fun l => by
    simp [List.intercalate_cons_cons]
  constructor
  · rintro ⟨l, rfl, hl, hc⟩
    refine ⟨l, ?_, hc⟩
    rw [← hjoin, List.splitOn_intercalate '\n' (by simp [hl]) (by simp)]
  · rintro ⟨l, hl, hc⟩
    have hmem : l ∈ cs.splitOn '\n' := by simp [hl]
    refine ⟨l, ?_, not_mem_of_mem_splitOn hmem, hc⟩
    rw [← hjoin, ← hl, List.intercalate_splitOn]

theorem behind_eq_nil_iff : behind m l = [] ↔ l = [] := by
  by_cases h : l = [] <;> simp [behind, h]

theorem exists_not_blank_behind (hm : IsMargin m) :
    (∃ c ∈ behind m l, isBlank c = false) ↔ ∃ c ∈ l, isBlank c = false := by
  have hblank : ∀ c ∈ m, ¬ isBlank c = false := by
    intro c hc
    rcases hm c hc with rfl | rfl <;> decide
  by_cases h : l = []
  · simp [behind, h]
  · rw [behind, if_neg h]
    simp only [List.mem_append, or_and_right, exists_or]
    refine or_iff_right ?_
    rintro ⟨c, hc, hb⟩
    exact hblank c hc hb

/-- **A margin keeps the shape.** -/
theorem lineAndGap_mapLines_iff (hm : IsMargin m) :
    LineAndGap (mapLines (behind m) cs) ↔ LineAndGap cs := by
  rw [lineAndGap_iff_splitOn, lineAndGap_iff_splitOn, splitOn_mapLines hm.keepsLines]
  constructor
  · rintro ⟨l', hl', hc⟩
    obtain ⟨l, ls, hcs, rfl, hls⟩ := List.map_eq_cons_iff.1 hl'
    obtain ⟨x, xs, rfl, hx, hxs⟩ := List.map_eq_cons_iff.1 hls
    obtain ⟨y, ys, rfl, hy, hys⟩ := List.map_eq_cons_iff.1 hxs
    rw [behind_eq_nil_iff] at hx hy
    rw [List.map_eq_nil_iff] at hys
    subst hx hy hys
    exact ⟨l, hcs, (exists_not_blank_behind hm).1 hc⟩
  · rintro ⟨l, hl, hc⟩
    exact ⟨behind m l, by rw [hl]; rfl, (exists_not_blank_behind hm).2 hc⟩

end Text

/-! ## The line of a status check -/

namespace ErrorPolicy

theorem toList_text (s : Settings) (p : ErrorPolicy) :
    (p.text s).toList = (p.line s).toList ++ ['\n', '\n'] :=
  String.toList_append

theorem exists_not_blank_line (s : Settings) (p : ErrorPolicy) :
    ∃ c ∈ (p.line s).toList, Text.isBlank c = false := by
  cases p with
  | ignore => exact ⟨'/', by simp [line], by decide⟩
  | _ => exact ⟨'i', by simp [line], by decide⟩

theorem newline_mem_line_iff {s : Settings} (hs : s.fault? = none) (p : ErrorPolicy) :
    '\n' ∈ (p.line s).toList ↔ p ≠ ignore ∧ '\n' ∈ s.okStatus.toList := by
  have hname : ∀ name, isIdentifier name = true → '\n' ∉ name.toList := fun name h hmem =>
    absurd (Settings.isIdentifierRest_of_mem h _ hmem) (by decide)
  obtain ⟨hstatus, hlabel, -⟩ := Settings.fault?_eq_none_iff.1 hs
  have hstatus := hname _ hstatus
  have hlabel := hname _ hlabel
  cases p <;> simp [line, hstatus, hlabel]

end ErrorPolicy

theorem Settings.fault?_of_ofToml {text : String} {s : Settings} (h : ofToml text = .ok s) :
    s.fault? = none := by
  unfold ofToml at h
  split at h
  · exact nomatch h
  · obtain ⟨t, -, ht⟩ := bind_eq_ok_iff.1 h
    unfold validate at ht
    split at ht
    · rename_i hfault
      rwa [← Except.ok.inj ht]
    · exact nomatch ht

open ByteSink (Accepts taken)

variable {σ ε : Type} [ByteSink σ ε] {p : Printer σ}

theorem taken_statusCheck (s : Settings) (h : Accepts none p.sink) (hstart : p.atLineStart = true)
    (policy : ErrorPolicy) :
    (p.emit s (.statusCheck policy)).2 = none ∧
      taken (p.emit s (.statusCheck policy)).1.sink =
        taken p.sink ++ Text.encode
          (Text.indentLines (Text.margin p.unit p.depth) (policy.text s)) := by
  obtain ⟨hok, htaken⟩ := emit_output h s (.statusCheck policy)
  rw [Statement.join_pieces, Printer.output_eq_encode hstart] at htaken
  exact ⟨hok, htaken⟩

/-- **A status check is one line and an empty one**, for all settings that can be read and at each
    depth, if the failure is ignored or the success value has no line feed in it, and only then. -/
theorem status_check_line {text : String} {s : Settings} (hs : Settings.ofToml text = .ok s)
    (h : Accepts none p.sink) (hstart : p.atLineStart = true) (hunit : p.unit = s.indent)
    (policy : ErrorPolicy) :
    let shown := Text.indentLines (Text.margin s.indent p.depth) (policy.text s)
    (p.emit s (.statusCheck policy)).2 = none ∧
      taken (p.emit s (.statusCheck policy)).1.sink = taken p.sink ++ Text.encode shown ∧
      (Text.LineAndGap shown.toList ↔ policy = .ignore ∨ '\n' ∉ s.okStatus.toList) := by
  intro shown
  have hfault := Settings.fault?_of_ofToml hs
  have hmargin := Text.isMargin_margin (Settings.isMargin_indent hfault) p.depth
  obtain ⟨hok, htaken⟩ := taken_statusCheck s h hstart policy
  rw [hunit] at htaken
  refine ⟨hok, htaken, ?_⟩
  show Text.LineAndGap (Text.indentLines (Text.margin s.indent p.depth) (policy.text s)).toList ↔ _
  rw [Text.indentLines, String.toList_ofList, Text.lineAndGap_mapLines_iff hmargin,
    ErrorPolicy.toList_text, Text.lineAndGap_append_iff, ErrorPolicy.newline_mem_line_iff hfault,
    not_and_or, not_not, and_iff_left (policy.exists_not_blank_line s)]

/-- Two levels of tabs on a sink that takes two bytes at a time, with a success value that fits on a
    line, and one that does not but is not asked for. -/
theorem status_check_line_tabs :
    let p : Printer MeteredSink :=
      { sink := { portion := some 2, stutters := true }, unit := "\t", depth := 2 }
    let s : Settings := { okStatus := "OK", indent := "\t" }
    let s' : Settings := { okStatus := "O\nK", indent := "\t" }
    Settings.ofToml "ok_status = 'OK'\nindent = '\t'" = .ok s ∧
      Settings.ofToml "ok_status = \"O\\nK\"\nindent = \"\\t\"" = .ok s' ∧
      Accepts none p.sink ∧
      taken (p.emit s (.statusCheck .leaveLoop)).1.sink =
        Text.encode "\t\tif (_hidl_err != OK) \x7b break; \x7d\n\n" ∧
      Text.LineAndGap "\t\tif (_hidl_err != OK) \x7b break; \x7d\n\n".toList ∧
      Text.LineAndGap "\t\t/* _hidl_err ignored! */\n\n".toList := by
  intro p s s'
  have hs : Settings.ofToml "ok_status = 'OK'\nindent = '\t'" = .ok s := by decide +kernel
  have hs' : Settings.ofToml "ok_status = \"O\\nK\"\nindent = \"\\t\"" = .ok s' := by decide +kernel
  have h : Accepts none p.sink := MeteredSink.accepts (by decide) nofun
  obtain ⟨-, htaken, hshape⟩ := status_check_line hs h rfl rfl .leaveLoop
  obtain ⟨-, -, hshape'⟩ := status_check_line hs' h rfl rfl .ignore
  have hshown : Text.indentLines (Text.margin "\t" 2) (ErrorPolicy.leaveLoop.text s) =
      "\t\tif (_hidl_err != OK) \x7b break; \x7d\n\n" := by decide +kernel
  have hshown' : Text.indentLines (Text.margin "\t" 2) (ErrorPolicy.ignore.text s') =
      "\t\t/* _hidl_err ignored! */\n\n" := by decide +kernel
  rw [hshown] at htaken hshape
  rw [hshown'] at hshape'
  exact ⟨hs, hs', h, htaken, hshape.2 (Or.inr (by decide)), hshape'.2 (Or.inl rfl)⟩

/-- A success value on a line of its own is read with the end of that line, which then stands in the
    middle of the check. -/
theorem status_check_broken :
    let text := "ok_status = \"\"\"\n::android::OK\n\"\"\"\n"
    let s : Settings := { okStatus := "::android::OK\n" }
    let p : Printer Buffer := { sink := {}, unit := s.indent }
    let shown := "if (_hidl_err != ::android::OK\n) \x7b break; \x7d\n\n"
    Settings.ofToml text = .ok s ∧
      taken (p.emit s (.statusCheck .leaveLoop)).1.sink = Text.encode shown ∧
      ¬ Text.LineAndGap shown.toList := by
  intro text s p shown
  have hs : Settings.ofToml text = .ok s := by decide +kernel
  have hshown : Text.indentLines (Text.margin p.unit p.depth) (ErrorPolicy.leaveLoop.text s) =
      shown := by decide +kernel
  obtain ⟨-, htaken⟩ := taken_statusCheck (p := p) s (Buffer.accepts p.sink) rfl .leaveLoop
  rw [hshown] at htaken
  refine ⟨hs, htaken, ?_⟩
  have hline : shown.toList = (ErrorPolicy.leaveLoop.line s).toList ++ ['\n', '\n'] := by
    decide +kernel
  rw [hline, Text.lineAndGap_append_iff, ErrorPolicy.newline_mem_line_iff (by decide)]
  decide

end ScalarStubs
