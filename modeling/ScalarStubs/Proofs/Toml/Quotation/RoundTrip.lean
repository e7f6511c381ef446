/-
  Quotations, written and read back.

  * `Spells q w cs`: `w` writes `cs` unit by unit, with few enough marks in front of each unit that
    nobody takes them for the end. `body_of_spells`: such a text is read back.
  * `spells_content`: what is written between the marks spells the text, whichever are chosen.
  * `Quotable`: the texts that can be written. `text_quote`: such a text is read back as it was.
-/
import ScalarStubs.Proofs.Toml.Quotation.Units
import ScalarStubs.Proofs.Toml.Reader

namespace ScalarStubs.Toml

open Reader

namespace Quotation

variable {q : Quotation} {cs ws rest : List Char} {c : Char}

/-! ## What is written -/

/-- `w` writes `cs` unit by unit, and nowhere in front of a unit there are enough marks for an
    end. -/
inductive Spells (q : Quotation) : List Char → List Char → Prop where
  | nil : Spells q [] []
  | cons {u w t cs : List Char} (read : ∀ rest, q.unit (u ++ rest) = some (t, rest))
      (marks : frontRun q.mark.char (u ++ w) ≤ q.marksAllowed) (behind : Spells q w cs) :
      Spells q (u ++ w) (t ++ cs)

theorem Spells.frontRun_le {w : List Char} (h : Spells q w cs) :
    frontRun q.mark.char w ≤ q.marksAllowed := by
  cases h with
  | nil => exact Nat.zero_le _
  | cons read marks behind => exact marks

/-- Marks write themselves. -/
theorem Spells.eq_of_marks {w : List Char} (h : Spells q w cs) (hw : ∀ c ∈ w, c = q.mark.char) :
    cs = w := by
  induction h with
  | nil => rfl
  | @cons u w t cs read marks behind ih =>
    cases u with
    | nil => exact nomatch read []
    | cons c u =>
      obtain rfl : c = q.mark.char := hw c (by simp)
      have hone := (unit_mark q u).symm.trans (by simpa using read [])
      obtain ⟨rfl, rfl⟩ : [q.mark.char] = t ∧ u = [] := by simpa using hone
      rw [ih fun c hc => hw c (by simp [hc])]

theorem body_of_close {r : List Char × List Char} (h : q.close cs = some r) :
    q.body cs = some r := by
  rw [body, h]

theorem body_of_unit {t : List Char} (hclose : q.close cs = none)
    (hunit : q.unit cs = some (t, rest)) :
    q.body cs = (q.body rest).map fun r => (t ++ r.1, r.2) := by
  fun_cases body q cs with
  | case1 r h => cases hclose.symm.trans h
  | case2 _ h => cases hunit.symm.trans h
  | case3 _ u last h =>
    obtain ⟨rfl, rfl⟩ := Prod.mk.inj (Option.some.inj (hunit.symm.trans h))
    rfl

/-- **What spells a text is read as that text**, up to the marks behind it. -/
theorem body_of_spells {w : List Char} (h : Spells q w cs)
    (hrest : ∀ c ∈ rest.head?, c ≠ q.mark.char) :
    q.body (w ++ (q.delimiter ++ rest)) = some (cs, rest) := by
  induction h with
  | nil => exact body_of_close (close_delimiter hrest (Nat.zero_le q.marksAllowed))
  | @cons u w t cs read marks behind ih =>
    by_cases hmarks : ∀ c ∈ u ++ w, c = q.mark.char
    · -- only marks are left, which the end takes along
      have hself := (Spells.cons read marks behind).eq_of_marks hmarks
      rw [List.eq_replicate_of_mem hmarks] at hself marks ⊢
      rw [frontRun_replicate] at marks
      rw [hself]
      exact body_of_close (close_delimiter hrest marks)
    · push Not at hmarks
      have hclose := close_none ((frontRun_append hmarks (q.delimiter ++ rest)).trans_le marks)
      have hunit := read (w ++ (q.delimiter ++ rest))
      rw [← List.append_assoc] at hunit
      rw [body_of_unit hclose hunit, ih]
      rfl

/-! ### With escapes -/

/-- Behind `n` quotes in a row, a character is either one quote more that can stand for itself, or
    is written as a unit that does not begin with a quote. -/
theorem escaped_cases (hq : q.mark = .double) (n : Nat) (c : Char) :
    (c = q.mark.char ∧ n < q.marksAllowed ∧
      ∀ cs, q.escaped n (c :: cs) = q.mark.char :: q.escaped (n + 1) cs) ∨
    ∃ d u, d ≠ q.mark.char ∧ (∀ cs, q.escaped n (c :: cs) = d :: u ++ q.escaped 0 cs) ∧
      (∀ rest, q.unit (d :: u ++ rest) = some ([c], rest)) ∧
        ∀ e ∈ d :: u, isPlain e = true ∨ e = '\n' ∧ c = '\n' := by
  have hchar : q.mark.char = '"' := by rw [hq]; rfl
  rw [hchar]
  by_cases hc : c = '"'
  · subst hc
    by_cases hn : n < q.marksAllowed
    · exact .inl ⟨rfl, hn, fun cs => by rw [escaped, if_pos rfl, if_pos hn]⟩
    · have hescape : escapeOf? '"' = some ['\\', '"'] := by decide
      have hplain := isPlain_of_mem_escapeOf? hescape
      refine .inr ⟨'\\', ['"'], by decide, fun cs => ?_, unit_escapeOf? hq hescape,
        fun e he => .inl (hplain e he)⟩
      rw [escaped, if_pos rfl, if_neg hn]
      rfl
  · right
    by_cases hbreak : c = '\n' ∧ q.tripled = true
    · obtain ⟨rfl, htripled⟩ := hbreak
      refine ⟨'\n', [], by decide, fun cs => ?_, unit_newline htripled, by simp⟩
      rw [escaped, if_neg hc, if_pos ⟨rfl, htripled⟩]
      rfl
    · have hescaped : ∀ cs, q.escaped n (c :: cs) = (escapeOf? c).getD [c] ++ q.escaped 0 cs := by
        intro cs
        rw [escaped, if_neg hc, if_neg hbreak]
      cases hescape : escapeOf? c with
      | none =>
        rw [hescape] at hescaped
        obtain ⟨hplain, hback⟩ := isPlain_of_escapeOf? hescape
        exact ⟨c, [], hc, hescaped, unit_plain hplain fun h => hback h.2, by simp [hplain]⟩
      | some u =>
        rw [hescape] at hescaped
        have hplain := isPlain_of_mem_escapeOf? hescape
        have hunit := unit_escapeOf? hq hescape
        obtain ⟨v, rfl⟩ : ∃ v, u = '\\' :: v := by
          rcases escapeOf?_cases hescape with ⟨s, -, rfl⟩ | ⟨-, rfl⟩ <;> exact ⟨_, rfl⟩
        exact ⟨'\\', v, by decide, hescaped, hunit, fun e he => .inl (hplain e he)⟩

/-- Between double quotes a text is spelled with its escapes, and behind `n` quotes in a row there
    are not too many more. -/
theorem spells_escaped (hq : q.mark = .double) (cs : List Char) :
    ∀ n ≤ q.marksAllowed, Spells q (q.escaped n cs) cs ∧
      frontRun q.mark.char (q.escaped n cs) ≤ q.marksAllowed - n := by
  induction cs with
  | nil => exact fun n _ => ⟨.nil, Nat.zero_le _⟩
  | cons c cs ih =>
    intro n hn
    rcases escaped_cases hq n c with ⟨rfl, hlt, hcons⟩ | ⟨d, u, hd, hcons, hunit, -⟩
    · obtain ⟨hnext, hrun⟩ := ih (n + 1) hlt
      have hfront : frontRun q.mark.char (q.mark.char :: q.escaped (n + 1) cs) ≤
          q.marksAllowed - n := by
        rw [frontRun_cons_self]
        omega
      rw [hcons]
      exact ⟨.cons (u := [q.mark.char]) (unit_mark q) (hfront.trans (Nat.sub_le _ _)) hnext, hfront⟩
    · obtain ⟨hnext, -⟩ := ih 0 (Nat.zero_le _)
      have hfront : frontRun q.mark.char (d :: u ++ q.escaped 0 cs) = 0 := frontRun_cons_of_ne hd _
      rw [hcons]
      exact ⟨.cons hunit (hfront.trans_le (Nat.zero_le _)) hnext, hfront.trans_le (Nat.zero_le _)⟩

/-- Line breaks are the only characters written that are not plain, and only those of the text are
    written. -/
theorem mem_escaped (hq : q.mark = .double) {d : Char} (cs : List Char) :
    ∀ n, d ∈ q.escaped n cs → isPlain d = true ∨ d = '\n' ∧ '\n' ∈ cs := by
  induction cs with
  | nil => exact fun n h => nomatch h
  | cons c cs ih =>
    have hrest : ∀ n, d ∈ q.escaped n cs → isPlain d = true ∨ d = '\n' ∧ '\n' ∈ c :: cs :=
      fun n h => (ih n h).imp_right fun h => ⟨h.1, List.mem_cons_of_mem c h.2⟩
    intro n h
    rcases escaped_cases hq n c with ⟨rfl, -, hcons⟩ | ⟨e, u, -, hcons, -, hunit⟩
    · rw [hcons, List.mem_cons] at h
      rcases h with rfl | h
      · exact .inl (isPlain_mark q)
      · exact hrest _ h
    · rw [hcons, List.mem_append] at h
      rcases h with h | h
      · rcases hunit d h with hplain | ⟨rfl, rfl⟩
        · exact .inl hplain
        · exact .inr ⟨rfl, List.mem_cons_self⟩
      · exact hrest _ h

/-! ### Without escapes -/

/-- The text can stand for itself between apostrophes. -/
def Literal (q : Quotation) (cs : List Char) : Prop :=
  (∀ c ∈ cs, isPlain c = true ∨ c = '\n' ∧ q.tripled = true) ∧
    longestRun q.mark.char cs ≤ q.marksAllowed

theorem spells_single (hq : q.mark = .single) (h : q.Literal cs) : Spells q cs cs := by
  obtain ⟨hchars, hrun⟩ := h
  induction cs with
  | nil => exact .nil
  | cons c cs ih =>
    rw [List.forall_mem_cons] at hchars
    rw [longestRun_cons, max_le_iff] at hrun
    refine .cons (u := [c]) (t := [c]) ?_ hrun.1 (ih hchars.2 hrun.2)
    rcases hchars.1 with hc | ⟨rfl, hq'⟩
    · exact unit_plain hc (by simp [hq])
    · exact unit_newline hq'

/-! ### In the way that is chosen -/

theorem isPlain_of_not_isControl (h : ¬ isControl c = true) : isPlain c = true ∨ c = '\n' := by
  simp only [isControl, Bool.or_eq_true, Bool.and_eq_true, decide_eq_true_eq, bne_iff_ne,
    beq_iff_eq, not_or, not_and] at h
  simp only [isPlain, Bool.or_eq_true, Bool.and_eq_true, decide_eq_true_eq, bne_iff_ne, beq_iff_eq]
  by_cases hlow : c < ' '
  · by_cases htab : c = '\t'
    · exact .inl (.inl htab)
    · exact .inr (by_contra (h.1 ⟨hlow, htab⟩))
  · exact .inl (.inr ⟨Char.not_lt.1 hlow, h.2⟩)

theorem longestRun_of_not_mem {m : Char} (h : m ∉ cs) : longestRun m cs ≤ 0 := by
  rw [longestRun_le_iff]
  intro hrun
  exact h (hrun.subset (by simp))

theorem literal_chosen (h : (chosen cs).mark = .single) : (chosen cs).Literal cs := by
  have hchars : ¬ cs.any isControl = true → ∀ c ∈ cs, isPlain c = true ∨ c = '\n' := by
    intro hcontrol c hc
    exact isPlain_of_not_isControl fun h => hcontrol (List.any_eq_true.2 ⟨c, hc, h⟩)
  dsimp only [chosen] at h ⊢
  split_ifs at h ⊢ with h₁ h₂ h₃ h₄ h₅
  · -- one line, without the mark
    simp only [Bool.and_eq_true, Bool.not_eq_true', List.contains_eq_mem, decide_eq_false_iff_not]
      at h₃
    refine ⟨fun c hc => ?_, longestRun_of_not_mem h₃.1⟩
    rcases hchars h₁ c hc with hplain | rfl
    · exact .inl hplain
    · exact absurd hc h₃.2
  · -- as many lines as there are, and too few marks to end it
    refine ⟨fun c hc => ?_, h₅⟩
    rcases hchars h₁ c hc with hplain | rfl
    · exact .inl hplain
    · exact .inr ⟨rfl, rfl⟩

/-- What is written between the marks spells the text. -/
theorem spells_content (cs : List Char) : Spells (chosen cs) ((chosen cs).content cs) cs := by
  rw [content]
  cases h : (chosen cs).mark with
  | double => exact (spells_escaped h cs 0 (Nat.zero_le _)).1
  | single => exact spells_single h (literal_chosen h)

theorem mem_content {d : Char} (h : d ∈ (chosen cs).content cs) :
    isPlain d = true ∨ d = '\n' ∧ '\n' ∈ cs := by
  rw [content] at h
  cases hq : (chosen cs).mark with
  | double =>
    rw [hq] at h
    exact mem_escaped hq cs 0 h
  | single =>
    rw [hq] at h
    rcases (literal_chosen hq).1 d h with hd | ⟨rfl, -⟩
    · exact .inl hd
    · exact .inr ⟨rfl, h⟩

/-! ## Reading what was written -/

/-- Where the text has no line break, none follows the marks in front. -/
theorem newline_content (h : '\n' ∉ cs) (rest : List Char) :
    newline ((chosen cs).content cs ++ ((chosen cs).delimiter ++ rest)) = none := by
  cases hcontent : (chosen cs).content cs with
  | nil =>
    rw [delimiter]
    split_ifs <;> exact newline_of_isPlain (isPlain_mark _) _
  | cons c w =>
    have hc : c ∈ (chosen cs).content cs := by simp [hcontent]
    rcases mem_content hc with hplain | ⟨-, hbreak⟩
    · exact newline_of_isPlain hplain _
    · exact absurd hbreak h

/-- The line break in front of a text over several lines is not part of the text. -/
theorem opening_write (cs rest : List Char) :
    (chosen cs).opening ((if (chosen cs).tripled ∧ cs.contains '\n' then ['\n'] else []) ++
      ((chosen cs).content cs ++ ((chosen cs).delimiter ++ rest))) =
        (chosen cs).content cs ++ ((chosen cs).delimiter ++ rest) := by
  rw [opening]
  by_cases htripled : (chosen cs).tripled = true
  · rw [if_pos htripled]
    by_cases hbreak : '\n' ∈ cs
    · rw [if_pos ⟨htripled, by simpa using hbreak⟩]
      rfl
    · rw [if_neg (by simp [hbreak]), List.nil_append, newline_content hbreak]
  · rw [if_neg htripled, if_neg (by simp [htripled]), List.nil_append]

theorem read_write (hrest : ∀ c ∈ rest.head?, c ≠ (chosen cs).mark.char) :
    (chosen cs).read ((chosen cs).write cs ++ rest) = some (String.ofList cs, rest) := by
  have hbody := body_of_spells (spells_content cs) hrest
  rw [← opening_write cs rest] at hbody
  simp only [read, write, List.append_assoc, behind?_append, Option.bind_eq_bind,
    Option.bind_some, hbody]
  rfl

/-! ### Among the other ways -/

/-- No reader takes a text with fewer marks in front than it asks for. -/
theorem read_of_frontRun (h : frontRun q.mark.char ws < q.delimiter.length) : q.read ws = none := by
  rw [read]
  cases hbehind : behind? q.delimiter ws with
  | none => rfl
  | some rest =>
    have hrun : q.delimiter.length ≤ frontRun q.mark.char ws := by
      rw [eq_append_of_behind? hbehind, le_frontRun_iff, delimiter, List.length_replicate]
      exact List.prefix_append _ _
    exact absurd h (Nat.not_lt.2 hrun)

theorem length_delimiter (q : Quotation) : q.delimiter.length = if q.tripled then 3 else 1 :=
  List.length_replicate

theorem write_eq_cons (q : Quotation) (cs : List Char) : ∃ ws, q.write cs = q.mark.char :: ws := by
  rw [write, delimiter]
  split_ifs <;> exact ⟨_, rfl⟩

theorem read_of_other_mark {q' : Quotation} (h : q'.mark ≠ q.mark) (cs rest : List Char) :
    q'.read (q.write cs ++ rest) = none := by
  have hchar : q.mark.char ≠ q'.mark.char := fun hchar => h (Mark.char_injective hchar.symm)
  obtain ⟨ws, hws⟩ := q.write_eq_cons cs
  refine read_of_frontRun ?_
  rw [hws, List.cons_append, frontRun_cons_of_ne hchar, length_delimiter]
  split_ifs <;> decide

/-- Behind one mark there is at most one more. -/
theorem read_of_not_tripled (h : (chosen cs).tripled = false)
    (hrest : ∀ c ∈ rest.head?, c ≠ (chosen cs).mark.char) :
    read ⟨(chosen cs).mark, true⟩ ((chosen cs).write cs ++ rest) = none := by
  have hrun := (spells_content cs).frontRun_le
  rw [marksAllowed, h] at hrun
  refine read_of_frontRun ?_
  rw [write, delimiter, h]
  cases hcontent : (chosen cs).content cs with
  | nil =>
    have htwo := frontRun_replicate_append hrest 2
    simpa [length_delimiter, List.replicate_succ] using htwo.trans_lt (Nat.lt_succ_self 2)
  | cons c w =>
    have hc : c ≠ (chosen cs).mark.char := by
      rintro rfl
      rw [hcontent, frontRun_cons_self] at hrun
      exact absurd hrun (Nat.not_succ_le_zero _)
    simp [length_delimiter, frontRun_cons_self, frontRun_cons_of_ne hc]

/-- A text is read as it was written, whichever marks were chosen. -/
theorem text_write (hrest : ∀ c ∈ rest.head?, c ≠ '"' ∧ c ≠ '\'') :
    text ((chosen cs).write cs ++ rest) = some (String.ofList cs, rest) := by
  have hmark : ∀ c ∈ rest.head?, c ≠ (chosen cs).mark.char := by
    intro c hc
    cases (chosen cs).mark with
    | double => exact (hrest c hc).1
    | single => exact (hrest c hc).2
  have hread := read_write hmark
  have hother := fun (q' : Quotation) (h : q'.mark ≠ (chosen cs).mark) =>
    read_of_other_mark h cs rest
  have hsingle := fun h => read_of_not_tripled h hmark
  rw [text, oneLineText]
  generalize chosen cs = q at hread hother hsingle ⊢
  obtain ⟨mark, tripled⟩ := q
  cases tripled with
  | true =>
    cases mark with
    | double => rw [orElse_of_some hread]
    | single => rw [orElse_of_none (hother ⟨.double, true⟩ nofun), orElse_of_some hread]
  | false =>
    have hnone := hsingle rfl
    cases mark with
    | double =>
      rw [orElse_of_none hnone, orElse_of_none (hother ⟨.single, true⟩ nofun), orElse_of_some hread]
    | single =>
      rw [orElse_of_none (hother ⟨.double, true⟩ nofun), orElse_of_none hnone,
        orElse_of_none (hother ⟨.double, false⟩ nofun), hread]

end Quotation

/-- The text has nowhere too many equal marks in a row. -/
def Quotable (s : String) : Prop :=
  ∀ m : Mark, ¬ List.replicate (runLimit + 1) m.char <:+: s.toList

variable {s w : String}

theorem quotable_iff : Quotable s ↔
    longestRun '"' s.toList ≤ runLimit ∧ longestRun '\'' s.toList ≤ runLimit := by
  rw [longestRun_le_iff, longestRun_le_iff]
  constructor
  · intro h
    exact ⟨h .double, h .single⟩
  · rintro ⟨hdouble, hsingle⟩ m
    cases m with
    | double => exact hdouble
    | single => exact hsingle

instance : Decidable (Quotable s) :=
  decidable_of_iff _ quotable_iff.symm

theorem quotable_of_not_mem (h : ∀ m : Mark, m.char ∉ s.toList) : Quotable s := by
  intro m hrun
  exact h m (hrun.subset (by simp))

/-- Only too many marks in a row keep a text from being written. -/
theorem quote_of_quotable (h : Quotable s) :
    quote s = .ok (String.ofList ((Quotation.chosen s.toList).write s.toList)) := by
  rw [quote, if_pos (quotable_iff.1 h)]

theorem quote_of_not_quotable (h : ¬ Quotable s) : quote s = .error .longRun := by
  rw [quote, if_neg (mt quotable_iff.2 h)]

theorem exists_mark_of_quote (h : quote s = .ok w) :
    ∃ m : Mark, ∃ cs, w.toList = m.char :: cs := by
  by_cases hs : Quotable s
  · obtain rfl := Except.ok.inj (h.symm.trans (quote_of_quotable hs))
    rw [String.toList_ofList]
    exact ⟨_, (Quotation.chosen s.toList).write_eq_cons s.toList⟩
  · exact nomatch h.symm.trans (quote_of_not_quotable hs)

/-- **A text is read back as it was**, in whichever of the four ways it was written. -/
theorem text_quote (h : quote s = .ok w) {rest : List Char}
    (hrest : ∀ c ∈ rest.head?, c ≠ '"' ∧ c ≠ '\'') : text (w.toList ++ rest) = some (s, rest) := by
  by_cases hs : Quotable s
  · obtain rfl := Except.ok.inj (h.symm.trans (quote_of_quotable hs))
    rw [String.toList_ofList, Quotation.text_write hrest, String.ofList_toList]
  · exact nomatch h.symm.trans (quote_of_not_quotable hs)

end ScalarStubs.Toml
