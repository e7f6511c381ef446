/-
  The parts of a quotation.

  * `close_none`, `close_delimiter`: what is the end of a quotation, and what is none.
  * `unit_plain`, `unit_newline`, `unit_escapeOf?`: the units that a text is written in, and what
    each of them is read as.
-/
import ScalarStubs.Proofs.Toml.Runs

namespace ScalarStubs.Toml

theorem Mark.char_injective : Function.Injective Mark.char := by
  intro m m'
  cases m <;> cases m' <;> decide

namespace Quotation

variable {q : Quotation} {cs ws rest : List Char} {c : Char}

/-! ## The end -/

theorem close_none (h : frontRun q.mark.char cs ≤ q.marksAllowed) : q.close cs = none := by
  unfold frontRun marksAllowed at h
  unfold close
  cases hq : q.tripled <;> simp [hq] at h ⊢
  · simpa using h
  · omega

theorem close_delimiter (hrest : ∀ c ∈ rest.head?, c ≠ q.mark.char) {k : Nat}
    (hk : k ≤ q.marksAllowed) :
    q.close (List.replicate k q.mark.char ++ (q.delimiter ++ rest)) =
      some (List.replicate k q.mark.char, rest) := by
  have hrun := frontRun_replicate_append hrest (k + if q.tripled then 3 else 1)
  rw [← List.replicate_append_replicate, List.append_assoc] at hrun
  unfold frontRun at hrun
  unfold close delimiter
  unfold marksAllowed at hk
  simp only [hrun]
  cases hq : q.tripled
  · obtain rfl : k = 0 := by simpa [hq] using hk
    simp
  · have hk' : k ≤ 2 := by simpa [hq] using hk
    have hlen : min (k + 3 - 3) 2 = k ∧ min (k + 3) 5 = k + 3 := by omega
    simp only [if_true, hlen, if_pos (Nat.le_add_left 3 k)]
    rw [← List.append_assoc, List.replicate_append_replicate]
    simp

/-! ## Units -/

theorem unit_plain (hc : isPlain c = true) (hback : ¬ (q.mark = .double ∧ c = '\\'))
    (rest : List Char) : q.unit (c :: rest) = some ([c], rest) := by
  rw [unit, if_neg hback, if_pos hc]

theorem unit_newline (hq : q.tripled = true) (rest : List Char) :
    q.unit ('\n' :: rest) = some (['\n'], rest) := by
  have hplain : ¬ isPlain '\n' = true := by decide
  rw [unit, if_neg (by simp), if_neg hplain, if_pos hq]
  rfl

theorem isPlain_mark (q : Quotation) : isPlain q.mark.char = true := by
  cases q.mark <;> decide

theorem unit_mark (q : Quotation) (rest : List Char) :
    q.unit (q.mark.char :: rest) = some ([q.mark.char], rest) := by
  refine unit_plain (isPlain_mark q) ?_ rest
  rintro ⟨hq, hback⟩
  rw [hq] at hback
  exact absurd hback (by decide)

theorem newline_of_isPlain (hc : isPlain c = true) (rest : List Char) :
    newline (c :: rest) = none := by
  unfold newline
  split
  · rename_i heq
    obtain ⟨rfl, -⟩ := List.cons.inj heq
    exact absurd hc (by decide)
  · rename_i heq
    obtain ⟨rfl, -⟩ := List.cons.inj heq
    exact absurd hc (by decide)
  · rfl

/-- A sign behind a backslash does not join lines. -/
theorem unit_sign (hq : q.mark = .double) {s d : Char}
    (hs : isPlain s = true ∧ isMargin s = false) {rest last : List Char}
    (h : escape (s :: rest) = some (d, last)) : q.unit ('\\' :: s :: rest) = some ([d], last) := by
  have hjoin : joinLines (s :: rest) = none := by
    rw [joinLines, List.dropWhile_cons_of_neg (by simp [hs.2]), newline_of_isPlain hs.1]
    rfl
  rw [unit, if_pos ⟨hq, rfl⟩]
  cases q.tripled <;> simp [hjoin, h]

/-! ### Escapes -/

theorem hexValue?_hexDigit {n : Nat} (h : n < 16) : hexValue? (hexDigit n) = some n := by
  interval_cases n <;> decide

theorem isPlain_hexDigit {n : Nat} (h : n < 16) : isPlain (hexDigit n) = true := by
  interval_cases n <;> decide

theorem codePoint_hexDigits (h : c.toNat < 256) (rest : List Char) :
    codePoint 4 ('0' :: '0' :: hexDigit (c.toNat / 16) :: hexDigit (c.toNat % 16) :: rest) =
      some (c, rest) := by
  have hhigh : hexValue? (hexDigit (c.toNat / 16)) = some (c.toNat / 16) :=
    hexValue?_hexDigit (by omega)
  have hlow : hexValue? (hexDigit (c.toNat % 16)) = some (c.toNat % 16) :=
    hexValue?_hexDigit (by omega)
  have hzero : hexValue? '0' = some 0 := by decide
  have hsum : 16 * (c.toNat / 16) + c.toNat % 16 = c.toNat := by omega
  have hnumber : number? 16 ['0', '0', hexDigit (c.toNat / 16), hexDigit (c.toNat % 16)] =
      some c.toNat := by
    simp [number?, hzero, hhigh, hlow, hsum]
  have hvalid : c.toNat.isValidChar := c.valid
  simp [codePoint, hnumber, hvalid]

theorem mem_signs_of_signOf? {s : Char} (h : signOf? c = some s) : (s, c) ∈ signs := by
  obtain ⟨l₁, l₂, hl, -⟩ := List.lookup_eq_some_iff.1 h
  have hmem : (c, s) ∈ l₁ ++ (c, s) :: l₂ := by simp
  rw [← hl] at hmem
  obtain ⟨p, hp, heq⟩ := List.mem_map.1 hmem
  cases heq
  exact hp

theorem escape_sign {p : Char × Char} (h : p ∈ signs) (rest : List Char) :
    escape (p.1 :: rest) = some (p.2, rest) ∧ isPlain p.1 = true ∧ isMargin p.1 = false := by
  fin_cases h <;> exact ⟨rfl, by decide⟩

/-- An escape is a sign or four digits. -/
theorem escapeOf?_cases {u : List Char} (h : escapeOf? c = some u) :
    (∃ s, (s, c) ∈ signs ∧ u = ['\\', s]) ∨ c.toNat < 256 ∧
      u = ['\\', 'u', '0', '0', hexDigit (c.toNat / 16), hexDigit (c.toNat % 16)] := by
  unfold escapeOf? at h
  split at h
  · rename_i s hs
    exact .inl ⟨s, mem_signs_of_signOf? hs, (Option.some.inj h).symm⟩
  · split_ifs at h with hc
    refine .inr ⟨?_, (Option.some.inj h).symm⟩
    rw [Bool.or_eq_true, decide_eq_true_eq, beq_iff_eq] at hc
    rcases hc with hc | rfl
    · have hlt : c.toNat < 32 := hc
      omega
    · decide

/-- An escape stands for the character that it was written for. -/
theorem unit_escapeOf? (hq : q.mark = .double) {u : List Char} (h : escapeOf? c = some u)
    (rest : List Char) : q.unit (u ++ rest) = some ([c], rest) := by
  rcases escapeOf?_cases h with ⟨s, hs, rfl⟩ | ⟨hc, rfl⟩
  · obtain ⟨hescape, hsign⟩ := escape_sign hs rest
    exact unit_sign hq hsign hescape
  · exact unit_sign hq (by decide) (codePoint_hexDigits hc rest)

theorem isPlain_of_mem_escapeOf? {u : List Char} (h : escapeOf? c = some u) :
    ∀ d ∈ u, isPlain d = true := by
  rcases escapeOf?_cases h with ⟨s, hs, rfl⟩ | ⟨hc, rfl⟩
  · obtain ⟨-, hplain, -⟩ := escape_sign hs []
    simpa using ⟨by decide, hplain⟩
  · have hhigh := isPlain_hexDigit (n := c.toNat / 16) (by omega)
    have hlow := isPlain_hexDigit (n := c.toNat % 16) (by omega)
    simpa using ⟨by decide, by decide, by decide, hhigh, hlow⟩

/-- What needs no escape is plain, and no backslash. -/
theorem isPlain_of_escapeOf? (h : escapeOf? c = none) : isPlain c = true ∧ c ≠ '\\' := by
  unfold escapeOf? at h
  split at h
  · exact nomatch h
  · rename_i hs
    split_ifs at h with hc
    refine ⟨?_, ?_⟩
    · simp only [Bool.or_eq_true, not_or, decide_eq_true_eq, beq_iff_eq] at hc
      simp [isPlain, hc.2, Char.not_lt.1 hc.1]
    · rintro rfl
      exact nomatch hs

end Quotation

end ScalarStubs.Toml
