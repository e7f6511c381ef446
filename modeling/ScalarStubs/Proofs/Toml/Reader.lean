/-
  Readers, step by step.

  * `bind_eq`, `map_eq`, `orElse_of_some`, `orElse_of_none`: what readers do that are made of
    others, told by what those do on the same text.
  * `exactly_append`, `span_append`, `blanks_of_head`: words and runs in front of a text are read
    off it.
  * `many_cons`, `many_of_none`: reading the same thing again and again, one step at a time.
-/
import Mathlib
import ScalarStubs.Toml.Reader

namespace ScalarStubs.Toml

namespace Reader

variable {α β : Type} {p q : Reader α} {a : α} {cs rest : List Char}

/-! ## Readers made of others -/

theorem bind_eq (h : p cs = some (a, rest)) (f : α → Reader β) : (p >>= f) cs = f a rest := by
  show (p cs >>= fun (a, rest) => f a rest) = _
  rw [h]
  rfl

theorem bind_of_none (h : p cs = none) (f : α → Reader β) : (p >>= f) cs = none := by
  show (p cs >>= fun (a, rest) => f a rest) = _
  rw [h]
  rfl

theorem map_eq (h : p cs = some (a, rest)) (f : α → β) : (f <$> p) cs = some (f a, rest) := by
  show (p cs >>= fun (a, rest) => some (f a, rest)) = _
  rw [h]
  rfl

theorem map_of_none (h : p cs = none) (f : α → β) : (f <$> p) cs = none := by
  show (p cs >>= fun (a, rest) => some (f a, rest)) = _
  rw [h]
  rfl

theorem orElse_of_some (h : p cs = some (a, rest)) (q : Reader α) :
    (p <|> q) cs = some (a, rest) := by
  show (p cs <|> q cs) = _
  rw [h]
  rfl

theorem orElse_of_none (h : p cs = none) (q : Reader α) : (p <|> q) cs = q cs := by
  show (p cs <|> q cs) = _
  rw [h]
  rfl

theorem optional_of_none (h : p cs = none) : optional p cs = some (none, cs) := by
  show ((some <$> p) <|> pure none : Reader (Option α)) cs = _
  rw [orElse_of_none (map_of_none h some)]
  rfl

theorem seqRight_of_none (h : p cs = none) (q : Reader β) : (p *> q) cs = none :=
  bind_of_none h _

theorem guard_of {P : Prop} [Decidable P] (h : P) (cs : List Char) :
    (guard P : Reader Unit) cs = some ((), cs) := by
  rw [guard, if_pos h]
  rfl

/-! ## Words and runs -/

theorem behind?_append (w cs : List Char) : behind? w (w ++ cs) = some cs := by
  induction w with
  | nil => rfl
  | cons c w ih => rw [List.cons_append, behind?, if_pos rfl, ih]

theorem eq_append_of_behind? {w : List Char} (h : behind? w cs = some rest) :
    cs = w ++ rest := by
  fun_induction behind? w cs with
  | case1 cs => exact Option.some.inj h
  | case2 => exact nomatch h
  | case3 w ws cs ih => rw [ih h]; rfl
  | case4 => exact nomatch h

theorem exactly_append {word : String} (cs : List Char) :
    exactly word (word.toList ++ cs) = some ((), cs) := by
  rw [exactly, behind?_append]
  rfl

theorem exactly_of_head {c d : Char} {word : String} {w : List Char} (hword : word.toList = d :: w)
    (h : d ≠ c) (cs : List Char) : exactly word (c :: cs) = none := by
  rw [exactly, hword, behind?, if_neg h]
  rfl

theorem span_append {r : Char → Bool} {w : List Char} (hw : ∀ c ∈ w, r c = true)
    (hcs : ∀ c ∈ cs.head?, r c = false) : span r (w ++ cs) = some (w, cs) := by
  rw [span, List.takeWhile_append_of_pos hw, List.dropWhile_append_of_pos hw]
  cases cs with
  | nil => simp
  | cons c cs =>
    have hc : ¬ r c = true := by simp [hcs c rfl]
    rw [List.takeWhile_cons_of_neg hc, List.dropWhile_cons_of_neg hc, List.append_nil]

end Reader

open Reader

theorem blanks_append {w : List Char} (hw : ∀ c ∈ w, isMargin c = true)
    (hcs : ∀ c ∈ cs.head?, isMargin c = false) : blanks (w ++ cs) = some ((), cs) := by
  rw [blanks, bind_eq (span_append hw hcs)]
  rfl

theorem blanks_of_head (hcs : ∀ c ∈ cs.head?, isMargin c = false) :
    blanks cs = some ((), cs) :=
  blanks_append (List.forall_mem_nil _) hcs

/-- The end of a line, right behind an entry. -/
theorem lineEnd_newline (cs : List Char) : lineEnd ('\n' :: cs) = some ((), cs) := by
  have hcomment : comment ('\n' :: cs) = none := by
    rw [comment]
    exact bind_of_none (exactly_of_head (d := '#') rfl (by decide) cs) _
  have hblanks : blanks ('\n' :: cs) = some ((), '\n' :: cs) :=
    blanks_of_head (by simp; decide)
  have hnewline : newline ('\n' :: cs) = some ((), cs) := rfl
  rw [lineEnd, bind_eq hblanks, bind_eq (optional_of_none hcomment), orElse_of_some hnewline]

namespace Reader

/-! ## Again and again -/

variable {α : Type} {p : Reader α} {a : α} {cs rest : List Char}

theorem many_of_none (h : p cs = none) : many p cs = some ([], cs) := by
  rw [many.eq_def, h]

theorem many_cons (h : p cs = some (a, rest)) (hlen : rest.length < cs.length) :
    many p cs = (many p rest).map fun r => (a :: r.1, r.2) := by
  rw [many.eq_def, h]
  simp only [if_pos hlen]

/-- From an empty text nothing is taken, and nothing is read there a second time. -/
theorem many_nil (h : p [] = some (a, rest)) : many p [] = some ([a], rest) := by
  rw [many.eq_def, h]
  rfl

end Reader

end ScalarStubs.Toml
