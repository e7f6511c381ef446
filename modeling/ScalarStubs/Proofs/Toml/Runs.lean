/-
  Runs of a character in a text.

  * `frontRun` is the length of the run at the front of a text; `runs_fst` and `longestRun_cons`
    tie the count to it.
  * `longestRun_le_iff`: no run is longer than `n` if nowhere `n + 1` of the character stand in a
    row.
-/
import Mathlib
import ScalarStubs.Toml.Quotation.Written

namespace ScalarStubs.Toml

/-- The length of the run of a character at the front of a text. -/
def frontRun (m : Char) (cs : List Char) : Nat :=
  (cs.takeWhile (· == m)).length

variable {m c : Char} {cs ds : List Char} {n : Nat}

theorem frontRun_cons_self (m : Char) (cs : List Char) :
    frontRun m (m :: cs) = frontRun m cs + 1 := by
  simp [frontRun]

theorem frontRun_cons_of_ne (h : c ≠ m) (cs : List Char) : frontRun m (c :: cs) = 0 := by
  simp [frontRun, h]

theorem frontRun_replicate_append (h : ∀ c ∈ cs.head?, c ≠ m) (n : Nat) :
    frontRun m (List.replicate n m ++ cs) = n := by
  induction n with
  | zero =>
    cases cs with
    | nil => rfl
    | cons c cs => exact frontRun_cons_of_ne (h c rfl) cs
  | succ n ih => rw [List.replicate_succ, List.cons_append, frontRun_cons_self, ih]

theorem frontRun_replicate (m : Char) (n : Nat) : frontRun m (List.replicate n m) = n := by
  have hnil : ∀ c ∈ ([] : List Char).head?, c ≠ m := fun c hc => nomatch hc
  have h := frontRun_replicate_append hnil n
  rwa [List.append_nil] at h

theorem frontRun_append (h : ∃ c ∈ cs, c ≠ m) (ds : List Char) :
    frontRun m (cs ++ ds) = frontRun m cs := by
  induction cs with
  | nil => simp at h
  | cons c cs ih =>
    by_cases hc : c = m
    · subst hc
      obtain ⟨d, hd, hne⟩ := h
      rcases List.mem_cons.1 hd with rfl | hd
      · exact absurd rfl hne
      · rw [List.cons_append, frontRun_cons_self, frontRun_cons_self, ih ⟨d, hd, hne⟩]
    · rw [List.cons_append, frontRun_cons_of_ne hc, frontRun_cons_of_ne hc]

theorem le_frontRun_iff : n ≤ frontRun m cs ↔ List.replicate n m <+: cs := by
  induction cs generalizing n with
  | nil =>
    cases n with
    | zero => simp
    | succ n => simp [frontRun, List.replicate_succ]
  | cons c cs ih =>
    cases n with
    | zero => simp
    | succ n =>
      rw [List.replicate_succ, List.cons_prefix_cons, ← ih]
      by_cases hc : c = m
      · subst hc
        rw [frontRun_cons_self]
        simp
      · rw [frontRun_cons_of_ne hc]
        simp [Ne.symm hc]

theorem runs_cons (m c : Char) (cs : List Char) :
    runs m (c :: cs) =
      if c = m then ((runs m cs).1 + 1, max ((runs m cs).1 + 1) (runs m cs).2)
      else (0, (runs m cs).2) :=
  rfl

theorem runs_fst (m : Char) (cs : List Char) : (runs m cs).1 = frontRun m cs := by
  induction cs with
  | nil => rfl
  | cons c cs ih =>
    rw [runs_cons]
    by_cases hc : c = m
    · subst hc
      rw [if_pos rfl, frontRun_cons_self, ih]
    · rw [if_neg hc, frontRun_cons_of_ne hc]

theorem longestRun_cons (m c : Char) (cs : List Char) :
    longestRun m (c :: cs) = max (frontRun m (c :: cs)) (longestRun m cs) := by
  rw [longestRun, runs_cons]
  by_cases hc : c = m
  · subst hc
    rw [if_pos rfl, frontRun_cons_self, ← runs_fst]
    rfl
  · rw [if_neg hc, frontRun_cons_of_ne hc, Nat.zero_max]
    rfl

/-- The longest run is no longer than `n` if nowhere there are more of the character in a row. -/
theorem longestRun_le_iff : longestRun m cs ≤ n ↔ ¬ List.replicate (n + 1) m <:+: cs := by
  induction cs with
  | nil => simp [longestRun, runs, List.replicate_succ]
  | cons c cs ih =>
    rw [longestRun_cons, List.infix_cons_iff, not_or, ← ih, ← le_frontRun_iff]
    omega

end ScalarStubs.Toml
