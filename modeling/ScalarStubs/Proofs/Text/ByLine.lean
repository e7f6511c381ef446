/-
  Texts, changed line by line.

  * `mapLines f` changes each line of a text by `f`; a line is what stands between two line feeds,
    or between one and an end of the text. If `f` puts no line feed into a line, changes in a row
    are one change (`mapLines_mapLines`), and nothing is confused that `f` keeps apart
    (`mapLines_injective`).
  * `behind m` sets a line behind `m` unless it is empty, and `flush` takes off the blanks that a
    line begins with. `indentLines` and `flushLines` do so with all lines of a text; margins of
    blanks add up, and leave no trace once the lines are flush.
-/
import Mathlib

namespace ScalarStubs.Text

/-! ## Lines -/

variable {f g : List Char → List Char} {l cs ds : List Char}

/-- Changes each line of a text. -/
def mapLines (f : List Char → List Char) (cs : List Char) : List Char :=
  ['\n'].intercalate ((cs.splitOn '\n').map f)

/-- A change to lines that leaves them lines. -/
def KeepsLines (f : List Char → List Char) : Prop :=
  ∀ l, '\n' ∉ l → '\n' ∉ f l

theorem not_mem_of_mem_splitOn (h : l ∈ cs.splitOn '\n') : '\n' ∉ l := by
  induction cs generalizing l with
  | nil =>
    rw [List.splitOn_nil, List.mem_singleton] at h
    simp [h]
  | cons c cs ih =>
    obtain ⟨k, ks, hk⟩ := List.exists_cons_of_ne_nil (List.splitOn_ne_nil '\n' cs)
    rw [hk] at ih
    rw [List.splitOn_cons_eq_if_modifyHead, hk] at h
    split at h
    · rcases List.mem_cons.1 h with rfl | h
      · exact List.not_mem_nil
      · exact ih h
    · rename_i hc
      rcases List.mem_cons.1 h with rfl | h
      · have hne : '\n' ≠ c := by rintro rfl; exact hc rfl
        simp [hne, ih (List.mem_cons_self ..)]
      · exact ih (List.mem_cons_of_mem _ h)

theorem splitOn_mapLines (hf : KeepsLines f) (cs : List Char) :
    (mapLines f cs).splitOn '\n' = (cs.splitOn '\n').map f := by
  refine List.splitOn_intercalate '\n' ?_ ?_
  · intro k hk
    obtain ⟨l, hl, rfl⟩ := List.mem_map.1 hk
    exact hf l (not_mem_of_mem_splitOn hl)
  · simp [List.splitOn_ne_nil]

/-- **Two changes in a row are one.** -/
theorem mapLines_mapLines (hg : KeepsLines g) (f : List Char → List Char) (cs : List Char) :
    mapLines f (mapLines g cs) = mapLines (f ∘ g) cs := by
  rw [mapLines, splitOn_mapLines hg, List.map_map]
  rfl

theorem mapLines_injective (hf : KeepsLines f) (hinj : f.Injective) : (mapLines f).Injective := by
  intro cs ds h
  have hlines := congrArg (List.splitOn '\n') h
  rw [splitOn_mapLines hf, splitOn_mapLines hf] at hlines
  have hsame := hinj.list_map hlines
  have hcs : ['\n'].intercalate (cs.splitOn '\n') = cs := List.intercalate_splitOn '\n'
  rw [← hcs, hsame, List.intercalate_splitOn]

/-! ## Margins -/

variable {m : List Char}

/-- The line behind `m`, unless it is empty. -/
def behind (m l : List Char) : List Char :=
  if l = [] then [] else m ++ l

/-- The line without the blanks that it begins with. -/
def flush (l : List Char) : List Char :=
  l.dropWhile fun c => c == ' ' || c == '\t'

/-- Whether there is nothing but spaces and tabs. -/
def IsMargin (m : List Char) : Prop :=
  ∀ c ∈ m, c = ' ' ∨ c = '\t'

theorem IsMargin.keepsLines (hm : IsMargin m) : KeepsLines (behind m) := by
  intro l hl
  unfold behind
  split
  · exact List.not_mem_nil
  · rw [List.mem_append, not_or]
    refine ⟨fun h => ?_, hl⟩
    rcases hm _ h with h | h <;> exact absurd h (by decide)

theorem behind_behind (m m' l : List Char) : behind m (behind m' l) = behind (m ++ m') l := by
  by_cases h : l = []
  · simp [behind, h]
  · simp [behind, h]

theorem behind_injective (m : List Char) : (behind m).Injective := by
  intro l k h
  by_cases hl : l = [] <;> by_cases hk : k = [] <;> simp_all [behind]

theorem flush_behind (hm : IsMargin m) (l : List Char) : flush (behind m l) = flush l := by
  by_cases h : l = []
  · simp [behind, h]
  · rw [behind, if_neg h, flush, List.dropWhile_append_of_pos]
    · rfl
    · intro c hc
      simpa using hm c hc

/-! ## Texts -/

/-- A number of units of indentation in a row. -/
def margin (unit : String) (depth : Nat) : List Char :=
  (List.replicate depth unit.toList).flatten

/-- Sets each line that is not empty behind a margin. -/
def indentLines (m : List Char) (text : String) : String :=
  String.ofList (mapLines (behind m) text.toList)

/-- Takes off the blanks that the lines begin with. -/
def flushLines (text : String) : String :=
  String.ofList (mapLines flush text.toList)

theorem margin_add (unit : String) (d₁ d₂ : Nat) :
    margin unit (d₁ + d₂) = margin unit d₁ ++ margin unit d₂ := by
  rw [margin, List.replicate_add, List.flatten_append]
  rfl

theorem isMargin_margin {unit : String} (h : IsMargin unit.toList) (depth : Nat) :
    IsMargin (margin unit depth) := by
  intro c hc
  obtain ⟨l, hl, hc⟩ := List.mem_flatten.1 hc
  rw [List.eq_of_mem_replicate hl] at hc
  exact h c hc

theorem indentLines_indentLines {m' : List Char} (hm : IsMargin m') (m : List Char)
    (text : String) : indentLines m (indentLines m' text) = indentLines (m ++ m') text := by
  rw [indentLines, indentLines, String.toList_ofList, mapLines_mapLines hm.keepsLines,
    show behind m ∘ behind m' = behind (m ++ m') from funext (behind_behind m m')]
  rfl

theorem flushLines_indentLines (hm : IsMargin m) (text : String) :
    flushLines (indentLines m text) = flushLines text := by
  rw [flushLines, indentLines, String.toList_ofList, mapLines_mapLines hm.keepsLines,
    show flush ∘ behind m = flush from funext (flush_behind hm)]
  rfl

theorem indentLines_injective (hm : IsMargin m) : (indentLines m).Injective := by
  intro s t h
  have hchars := congrArg String.toList h
  rw [indentLines, indentLines, String.toList_ofList, String.toList_ofList] at hchars
  exact String.toList_inj.1 (mapLines_injective hm.keepsLines (behind_injective m) hchars)

end ScalarStubs.Text
