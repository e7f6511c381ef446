/-
  A printer that handles one character after another.

  * `Typewriter` types characters on paper; `Typewriter.typed` is what it types for some of them,
    margins included, and `Typewriter.execAll` carries out the commands of a script.
  * `typed_append`: what comes of a text does not depend on the pieces in which it is typed.
  * `typed_piece`: a piece of one line is typed as it is, behind the margin if it begins the line
    and is not blank.
  * `Tracks.execAll`: a typewriter that began with a new sheet is at the beginning of a line
    exactly if its paper is empty or ends in a line feed.
-/
import Mathlib
import ScalarStubs.Printer.Script
import ScalarStubs.Proofs.Text.ByLine

namespace ScalarStubs

/-- A printer that types on paper and never fails. -/
structure Typewriter where
  unit : String
  depth : Nat
  atLineStart : Bool
  /-- Everything typed so far. -/
  paper : List Char

namespace Typewriter

/-- One unit of indentation for each level. -/
def margin (t : Typewriter) : List Char :=
  Text.margin t.unit t.depth

/-- Types one character, behind the margin if it begins a line and is no line feed. -/
def type (t : Typewriter) (c : Char) : Typewriter :=
  { t with
    atLineStart := c == '\n'
    paper := t.paper ++ (if t.atLineStart && c != '\n' then t.margin else []) ++ [c] }

/-- Types characters one after another. -/
def typeAll (t : Typewriter) (cs : List Char) : Typewriter :=
  cs.foldl type t

/-- Goes one level deeper. -/
def indent (t : Typewriter) : Typewriter :=
  { t with depth := t.depth + 1 }

/-- Goes one level back; at the outermost level nothing changes. -/
def unindent (t : Typewriter) : Typewriter :=
  { t with depth := t.depth - 1 }

mutual

/-- Carries out a command. -/
def exec (t : Typewriter) : Command → Typewriter
  | .write text => t.typeAll text.toList
  | .emit s stmt => t.typeAll ((stmt.pieces s).flatMap String.toList)
  | .flush => t
  | .indent => t.indent
  | .unindent => t.unindent
  | .indented body => (execAll t.indent body).unindent

/-- Carries out commands one after another. -/
def execAll (t : Typewriter) : List Command → Typewriter
  | [] => t
  | c :: cs => execAll (exec t c) cs

end

/-- The typewriter with an empty sheet of paper. -/
def clear (t : Typewriter) : Typewriter :=
  { t with paper := [] }

/-- What is typed for some characters. -/
def typed (t : Typewriter) (cs : List Char) : List Char :=
  (t.clear.typeAll cs).paper

/-! ## Characters -/

variable {t : Typewriter} {as bs cs : List Char}

theorem typeAll_append (t : Typewriter) (as bs : List Char) :
    t.typeAll (as ++ bs) = (t.typeAll as).typeAll bs :=
  List.foldl_append

@[simp] theorem unit_typeAll (t : Typewriter) (cs : List Char) : (t.typeAll cs).unit = t.unit := by
  induction cs generalizing t with
  | nil => rfl
  | cons c cs ih => exact ih (t.type c)

@[simp] theorem depth_typeAll (t : Typewriter) (cs : List Char) :
    (t.typeAll cs).depth = t.depth := by
  induction cs generalizing t with
  | nil => rfl
  | cons c cs ih => exact ih (t.type c)

theorem typeAll_onto (t : Typewriter) (above cs : List Char) :
    { t with paper := above ++ t.paper }.typeAll cs =
      { t.typeAll cs with paper := above ++ (t.typeAll cs).paper } := by
  induction cs generalizing t with
  | nil => rfl
  | cons c cs ih =>
    have hstep : { t with paper := above ++ t.paper }.type c =
        { t.type c with paper := above ++ (t.type c).paper } := by
      simp [type, margin]
    rw [typeAll, List.foldl_cons, hstep]
    exact ih (t.type c)

theorem typeAll_eq (t : Typewriter) (cs : List Char) :
    t.typeAll cs = { t.clear.typeAll cs with paper := t.paper ++ t.typed cs } := by
  have := typeAll_onto t.clear t.paper cs
  simpa [clear, typed] using this

theorem paper_typeAll (t : Typewriter) (cs : List Char) :
    (t.typeAll cs).paper = t.paper ++ t.typed cs := by
  rw [typeAll_eq]

/-- **Chunks do not show.** A text typed in two pieces is typed as one. -/
theorem typed_append (t : Typewriter) (as bs : List Char) :
    t.typed (as ++ bs) = t.typed as ++ (t.typeAll as).typed bs := by
  have hclear : (t.clear.typeAll as).clear = (t.typeAll as).clear := by
    rw [typeAll_eq t as]; rfl
  rw [typed, typeAll_append, paper_typeAll, typed, typed, hclear]
  rfl

theorem typed_singleton (t : Typewriter) (c : Char) :
    t.typed [c] = (if t.atLineStart && c != '\n' then t.margin else []) ++ [c] :=
  rfl

theorem typed_ne_nil (t : Typewriter) (h : cs ≠ []) : t.typed cs ≠ [] := by
  obtain ⟨c, cs, rfl⟩ := List.exists_cons_of_ne_nil h
  have := typed_append t [c] cs
  rw [List.singleton_append, typed_singleton] at this
  simp [this]

/-! ## Lines -/

/-- Inside a line there are no margins. -/
theorem typeAll_of_mid (ht : t.atLineStart = false) (hcs : '\n' ∉ cs) :
    t.typeAll cs = { t with paper := t.paper ++ cs } := by
  induction cs generalizing t with
  | nil => rw [typeAll, List.foldl_nil, List.append_nil]
  | cons c cs ih =>
    rw [List.mem_cons, not_or] at hcs
    have hc : (c == '\n') = false := by simpa using Ne.symm hcs.1
    have hstep : t.type c = { t with paper := t.paper ++ [c] } := by
      simp [type, ht, hc]
    show (t.type c).typeAll cs = _
    rw [hstep, ih (t := { t with paper := t.paper ++ [c] }) ht hcs.2, List.append_assoc,
      List.singleton_append]

/-- A piece of one line is not empty and holds a line feed at most at its end. -/
def IsPiece (l : List Char) : Prop :=
  ∃ body c, l = body ++ [c] ∧ '\n' ∉ body

theorem isPiece_of_mem_lines {cs l : List Char} (h : l ∈ Text.lines cs) : IsPiece l := by
  induction cs generalizing l with
  | nil => cases h
  | cons c cs ih =>
    rw [Text.lines] at h
    split at h
    · rcases List.mem_cons.1 h with rfl | h
      · exact ⟨[], c, rfl, List.not_mem_nil⟩
      · exact ih h
    · rename_i hc
      split at h
      · rw [List.mem_singleton.1 h]
        exact ⟨[], c, rfl, List.not_mem_nil⟩
      · rename_i l' ls hls
        rw [hls] at ih
        rcases List.mem_cons.1 h with rfl | h
        · obtain ⟨body, d, rfl, hbody⟩ := ih (l := l') (by simp)
          exact ⟨c :: body, d, rfl, by simp [hbody, Ne.symm hc]⟩
        · exact ih (by simp [h])

theorem typed_of_mid (ht : t.atLineStart = false) (h : IsPiece cs) : t.typed cs = cs := by
  obtain ⟨body, c, rfl, hbody⟩ := h
  have hstop : (t.typeAll body).atLineStart = false := by
    rw [typeAll_of_mid ht hbody]
    exact ht
  rw [typed_append, typed_singleton, hstop, typed,
    typeAll_of_mid (t := t.clear) ht hbody]
  rfl

/-- **A piece of one line** is typed as it is, behind the margin if it begins the line and is not
    blank. -/
theorem typed_piece (t : Typewriter) (h : IsPiece cs) :
    t.typed cs = (if t.atLineStart && cs != ['\n'] then t.margin else []) ++ cs := by
  obtain ⟨body, c, rfl, hbody⟩ := h
  cases body with
  | nil =>
    rw [List.nil_append, typed_singleton]
    by_cases hc : c = '\n' <;> simp [hc]
  | cons b body =>
    rw [List.mem_cons, not_or] at hbody
    -- behind its first character the piece goes on inside the line
    have hb : b ≠ '\n' := Ne.symm hbody.1
    have hmid : (t.type b).atLineStart = false := beq_eq_false_iff_ne.2 hb
    rw [List.cons_append, ← List.singleton_append, typed_append, typed_singleton]
    show _ ++ (t.type b).typed (body ++ [c]) = _
    rw [typed_of_mid hmid ⟨body, c, rfl, hbody.2⟩]
    simp [hb]

/-- The last character decides. -/
theorem atLineStart_typeAll (t : Typewriter) (cs : List Char) :
    (t.typeAll cs).atLineStart =
      if cs = [] then t.atLineStart else cs.getLast? == some '\n' := by
  rcases List.eq_nil_or_concat cs with rfl | ⟨cs, c, rfl⟩
  · rfl
  · rw [List.concat_eq_append, if_neg (by simp), typeAll_append, List.getLast?_concat]
    rfl

theorem atLineStart_piece (t : Typewriter) (h : IsPiece cs) :
    (t.typeAll cs).atLineStart = (cs.getLast? == some '\n') := by
  obtain ⟨body, c, rfl, -⟩ := h
  rw [atLineStart_typeAll, if_neg (by simp)]

/-! ## Line starts -/

/-- The flag says whether the paper is empty or ends in a line feed. -/
def Tracks (t : Typewriter) : Prop :=
  t.atLineStart = true ↔ t.paper = [] ∨ t.paper.getLast? = some '\n'

theorem Tracks.type (t : Typewriter) (c : Char) : (t.type c).Tracks := by
  show (c == '\n') = true ↔ (_ ++ [c] = [] ∨ (_ ++ [c]).getLast? = some '\n')
  simp

theorem Tracks.typeAll (h : t.Tracks) (cs : List Char) : (t.typeAll cs).Tracks := by
  induction cs generalizing t with
  | nil => exact h
  | cons c cs ih => exact ih (.type t c)

mutual

theorem Tracks.exec {t : Typewriter} (h : t.Tracks) : ∀ c : Command, (t.exec c).Tracks
  | .write text => h.typeAll text.toList
  | .emit s stmt => h.typeAll ((stmt.pieces s).flatMap String.toList)
  | .flush | .indent | .unindent => h
  | .indented body => Tracks.execAll (t := t.indent) h body

theorem Tracks.execAll {t : Typewriter} (h : t.Tracks) :
    ∀ cs : List Command, (t.execAll cs).Tracks
  | [] => h
  | c :: cs => Tracks.execAll (h.exec c) cs

end

end Typewriter

/-! ## Printers -/

theorem Text.encodeChars_flatten_replicate (n : Nat) (cs : List Char) :
    encodeChars (List.replicate n cs).flatten = (List.replicate n (encodeChars cs)).flatten := by
  induction n with
  | zero => rfl
  | succ n ih =>
    rw [List.replicate_succ, List.flatten_cons, encodeChars_append, ih, List.replicate_succ,
      List.flatten_cons]

variable {σ : Type}

/-- A typewriter that stands where the printer does, with an empty sheet of paper. -/
def Printer.typewriter (p : Printer σ) : Typewriter :=
  ⟨p.unit, p.depth, p.atLineStart, []⟩

theorem Printer.tracks_typewriter {p : Printer σ} (hp : p.atLineStart = true) :
    p.typewriter.Tracks :=
  ⟨fun _ => Or.inl rfl, fun _ => hp⟩

/-- A printer that has gone where the typewriter goes for some characters. -/
theorem Printer.typewriter_eq {p q : Printer σ} {cs : List Char} (hunit : q.unit = p.unit)
    (hdepth : q.depth = p.depth)
    (hflag : q.atLineStart = (p.typewriter.typeAll cs).atLineStart) :
    q.typewriter = (p.typewriter.typeAll cs).clear := by
  rw [typewriter, hunit, hdepth, hflag]
  simp [typewriter, Typewriter.clear]

theorem Printer.encodeChars_margin (p : Printer σ) (l : List Char) :
    Text.encodeChars (if p.typewriter.atLineStart && l != ['\n'] then p.typewriter.margin else []) =
      (List.replicate (p.margin l) (Text.encode p.unit)).flatten := by
  show Text.encodeChars (if p.atLineStart && l != ['\n'] then _ else _) = _
  rw [margin]
  split_ifs
  · exact Text.encodeChars_flatten_replicate p.depth p.unit.toList
  · rfl

end ScalarStubs
