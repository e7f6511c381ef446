/-
  Quotations: the four ways in which TOML writes a text.

  * `Quotation` is a mark, and whether it stands three times at each end; then the text may run
    over several lines. Between double quotes a backslash begins an escape, between apostrophes
    it is a character like any other.
  * `Quotation.read` reads a text between the marks. It goes unit by unit: `unit` reads an
    escape, a line break or a plain character, and `close` the marks at the end.
-/
import ScalarStubs.Toml.Reader

namespace ScalarStubs.Toml

/-- The marks that a text stands between. -/
inductive Mark where
  | double
  | single
deriving DecidableEq, Repr

/-- The character of a mark. -/
def Mark.char : Mark → Char
  | double => '"'
  | single => '\''

/-- A way to write a text. -/
structure Quotation where
  mark : Mark
  /-- Whether the mark is tripled, and the text may hold line breaks. -/
  tripled : Bool
deriving DecidableEq, Repr

/-! ## Escapes -/

/-- The value of a hexadecimal digit. -/
def hexValue? (c : Char) : Option Nat :=
  if '0' ≤ c && c ≤ '9' then some (c.toNat - '0'.toNat)
  else if 'a' ≤ c && c ≤ 'f' then some (c.toNat - 'a'.toNat + 10)
  else if 'A' ≤ c && c ≤ 'F' then some (c.toNat - 'A'.toNat + 10)
  else none

/-- The number that digits of a base stand for, if all of them are digits. -/
def number? (base : Nat) (digits : List Char) : Option Nat :=
  digits.foldlM (fun n c => (hexValue? c).map (base * n + ·)) 0

/-- Reads the character of a code point, given by so many hexadecimal digits. -/
def codePoint (count : Nat) : Reader Char := fun cs => do
  guard ((cs.take count).length = count)
  let n ← number? 16 (cs.take count)
  guard n.isValidChar
  return (Char.ofNat n, cs.drop count)

/-- What a sign behind a backslash stands for. -/
def signs : List (Char × Char) :=
  [('b', '\x08'), ('t', '\t'), ('n', '\n'), ('f', '\x0c'), ('r', '\r'), ('"', '"'), ('\\', '\\')]

/-- Reads what follows a backslash. -/
def escape : Reader Char := fun
  | [] => none
  | 'u' :: cs => codePoint 4 cs
  | 'U' :: cs => codePoint 8 cs
  | c :: cs => (signs.lookup c).map fun e => (e, cs)

/-- What is left behind line breaks and blanks. -/
def skipLines : List Char → List Char
  | [] => []
  | '\r' :: '\n' :: cs => skipLines cs
  | c :: cs => if isMargin c || c == '\n' then skipLines cs else c :: cs

/-- Reads the end of a line behind a backslash, and all that is blank in the next ones. -/
def joinLines : Reader Unit := fun cs =>
  (newline (cs.dropWhile isMargin)).map fun (_, rest) => ((), skipLines rest)

/-! ## Texts -/

namespace Quotation

/-- The marks at either end. -/
def delimiter (q : Quotation) : List Char :=
  List.replicate (if q.tripled then 3 else 1) q.mark.char

/-- Reads the marks at the end. Up to two marks in front of a tripled one belong to the text. -/
def close (q : Quotation) : Reader (List Char) := fun cs =>
  let marks := (cs.takeWhile (· == q.mark.char)).length
  if q.tripled then
    if 3 ≤ marks then
      some (List.replicate (min (marks - 3) 2) q.mark.char, cs.drop (min marks 5))
    else none
  else if 1 ≤ marks then some ([], cs.drop 1)
  else none

/-- Reads a unit of the text, other than a mark that ends it: an escape, a line break or a
    character. -/
def unit (q : Quotation) : Reader (List Char) := fun
  | [] => none
  | c :: cs =>
    if q.mark = .double ∧ c = '\\' then
      match (if q.tripled then joinLines cs else none) with
      | some (_, rest) => some ([], rest)
      | none => (escape cs).map fun (e, rest) => ([e], rest)
    else if isPlain c then some ([c], cs)
    else if q.tripled then (newline (c :: cs)).map fun (_, rest) => (['\n'], rest)
    else none

/-! ### Each unit takes something -/

theorem length_of_newline {cs rest : List Char} {u : Unit} (h : newline cs = some (u, rest)) :
    rest.length < cs.length := by
  unfold newline at h
  split at h <;> cases h <;> simp only [List.length_cons] <;> omega

theorem length_skipLines_le (cs : List Char) : (skipLines cs).length ≤ cs.length := by
  fun_induction skipLines cs with
  | case1 => exact Nat.le_refl _
  | case2 cs ih => simp only [List.length_cons]; omega
  | case3 c cs _ _ ih => simp only [List.length_cons]; omega
  | case4 => exact Nat.le_refl _

theorem length_of_joinLines {cs rest : List Char} {u : Unit} (h : joinLines cs = some (u, rest)) :
    rest.length < cs.length := by
  obtain ⟨⟨v, last⟩, hn, he⟩ := Option.map_eq_some_iff.1 h
  cases he
  have h₁ := length_of_newline hn
  have h₂ := length_skipLines_le last
  have h₃ := (List.dropWhile_sublist isMargin (l := cs)).length_le
  omega

theorem length_of_codePoint {count : Nat} {c : Char} {cs rest : List Char}
    (h : codePoint count cs = some (c, rest)) : rest.length ≤ cs.length := by
  obtain ⟨_, -, h⟩ := Option.bind_eq_some_iff.1 h
  obtain ⟨n, -, h⟩ := Option.bind_eq_some_iff.1 h
  obtain ⟨_, -, h⟩ := Option.bind_eq_some_iff.1 h
  cases h
  simp

theorem length_of_escape {c : Char} {cs rest : List Char} (h : escape cs = some (c, rest)) :
    rest.length < cs.length := by
  unfold escape at h
  split at h
  · exact nomatch h
  · exact Nat.lt_succ_of_le (length_of_codePoint h)
  · exact Nat.lt_succ_of_le (length_of_codePoint h)
  · obtain ⟨e, _, he⟩ := Option.map_eq_some_iff.1 h
    cases he
    exact Nat.lt_succ_self _

theorem length_of_unit {q : Quotation} {t cs rest : List Char} (h : q.unit cs = some (t, rest)) :
    rest.length < cs.length := by
  unfold unit at h
  split at h
  · exact nomatch h
  · rename_i c cs
    split at h
    · split at h
      · rename_i hj
        cases h
        split at hj
        · have := length_of_joinLines hj; simp only [List.length_cons]; omega
        · exact nomatch hj
      · obtain ⟨⟨e, last⟩, he, ht⟩ := Option.map_eq_some_iff.1 h
        cases ht
        have := length_of_escape he
        simp only [List.length_cons]; omega
    · split at h
      · cases h; simp
      · split at h
        · obtain ⟨⟨u, last⟩, hn, ht⟩ := Option.map_eq_some_iff.1 h
          cases ht
          exact length_of_newline hn
        · exact nomatch h

/-! ### Reading -/

/-- Reads a text from its first unit to the marks at the end. -/
def body (q : Quotation) (cs : List Char) : Option (List Char × List Char) :=
  match q.close cs with
  | some r => some r
  | none =>
    match _ : q.unit cs with
    | none => none
    | some (t, rest) => (q.body rest).map fun (ts, last) => (t ++ ts, last)
termination_by cs.length
decreasing_by exact length_of_unit ‹_›

/-- Leaves out a line break at the beginning of a text over several lines. -/
def opening (q : Quotation) (cs : List Char) : List Char :=
  if q.tripled then
    match newline cs with
    | some (_, rest) => rest
    | none => cs
  else cs

/-- Reads a text that is written in this way. -/
def read (q : Quotation) : Reader String := fun cs => do
  let rest ← Reader.behind? q.delimiter cs
  let (t, last) ← q.body (q.opening rest)
  return (String.ofList t, last)

end Quotation

/-- Reads a text that is written in one line. -/
def oneLineText : Reader String :=
  Quotation.read ⟨.double, false⟩ <|> Quotation.read ⟨.single, false⟩

/-- Reads a text. Where the marks are tripled they do not enclose an empty text. -/
def text : Reader String :=
  Quotation.read ⟨.double, true⟩ <|> Quotation.read ⟨.single, true⟩ <|> oneLineText

end ScalarStubs.Toml
