/-
  Lines: a text cut behind each line feed.

  * `lines` is the list of lines, each with the line feed that ends it; only the last one may
    lack it. No line is empty.
  * `flatten_lines`: put together again, the lines are the text.
-/

namespace ScalarStubs.Text

/-- The lines of a text, line feeds included. -/
def lines : List Char → List (List Char)
  | [] => []
  | c :: cs =>
    if c = '\n' then [c] :: lines cs
    else
      match lines cs with
      | [] => [[c]]
      | l :: ls => (c :: l) :: ls

theorem flatten_lines (cs : List Char) : (lines cs).flatten = cs := by
  induction cs with
  | nil => rfl
  | cons c cs ih =>
    simp only [lines]
    split
    · simp [ih]
    · split <;> simp_all

end ScalarStubs.Text
