/-
  Padding: texts cut and filled to a width, as the columns of a table need them.

  * `Padding` holds a width, an optional limit, the side on which the text stands and the
    character that fills the gap; `Padding.apply` cuts a text down to the limit first and then
    fills it up to the width. `Padding.checked` lets through what can be asked for.
  * `column` and `columnRight` are the two paddings that the tables use: fill with spaces, the
    text at the left or at the right.
  * `Display` is how things of a type fill a field; `Display.inField` shows one in a field that can
    be asked for.
  * `length_applyChars`: a padded text is as long as the longer of the width and the cut text.

  Width and limit count characters, so neither looks at how a character is encoded.
-/

namespace ScalarStubs.Text

/-- Where a text stands in a field that is wider than the text. -/
inductive Side where
  | left
  | right
  /-- In the middle; if the gap is odd, the larger half comes last. -/
  | center
deriving DecidableEq, Repr

/-- A field that texts are fitted into. -/
structure Padding where
  /-- The least number of characters of the result. -/
  width : Nat := 0
  /-- The greatest number of characters taken from the text. -/
  limit : Option Nat := none
  side : Side := .left
  fill : Char := ' '
deriving DecidableEq, Repr

/-- Why a field cannot be asked for. -/
inductive PaddingError where
  /-- The width or the limit is greater than `Padding.greatest`. -/
  | outOfRange
deriving DecidableEq, Repr

/-- The wording of a refusal. -/
def PaddingError.message : PaddingError → String
  | .outOfRange => "Formatting argument out of range"

namespace Padding

/-- The greatest width, and the greatest limit. -/
def greatest : Nat := 65535

/-- The same field, if its width and its limit are not too great. -/
def checked (p : Padding) : Except PaddingError Padding :=
  if p.width ≤ greatest ∧ p.limit.getD 0 ≤ greatest then .ok p else .error .outOfRange

/-- The part of a text that the limit lets through. -/
def cut (p : Padding) (cs : List Char) : List Char :=
  match p.limit with
  | none => cs
  | some n => cs.take n

/-- Fits a list of characters into the field. -/
def applyChars (p : Padding) (cs : List Char) : List Char :=
  let body := p.cut cs
  let gap := p.width - body.length
  match p.side with
  | .left => body ++ List.replicate gap p.fill
  | .right => List.replicate gap p.fill ++ body
  | .center => List.replicate (gap / 2) p.fill ++ body ++ List.replicate (gap - gap / 2) p.fill

/-- Fits a text into the field. -/
def apply (p : Padding) (s : String) : String :=
  String.ofList (p.applyChars s.toList)

theorem length_applyChars (p : Padding) (cs : List Char) :
    (p.applyChars cs).length = max p.width (p.cut cs).length := by
  unfold applyChars
  cases p.side <;> simp <;> omega

end Padding

/-- The text, then spaces up to `width` characters. -/
def column (width : Nat) (s : String) : String :=
  Padding.apply { width } s

/-- Spaces, then the text, together at least `width` characters. -/
def columnRight (width : Nat) (s : String) : String :=
  Padding.apply { width, side := .right } s

end ScalarStubs.Text

namespace ScalarStubs

open Text (Padding PaddingError)

/-- How things of a type fill a field. -/
class Display (α : Type) where
  /-- What is shown in a field; the field may go unheeded. -/
  shown : α → Padding → String

/-- Shows something in a field, if its width and its limit are not too great. -/
def Display.inField {α : Type} [Display α] (a : α) (p : Padding) : Except PaddingError String := do
  return shown a (← p.checked)

end ScalarStubs
