/-
  Numerals: unsigned decimal numbers below a bound, as they are given on a command line.

  * `Numeral.read` reads digits after an optional plus sign. It goes from left to right and stops
    at the first fault, so a number that has grown too large is reported before a stray character
    behind it, and a stray character is reported even where one more digit would be too many.
-/

namespace ScalarStubs.Text

/-- Why a text is not a number below the bound. -/
inductive NumeralError where
  | empty
  | strayCharacter
  | tooLarge
deriving DecidableEq, Repr

/-- The wording of a refusal. -/
def NumeralError.message : NumeralError → String
  | .empty => "cannot parse integer from empty string"
  | .strayCharacter => "invalid digit found in string"
  | .tooLarge => "number too large to fit in target type"

namespace Numeral

/-- The value of a decimal digit. -/
def digit? (c : Char) : Option Nat :=
  if c.isDigit then some (c.toNat - '0'.toNat) else none

/-- Reads digits onto the value `n` read so far, all below `bound`. -/
def readDigits (bound n : Nat) : List Char → Except NumeralError Nat
  | [] => .ok n
  | c :: cs =>
    match digit? c with
    | none => .error .strayCharacter
    | some d => if 10 * n + d < bound then readDigits bound (10 * n + d) cs else .error .tooLarge

/-- Reads a number below the bound, with or without a plus sign. -/
def read (bound : Nat) (s : String) : Except NumeralError Nat :=
  match s.toList with
  | [] => .error .empty
  | ['+'] => .error .strayCharacter
  | '+' :: cs => readDigits bound 0 cs
  | cs => readDigits bound 0 cs

end Numeral

end ScalarStubs.Text
