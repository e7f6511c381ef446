/-
  Numbers of TOML: integers of 64 bits and numbers with a fraction or an exponent.

  * `integer` and `float` read a number whose value can be held; nothing else about it matters
    here. Digits may be grouped by single underscores between them, and a decimal number begins
    with a zero only if that is its only digit in front of the point.
  * `Decimal` is the value of a number as a whole number times a power of ten, and
    `Decimal.IsTooLarge` says that the nearest double is infinite.
-/
import ScalarStubs.Toml.Quotation.Basic

namespace ScalarStubs.Toml

open Reader

/-! ## Digits -/

/-- Whether a character is a digit of a base. -/
def isDigitOf (base : Nat) (c : Char) : Bool :=
  match hexValue? c with
  | some d => d < base
  | none => false

/-- Reads further digits, each with or without an underscore in front of it. -/
def moreDigits (base : Nat) : Reader (List Char) :=
  many do
    let _ ← optional (exactly "_")
    oneOf (isDigitOf base)

/-- Reads digits, one at least. -/
def digits (base : Nat) : Reader (List Char) := do
  let d ← oneOf (isDigitOf base)
  let ds ← moreDigits base
  return d :: ds

/-- The number that digits stand for. -/
def valueOf (base : Nat) (ds : List Char) : Nat :=
  (number? base ds).getD 0

/-- Reads the decimal digits in front of a point. -/
def wholePart : Reader (List Char) := do
  let d ← oneOf (isDigitOf 10)
  let ds ← if d = '0' then pure [] else moreDigits 10
  return d :: ds

/-- Reads a sign and tells whether it is a minus. -/
def sign : Reader Bool := do
  let s ← optional (oneOf fun c => c == '+' || c == '-')
  return s == some '-'

/-! ## Integers -/

/-- Reads an integer in a base other than ten, behind a mark that stands for the base. -/
def basedInteger (mark : String) (base : Nat) : Reader Int := do
  exactly mark
  let ds ← digits base
  return valueOf base ds

/-- Reads an integer in base ten. -/
def decimalInteger : Reader Int := do
  let negative ← sign
  let ds ← wholePart
  return if negative then -valueOf 10 ds else valueOf 10 ds

/-- Reads an integer that 64 bits can hold. -/
def integer : Reader Int := do
  let n ← basedInteger "0x" 16 <|> basedInteger "0o" 8 <|> basedInteger "0b" 2 <|> decimalInteger
  guard (Int64.minValue.toInt ≤ n ∧ n ≤ Int64.maxValue.toInt)
  return n

/-! ## Floating-point numbers -/

/-- A number, `mantissa * 10 ^ exponent` or the negative of that. -/
structure Decimal where
  negative : Bool
  mantissa : Nat
  exponent : Int
deriving DecidableEq, Repr

namespace Decimal

/-- From here on the nearest double is infinite: half a unit beyond the greatest one. -/
def infinityFrom : Nat :=
  ((1 <<< 54) - 1) <<< 970

/-- Whether the absolute value of a number that is not zero has its first digit, counted from the
    point, at the 310th place or further left, or at the 309th and is too large there. -/
def isTooLarge (d : Decimal) : Bool :=
  let place := (Nat.toDigits 10 d.mantissa).length + d.exponent
  d.mantissa ≠ 0 && (310 ≤ place || (place = 309 &&
    infinityFrom * Nat.pow 10 (-d.exponent).toNat ≤ d.mantissa * Nat.pow 10 d.exponent.toNat))

end Decimal

/-- Reads an exponent with its mark. -/
def exponent : Reader Int := do
  let _ ← oneOf fun c => c == 'e' || c == 'E'
  let negative ← sign
  let ds ← digits 10
  return if negative then -valueOf 10 ds else valueOf 10 ds

/-- Reads a number with a fraction, an exponent or both. -/
def decimal : Reader Decimal := do
  let negative ← sign
  let whole ← wholePart
  let (fraction, e) ← (do return ([], ← exponent)) <|> (do
    exactly "."
    let ds ← digits 10
    let e ← optional exponent
    return (ds, e.getD 0))
  return ⟨negative, valueOf 10 (whole ++ fraction), e - fraction.length⟩

/-- Reads the words for what is no finite number. -/
def nonFinite : Reader Unit := do
  let _ ← sign
  exactly "inf" <|> exactly "nan"

/-- Reads a floating-point number. A number that is too large is refused, unless it is negative. -/
def float : Reader Unit :=
  (do
    let d ← decimal
    guard (d.negative || !d.isTooLarge)) <|>
  nonFinite

end ScalarStubs.Toml
