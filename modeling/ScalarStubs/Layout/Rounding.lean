/-
  Offsets: sums and rounding on 64-bit words.

  * `addOffset` adds two words and refuses a sum that does not fit.
  * `alignUp` rounds an offset up to a multiple of a power of two by masking. It forms the sum of
    offset and alignment before it subtracts one, so the sum has to fit, not only the result.
  * `LeastMultiple` says on natural numbers what rounding up means, without masks.
-/

namespace ScalarStubs

/-- Why an offset cannot be formed. -/
inductive OffsetError where
  | notPowerOfTwo
  | overflow
deriving DecidableEq, Repr

/-- The wording of a refusal. -/
def OffsetError.message : OffsetError → String
  | .notPowerOfTwo => "alignment must be a power of two"
  | .overflow => "attempt to add with overflow"

/-- The sum of two words, if it is a word. -/
def addOffset (a b : UInt64) : Except OffsetError UInt64 :=
  if a.toNat + b.toNat < UInt64.size then .ok (a + b) else .error .overflow

/-- Whether exactly one bit of the word is set. -/
def isPowerOfTwo (a : UInt64) : Bool :=
  a != 0 && a &&& (a - 1) == 0

/-- Rounds an offset up to a multiple of the alignment. -/
def alignUp (offset alignment : UInt64) : Except OffsetError UInt64 := do
  if !isPowerOfTwo alignment then
    throw .notPowerOfTwo
  let sum ← addOffset offset alignment
  return (sum - 1) &&& ~~~(alignment - 1)

/-- The number `m` is the least multiple of `a` that is not below `n`. -/
def LeastMultiple (a n m : Nat) : Prop :=
  a ∣ m ∧ n ≤ m ∧ ∀ k, a ∣ k → n ≤ k → m ≤ k

end ScalarStubs
