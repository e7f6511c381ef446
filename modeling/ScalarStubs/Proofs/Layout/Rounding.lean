/-
  Masking a word is rounding a number: `alignUp` against `LeastMultiple`.

  * `toNat_and_not`: clearing the bits below a power of two takes the remainder off.
  * `alignUp_eq_ok_iff`: rounding succeeds exactly on a power of two whose sum with the offset
    is a word, and then yields the least multiple.
  * `rounding_laws`: what is refused, and the laws that least multiples bring with them. Only the
    sums that are formed on the way tell rounding in two steps from rounding in one.
-/
import Mathlib
import ScalarStubs.Layout.Rounding
import ScalarStubs.Proofs.Refusal

namespace ScalarStubs

/-! ## Least multiples -/

namespace LeastMultiple

variable {a n m : Nat}

theorem unique {m' : Nat} (h : LeastMultiple a n m) (h' : LeastMultiple a n m') : m = m' :=
  Nat.le_antisymm (h.2.2 m' h'.1 h'.2.1) (h'.2.2 m h.1 h.2.1)

theorem le_of_dvd {b : Nat} (h : LeastMultiple a n m) (hb : a ∣ b) (hn : n ≤ b) : m ≤ b :=
  h.2.2 b hb hn

theorem eq_of_dvd (h : LeastMultiple a n m) (ha : a ∣ n) : m = n :=
  Nat.le_antisymm (h.le_of_dvd ha le_rfl) h.2.1

theorem eq_iff_dvd (h : LeastMultiple a n m) : m = n ↔ a ∣ n :=
  ⟨fun hm => hm ▸ h.1, h.eq_of_dvd⟩

theorem mono {n' m' : Nat} (h : LeastMultiple a n m) (h' : LeastMultiple a n' m') (hn : n ≤ n') :
    m ≤ m' :=
  h.le_of_dvd h'.1 (hn.trans h'.2.1)

/-- From `n` on and from its least multiple of `a` on there are the same multiples of `b`. -/
theorem comp_iff {b k : Nat} (hab : a ∣ b) (h : LeastMultiple a n m) :
    LeastMultiple b m k ↔ LeastMultiple b n k := by
  have hsame : ∀ j, b ∣ j → (m ≤ j ↔ n ≤ j) := fun j hj =>
    ⟨h.2.1.trans, h.le_of_dvd (hab.trans hj)⟩
  refine and_congr_right fun hk => and_congr (hsame k hk) ?_
  exact forall_congr' fun j => imp_congr_right fun hj => imp_congr (hsame j hj) Iff.rfl

/-- What is left of `n + a - 1` without its remainder is the least multiple. -/
theorem sub_mod (ha : 0 < a) (n : Nat) : LeastMultiple a n (n + a - 1 - (n + a - 1) % a) := by
  have hlt := Nat.mod_lt (n + a - 1) ha
  have hdvd : a ∣ n + a - 1 - (n + a - 1) % a := Nat.dvd_sub_mod _
  refine ⟨hdvd, by omega, fun k hk hn => Nat.le_of_not_lt fun hkm => ?_⟩
  -- two multiples are at least `a` apart, and the greater of these two is below `n + a`
  have := Nat.le_of_dvd (by omega) (Nat.dvd_sub hdvd hk)
  omega

end LeastMultiple

/-! ## Masks -/

theorem isPowerOfTwo_iff (a : UInt64) : isPowerOfTwo a = true ↔ a.toNat.isPowerOfTwo := by
  have hz : a = 0 ↔ a.toNat = 0 := by rw [← UInt64.toNat_inj]; rfl
  rw [← Nat.ne_zero_and_sub_one_eq_zero_iff_isPowerOfTwo]
  simp only [isPowerOfTwo, Bool.and_eq_true, bne_iff_ne, ne_eq, beq_iff_eq, hz]
  refine and_congr_right fun ha => ?_
  have hle : (1 : UInt64) ≤ a := by rw [UInt64.le_iff_toNat_le]; exact Nat.one_le_iff_ne_zero.2 ha
  rw [← UInt64.toNat_inj, UInt64.toNat_and, UInt64.toNat_sub_of_le _ _ hle]
  rfl

/-- A word is made up of the bits that a mask keeps and of those that it clears. -/
theorem toNat_and_not_add (x m : UInt64) : (x &&& ~~~m).toNat + (x &&& m).toNat = x.toNat := by
  have hdisj : (x.toBitVec &&& ~~~m.toBitVec) &&& (x.toBitVec &&& m.toBitVec) = 0 := by
    ext i; simp; grind
  have hjoin : (x.toBitVec &&& ~~~m.toBitVec) ||| (x.toBitVec &&& m.toBitVec) = x.toBitVec := by
    ext i; simp; grind
  have hsum := BitVec.toNat_add_of_and_eq_zero hdisj
  rw [BitVec.add_eq_or_of_and_eq_zero _ _ hdisj, hjoin] at hsum
  exact hsum.symm

theorem toNat_and_not {x a : UInt64} (ha : a.toNat.isPowerOfTwo) :
    (x &&& ~~~(a - 1)).toNat = x.toNat - x.toNat % a.toNat := by
  have hle : (1 : UInt64) ≤ a := by
    rw [UInt64.le_iff_toNat_le]; exact Nat.pos_of_isPowerOfTwo ha
  have hlow : (x &&& (a - 1)).toNat = x.toNat % a.toNat := by
    obtain ⟨k, hk⟩ := ha
    rw [UInt64.toNat_and, UInt64.toNat_sub_of_le _ _ hle, hk]
    exact Nat.and_two_pow_sub_one_eq_mod _ _
  have := toNat_and_not_add x (a - 1)
  omega

/-! ## Words that are sums and multiples -/

theorem addOffset_eq (a b : UInt64) :
    addOffset a b = if a.toNat + b.toNat < 2 ^ 64 then .ok (a + b) else .error .overflow :=
  rfl

theorem addOffset_eq_ok_iff {a b c : UInt64} :
    addOffset a b = .ok c ↔ c.toNat = a.toNat + b.toNat := by
  have hc := c.toNat_lt
  rw [addOffset_eq]
  split
  · rename_i h
    rw [Except.ok.injEq, ← UInt64.toNat_inj, UInt64.toNat_add, Nat.mod_eq_of_lt h]
    exact eq_comm
  · simp only [reduceCtorEq, false_iff]
    omega

/-- The sum from which rounding starts, less one, and what masking leaves of it. -/
theorem toNat_masked {o a : UInt64} (ha : a.toNat.isPowerOfTwo)
    (h : o.toNat + a.toNat < 2 ^ 64) :
    LeastMultiple a.toNat o.toNat ((o + a - 1) &&& ~~~(a - 1)).toNat := by
  have hpos := Nat.pos_of_isPowerOfTwo ha
  have hsum : (o + a).toNat = o.toNat + a.toNat := by rw [UInt64.toNat_add, Nat.mod_eq_of_lt h]
  have hle : (1 : UInt64) ≤ o + a := by
    rw [UInt64.le_iff_toNat_le, hsum]; exact Nat.le_trans hpos (Nat.le_add_left ..)
  have hpred : (o + a - 1).toNat = o.toNat + a.toNat - 1 := by
    rw [UInt64.toNat_sub_of_le _ _ hle, hsum]; rfl
  rw [toNat_and_not ha, hpred]
  exact LeastMultiple.sub_mod hpos o.toNat

theorem alignUp_eq (o a : UInt64) :
    alignUp o a =
      if a.toNat.isPowerOfTwo then
        if o.toNat + a.toNat < 2 ^ 64 then .ok ((o + a - 1) &&& ~~~(a - 1)) else .error .overflow
      else .error .notPowerOfTwo := by
  unfold alignUp
  simp only [addOffset_eq, ← isPowerOfTwo_iff]
  cases isPowerOfTwo a
  · rfl
  · by_cases h : o.toNat + a.toNat < 2 ^ 64
    · simp only [if_pos h]; rfl
    · simp only [if_neg h]; rfl

/-- **Rounding up.** It succeeds exactly if the alignment is a power of two and the sum of both
    words is a word, and the result is the least multiple. -/
theorem alignUp_eq_ok_iff {o a r : UInt64} :
    alignUp o a = .ok r ↔
      a.toNat.isPowerOfTwo ∧ o.toNat + a.toNat < 2 ^ 64 ∧
        LeastMultiple a.toNat o.toNat r.toNat := by
  rw [alignUp_eq]
  split_ifs with ha hlt
  · have hleast := toNat_masked ha hlt
    rw [Except.ok.injEq]
    constructor
    · rintro rfl; exact ⟨ha, hlt, hleast⟩
    · exact fun h => UInt64.toNat_inj.1 (hleast.unique h.2.2)
  · exact ⟨nofun, fun h => absurd h.2.1 hlt⟩
  · exact ⟨nofun, fun h => absurd h.1 ha⟩

theorem alignUp_of_lt {o a : UInt64} (ha : a.toNat.isPowerOfTwo)
    (h : o.toNat + a.toNat < 2 ^ 64) :
    ∃ r, LeastMultiple a.toNat o.toNat r.toNat ∧ alignUp o a = .ok r :=
  ⟨_, toNat_masked ha h, alignUp_eq_ok_iff.2 ⟨ha, h, toNat_masked ha h⟩⟩

/-! ## Laws -/

theorem alignUp_eq_notPowerOfTwo_iff {o a : UInt64} :
    alignUp o a = .error .notPowerOfTwo ↔ ¬ a.toNat.isPowerOfTwo := by
  rw [alignUp_eq]
  split_ifs <;> simp_all

theorem alignUp_eq_overflow_iff {o a : UInt64} :
    alignUp o a = .error .overflow ↔ a.toNat.isPowerOfTwo ∧ 2 ^ 64 ≤ o.toNat + a.toNat := by
  rw [alignUp_eq]
  split_ifs <;> simp_all

theorem OffsetError.message_injective : message.Injective := by
  intro e e' h
  cases e <;> cases e' <;> first | rfl | exact absurd h (by decide)

/-- Of two powers of two, the smaller divides the larger. -/
theorem dvd_of_isPowerOfTwo {a b : UInt64} (ha : a.toNat.isPowerOfTwo)
    (hb : b.toNat.isPowerOfTwo) (h : a ≤ b) : a.toNat ∣ b.toNat := by
  rw [UInt64.le_iff_toNat_le] at h
  obtain ⟨i, hi⟩ := ha
  obtain ⟨j, hj⟩ := hb
  rw [hi, hj] at h ⊢
  exact Nat.pow_dvd_pow 2 ((Nat.pow_le_pow_iff_right (by decide)).1 h)

/-- Rounding on to a larger alignment is rounding to it at once, as long as the sum that is formed
    on the way is a word. -/
theorem alignUp_alignUp {o a r b q : UInt64} (hr : alignUp o a = .ok r) (hab : a ≤ b) :
    alignUp r b = .ok q ↔ r.toNat + b.toNat < 2 ^ 64 ∧ alignUp o b = .ok q := by
  obtain ⟨ha, -, hleast⟩ := alignUp_eq_ok_iff.1 hr
  have hor := hleast.2.1
  rw [alignUp_eq_ok_iff, alignUp_eq_ok_iff]
  constructor
  · rintro ⟨hb, hlt, hq⟩
    have hdvd := dvd_of_isPowerOfTwo ha hb hab
    exact ⟨hlt, hb, by omega, (hleast.comp_iff hdvd).1 hq⟩
  · rintro ⟨hlt, hb, -, hq⟩
    have hdvd := dvd_of_isPowerOfTwo ha hb hab
    exact ⟨hb, hlt, (hleast.comp_iff hdvd).2 hq⟩

/-- **The laws of rounding.** An alignment is refused exactly if it is no power of two, a sum
    exactly if it is no word, and otherwise the result is the least multiple. So rounding is
    monotone, leaves multiples and nothing else as they are, and may be done in steps. -/
theorem rounding_laws (o a : UInt64) :
    ((alignUp o a).mapError OffsetError.message = .error "alignment must be a power of two" ↔
      ¬ a.toNat.isPowerOfTwo) ∧
    ((alignUp o a).mapError OffsetError.message = .error "attempt to add with overflow" ↔
      a.toNat.isPowerOfTwo ∧ 2 ^ 64 ≤ o.toNat + a.toNat) ∧
    ((∃ r, alignUp o a = .ok r ∧ LeastMultiple a.toNat o.toNat r.toNat) ↔
      a.toNat.isPowerOfTwo ∧ o.toNat + a.toNat < 2 ^ 64) ∧
    ∀ r, alignUp o a = .ok r →
      (∀ o' r', o ≤ o' → alignUp o' a = .ok r' → r ≤ r') ∧
      (r = o ↔ a.toNat ∣ o.toNat) ∧
      ∀ b q, a ≤ b →
        (alignUp r b = .ok q ↔ r.toNat + b.toNat < 2 ^ 64 ∧ alignUp o b = .ok q) := by
  refine ⟨?_, ?_, ?_, fun r hr => ⟨fun o' r' ho hr' => ?_, ?_, fun b q hab => ?_⟩⟩
  · exact (mapError_eq_error_iff OffsetError.message_injective).trans alignUp_eq_notPowerOfTwo_iff
  · exact (mapError_eq_error_iff OffsetError.message_injective).trans alignUp_eq_overflow_iff
  · constructor
    · rintro ⟨r, hr, -⟩
      obtain ⟨ha, hlt, -⟩ := alignUp_eq_ok_iff.1 hr
      exact ⟨ha, hlt⟩
    · rintro ⟨ha, hlt⟩
      obtain ⟨r, hleast, hr⟩ := alignUp_of_lt ha hlt
      exact ⟨r, hr, hleast⟩
  · rw [UInt64.le_iff_toNat_le] at ho ⊢
    exact (alignUp_eq_ok_iff.1 hr).2.2.mono (alignUp_eq_ok_iff.1 hr').2.2 ho
  · rw [← UInt64.toNat_inj]
    exact (alignUp_eq_ok_iff.1 hr).2.2.eq_iff_dvd
  · exact alignUp_alignUp hr hab

/-- Close to the last word, rounding in steps is refused where rounding at once is not. -/
theorem rounding_laws_last :
    let o : UInt64 := .ofNat (2 ^ 64 - 5)
    let r : UInt64 := .ofNat (2 ^ 64 - 4)
    let last : UInt64 := .ofNat (2 ^ 64 - 2)
    alignUp o 2 = .ok r ∧ o ≤ r ∧ alignUp (last - 1) 2 = .ok last ∧ r ≤ last ∧ r ≠ o ∧
      alignUp o 4 = .ok r ∧ alignUp r 4 ≠ .ok r := by
  intro o r last
  have ho : alignUp o 2 = .ok r := by cbv
  have hlast : alignUp (last - 1) 2 = .ok last := by cbv
  have hodd : ¬ (2 : UInt64).toNat ∣ o.toNat := by decide
  have hsum : ¬ r.toNat + (4 : UInt64).toNat < 2 ^ 64 := by decide
  obtain ⟨-, -, -, hlaws⟩ := rounding_laws o 2
  obtain ⟨hmono, hfixed, hsteps⟩ := hlaws r ho
  refine ⟨ho, by decide, hlast, hmono _ last (by decide) hlast, fun h => hodd (hfixed.1 h),
    by cbv, fun h => ?_⟩
  exact hsum ((hsteps 4 r (by decide)).1 h).1

end ScalarStubs
