/-
  Where the fields of a struct lie.

  * `Laid` relates fields to their placements on natural numbers, one field behind the other;
    `placeFrom_laid` and `exists_placeFrom` tie the loop on words to it.
  * `StructLayout.Natural` says what natural alignment asks of a whole layout.
  * `ofFields_natural`: every layout is natural.
  * `ofFields_total`: as long as there are at most `2 ^ 61 - 2` fields, a layout is refused only
    for the first field without a size.
-/
import ScalarStubs.Layout.Basic
import ScalarStubs.Proofs.Layout.Rounding
import ScalarStubs.Proofs.Refusal

namespace ScalarStubs

/-! ## Widths -/

namespace Scalar

theorem isPowerOfTwo_width (k : Scalar) : k.width.toNat.isPowerOfTwo := by
  cases k <;> decide

theorem width_dvd_eight (k : Scalar) : k.width.toNat ∣ 8 := by
  cases k <;> decide

theorem width_le_eight (k : Scalar) : k.width.toNat ≤ 8 :=
  Nat.le_of_dvd (by decide) k.width_dvd_eight

theorem width_dvd_width {k k' : Scalar} (h : k.width.toNat ≤ k'.width.toNat) :
    k.width.toNat ∣ k'.width.toNat := by
  revert h
  cases k <;> cases k' <;> decide

end Scalar

theorem IdlType.width?_eq_some_iff {t : IdlType} {w : UInt64} :
    t.width? = some w ↔ ∃ k, t.scalar? = some k ∧ w = k.width := by
  simp [IdlType.width?, eq_comm]

/-! ## One field -/

/-- The offset just behind a placed field, as a number. -/
def Placement.finish (p : Placement) : Nat :=
  p.offset.toNat + p.size.toNat

/-- `p` is the first place for `f` that is not in front of `start`. -/
structure Placement.Suits (p : Placement) (f : Field) (start : Nat) : Prop where
  field : p.toField = f
  scalar : ∃ k, f.type.scalar? = some k ∧ p.size = k.width ∧ p.alignment = k.width
  offset : LeastMultiple p.alignment.toNat start p.offset.toNat

theorem place_eq_ok_iff {f : Field} {start : UInt64} {p : Placement} :
    f.place start = .ok p ↔
      p.Suits f start.toNat ∧ start.toNat + p.alignment.toNat < 2 ^ 64 := by
  unfold Field.place
  constructor
  · intro h
    split at h
    · cases h
    · rename_i w hw
      obtain ⟨k, hk, rfl⟩ := IdlType.width?_eq_some_iff.1 hw
      split at h
      · rename_i o ho
        cases h
        obtain ⟨-, hlt, hleast⟩ := alignUp_eq_ok_iff.1 ho
        exact ⟨⟨rfl, ⟨k, hk, rfl, rfl⟩, hleast⟩, hlt⟩
      · cases h
  · obtain ⟨f', o, size, alignment⟩ := p
    rintro ⟨⟨rfl, ⟨k, hk, rfl, rfl⟩, hleast⟩, hlt⟩
    have ho := alignUp_eq_ok_iff.2 ⟨k.isPowerOfTwo_width, hlt, hleast⟩
    simp only [IdlType.width?_eq_some_iff.2 ⟨k, hk, rfl⟩, ho]

theorem place_unsized {f : Field} (h : f.type.scalar? = none) (start : UInt64) :
    f.place start = .error (.unsizedField f) := by
  simp [Field.place, IdlType.width?, h]

theorem stop_eq_ok_iff {p : Placement} {stop : UInt64} :
    p.stop = .ok stop ↔ stop.toNat = p.finish := by
  rw [Placement.stop, mapError_eq_ok_iff, addOffset_eq_ok_iff]
  rfl

/-! ## Fields in a row -/

/-- The placements `ps` of the fields `fs` follow one another from `start` to `stop`. -/
inductive Laid : Nat → List Field → List Placement → Nat → Prop
  | nil {start} : Laid start [] [] start
  | cons {start f fs p ps stop} : p.Suits f start → Laid p.finish fs ps stop →
      Laid start (f :: fs) (p :: ps) stop

namespace StructLayout

theorem placeFrom_cons_eq_ok_iff {start : UInt64} {f : Field} {fs : List Field}
    {qs : List Placement} {stop : UInt64} :
    placeFrom start (f :: fs) = .ok (qs, stop) ↔
      ∃ p mid ps, f.place start = .ok p ∧ p.stop = .ok mid ∧
        placeFrom mid fs = .ok (ps, stop) ∧ qs = p :: ps := by
  simp only [placeFrom, bind_eq_ok_iff, pure, Except.pure, Except.ok.injEq, Prod.mk.injEq,
    Prod.exists]
  constructor
  · rintro ⟨p, hp, mid, hmid, ps, stop, hps, rfl, rfl⟩
    exact ⟨p, mid, ps, hp, hmid, hps, rfl⟩
  · rintro ⟨p, mid, ps, hp, hmid, hps, rfl⟩
    exact ⟨p, hp, mid, hmid, ps, stop, hps, rfl, rfl⟩

theorem placeFrom_append (start : UInt64) (as bs : List Field) :
    placeFrom start (as ++ bs) = do
      let (ps, mid) ← placeFrom start as
      let (qs, stop) ← placeFrom mid bs
      return (ps ++ qs, stop) := by
  induction as generalizing start with
  | nil => exact (bind_pure (placeFrom start bs)).symm
  | cons f as ih => simp only [List.cons_append, placeFrom, ih, bind_assoc, pure_bind]

theorem placeFrom_laid {start : UInt64} {fs : List Field} {ps : List Placement} {stop : UInt64}
    (h : placeFrom start fs = .ok (ps, stop)) : Laid start.toNat fs ps stop.toNat := by
  induction fs generalizing start ps with
  | nil => cases h; exact .nil
  | cons f fs ih =>
    obtain ⟨p, mid, ps, hp, hmid, hps, rfl⟩ := placeFrom_cons_eq_ok_iff.1 h
    have := ih hps
    rw [stop_eq_ok_iff.1 hmid] at this
    exact .cons (place_eq_ok_iff.1 hp).1 this

/-- As long as the fields, eight bytes each, stay below `2 ^ 64`, the loop gets through; behind
    `n` fields it has come no further than `8 * n`. -/
theorem exists_placeFrom {fs : List Field} (hfs : ∀ f ∈ fs, f.type.scalar?.isSome) {n : Nat}
    {start : UInt64} (hstart : start.toNat ≤ 8 * n) (hn : n + fs.length < 2 ^ 61) :
    ∃ ps stop, placeFrom start fs = .ok (ps, stop) ∧ stop.toNat ≤ 8 * (n + fs.length) := by
  induction fs generalizing n start with
  | nil => exact ⟨[], start, rfl, hstart⟩
  | cons f fs ih =>
    obtain ⟨k, hk⟩ := Option.isSome_iff_exists.1 (hfs f (by simp))
    rw [List.length_cons] at hn ⊢
    have hw := k.width_le_eight
    have hlt : start.toNat + k.width.toNat < 2 ^ 64 := by omega
    obtain ⟨o, hleast, -⟩ := alignUp_of_lt k.isPowerOfTwo_width hlt
    -- `8 * n` is a multiple of every width, so rounding up does not pass it
    have ho := hleast.le_of_dvd (Nat.dvd_mul_right_of_dvd k.width_dvd_eight n) hstart
    have hp : f.place start = .ok ⟨f, o, k.width, k.width⟩ :=
      place_eq_ok_iff.2 ⟨⟨rfl, ⟨k, hk, rfl, rfl⟩, hleast⟩, hlt⟩
    have hmid : (o + k.width).toNat = o.toNat + k.width.toNat := by
      rw [UInt64.toNat_add, Nat.mod_eq_of_lt (by omega)]
    have hnext : (o + k.width).toNat ≤ 8 * (n + 1) := by omega
    obtain ⟨ps, stop, hps, hstop⟩ := ih (fun g hg => hfs g (by simp [hg])) hnext (by omega)
    exact ⟨_, stop, placeFrom_cons_eq_ok_iff.2 ⟨_, _, ps, hp, stop_eq_ok_iff.2 hmid, hps, rfl⟩,
      by omega⟩

end StructLayout

namespace Laid

variable {start stop : Nat} {fs : List Field} {ps : List Placement}

theorem map_toField (h : Laid start fs ps stop) : ps.map Placement.toField = fs := by
  induction h with
  | nil => rfl
  | cons hp _ ih => rw [List.map_cons, ih, hp.field]

theorem scalar (h : Laid start fs ps stop) :
    ∀ p ∈ ps, ∃ k, p.type.scalar? = some k ∧ p.size = k.width ∧ p.alignment = k.width := by
  induction h with
  | nil => simp
  | cons hp _ ih =>
    rw [List.forall_mem_cons]
    refine ⟨?_, ih⟩
    rw [hp.field]; exact hp.scalar

theorem head (h : Laid start fs ps stop) :
    ∀ p ∈ ps.head?, LeastMultiple p.alignment.toNat start p.offset.toNat := by
  cases h with
  | nil => simp
  | cons hp _ => simpa using hp.offset

theorem isChain (h : Laid start fs ps stop) :
    ps.IsChain fun p q => LeastMultiple q.alignment.toNat p.finish q.offset.toNat := by
  induction h with
  | nil => exact .nil
  | cons _ hrest ih => exact List.isChain_cons.2 ⟨hrest.head, ih⟩

theorem stop_eq (h : Laid start fs ps stop) :
    stop = (ps.getLast?.map Placement.finish).getD start := by
  induction h with
  | nil => rfl
  | @cons start f fs p ps stop _ _ ih =>
    rw [ih, List.getLast?_cons]
    cases ps.getLast? <;> rfl

end Laid

/-! ## The whole struct -/

/-- What natural alignment asks of a layout for the fields `fs`. -/
structure StructLayout.Natural (l : StructLayout) (fs : List Field) : Prop where
  /-- Each field has one placement, and their order is kept. -/
  fields : l.fields.map Placement.toField = fs
  scalar : ∀ p ∈ l.fields, ∃ k, p.type.scalar? = some k ∧ p.size = k.width ∧ p.alignment = k.width
  first : ∀ p ∈ l.fields.head?, p.offset = 0
  next : l.fields.IsChain fun p q => LeastMultiple q.alignment.toNat p.finish q.offset.toNat
  alignment : IsGreatest (insert 1 {n | ∃ p ∈ l.fields, p.alignment.toNat = n}) l.alignment.toNat
  /-- The struct is padded behind its last field; the end of no fields is zero. -/
  size : LeastMultiple l.alignment.toNat ((l.fields.getLast?.map Placement.finish).getD 0)
    l.size.toNat

namespace StructLayout

theorem toNat_max (a b : UInt64) : (max a b).toNat = max a.toNat b.toNat := by
  show (if a ≤ b then b else a).toNat = _
  split <;> rename_i h <;> rw [UInt64.le_iff_toNat_le] at h <;> omega

theorem isGreatest_foldl_max (ps : List Placement) (a : UInt64) :
    IsGreatest (insert a.toNat {n | ∃ p ∈ ps, p.alignment.toNat = n})
      (ps.foldl (fun a p => max a p.alignment) a).toNat := by
  induction ps generalizing a with
  | nil => simp [isGreatest_singleton]
  | cons p ps ih =>
    rw [List.foldl_cons]
    obtain ⟨hmem, hup⟩ := ih (max a p.alignment)
    rw [toNat_max] at hmem hup
    have hmax := hup (Set.mem_insert _ _)
    refine ⟨?_, ?_⟩
    · rcases hmem with h | ⟨q, hq, h⟩
      · rcases Nat.le_total a.toNat p.alignment.toNat with hle | hle
        · exact Or.inr ⟨p, by simp, by omega⟩
        · exact Or.inl (by omega)
      · exact Or.inr ⟨q, by simp [hq], h⟩
    · rintro n (rfl | ⟨q, hq, rfl⟩)
      · exact (Nat.le_max_left _ _).trans hmax
      · rcases List.mem_cons.1 hq with rfl | hq
        · exact (Nat.le_max_right _ _).trans hmax
        · exact hup (Or.inr ⟨q, hq, rfl⟩)

theorem isGreatest_maxAlignment (ps : List Placement) :
    IsGreatest (insert 1 {n | ∃ p ∈ ps, p.alignment.toNat = n}) (maxAlignment ps).toNat :=
  isGreatest_foldl_max ps 1

theorem ofFields_eq_ok_iff {fs : List Field} {l : StructLayout} :
    ofFields fs = .ok l ↔ ∃ stop, placeFrom 0 fs = .ok (l.fields, stop) ∧
      l.alignment = maxAlignment l.fields ∧ alignUp stop l.alignment = .ok l.size := by
  simp only [ofFields, bind_eq_ok_iff, pure, Except.pure, Except.ok.injEq, Prod.exists,
    mapError_eq_ok_iff]
  constructor
  · rintro ⟨ps, stop, hps, size, hsize, rfl⟩
    exact ⟨stop, hps, rfl, hsize⟩
  · rintro ⟨stop, hps, ha, hsize⟩
    exact ⟨l.fields, stop, hps, l.size, ha ▸ hsize, by rw [← ha]⟩

/-- A layout is made of placements in a row from zero on, and padding behind them. -/
theorem ofFields_laid {fs : List Field} {l : StructLayout} (h : ofFields fs = .ok l) :
    ∃ stop, Laid 0 fs l.fields stop ∧ l.alignment = maxAlignment l.fields ∧
      LeastMultiple l.alignment.toNat stop l.size.toNat := by
  obtain ⟨stop, hps, ha, hsize⟩ := ofFields_eq_ok_iff.1 h
  exact ⟨_, placeFrom_laid hps, ha, (alignUp_eq_ok_iff.1 hsize).2.2⟩

theorem ofFields_natural {fs : List Field} {l : StructLayout} (h : ofFields fs = .ok l) :
    l.Natural fs := by
  obtain ⟨stop, hlaid, ha, hsize⟩ := ofFields_laid h
  refine ⟨hlaid.map_toField, hlaid.scalar, fun p hp => ?_, hlaid.isChain, ?_, ?_⟩
  · have := (hlaid.head p hp).le_of_dvd (Nat.dvd_zero _) le_rfl
    exact UInt64.toNat_inj.1 (Nat.le_zero.1 this)
  · rw [ha]; exact isGreatest_maxAlignment l.fields
  · rw [← hlaid.stop_eq]; exact hsize

/-- The largest alignment is a width, or one if there is no field. -/
theorem maxAlignment_dvd_eight {fs : List Field} {ps : List Placement} {start stop : Nat}
    (h : Laid start fs ps stop) :
    (maxAlignment ps).toNat.isPowerOfTwo ∧ (maxAlignment ps).toNat ∣ 8 := by
  rcases (isGreatest_maxAlignment ps).1 with hone | ⟨p, hp, hpa⟩
  · rw [hone]; decide
  · obtain ⟨k, -, -, hk⟩ := h.scalar p hp
    rw [← hpa, hk]
    exact ⟨k.isPowerOfTwo_width, k.width_dvd_eight⟩

theorem exists_ofFields {fs : List Field} (hlen : fs.length ≤ 2 ^ 61 - 2)
    (hfs : ∀ f ∈ fs, f.type.scalar?.isSome) : ∃ l, ofFields fs = .ok l := by
  have hzero : (0 : UInt64).toNat ≤ 8 * 0 := Nat.le_refl 0
  obtain ⟨ps, stop, hps, hstop⟩ := exists_placeFrom hfs hzero (by omega)
  obtain ⟨hpow, hdvd⟩ := maxAlignment_dvd_eight (placeFrom_laid hps)
  have hle := Nat.le_of_dvd (by decide) hdvd
  obtain ⟨size, -, hsize⟩ := alignUp_of_lt hpow (o := stop) (by omega)
  exact ⟨⟨ps, size, maxAlignment ps⟩, ofFields_eq_ok_iff.2 ⟨stop, hps, rfl, hsize⟩⟩

theorem ofFields_unsized {as bs : List Field} {f : Field} (hlen : as.length < 2 ^ 61)
    (has : ∀ g ∈ as, g.type.scalar?.isSome) (hf : f.type.scalar? = none) :
    ofFields (as ++ f :: bs) = .error (.unsizedField f) := by
  have hzero : (0 : UInt64).toNat ≤ 8 * 0 := Nat.le_refl 0
  obtain ⟨ps, mid, hps, -⟩ := exists_placeFrom has hzero (by omega)
  rw [ofFields, placeFrom_append, hps]
  simp [bind, Except.bind, placeFrom, place_unsized hf]

theorem exists_first_unsized {fs : List Field} (h : ∃ f ∈ fs, f.type.scalar? = none) :
    ∃ as f bs, fs = as ++ f :: bs ∧ (∀ g ∈ as, g.type.scalar?.isSome) ∧
      f.type.scalar? = none := by
  have hfind : (fs.find? fun f => f.type.scalar?.isNone).isSome := by simpa using h
  obtain ⟨f, hf⟩ := Option.isSome_iff_exists.1 hfind
  obtain ⟨hnone, as, bs, rfl, has⟩ := List.find?_eq_some_iff_append.1 hf
  exact ⟨as, f, bs, rfl, by simpa [Option.isSome_iff_ne_none] using has, by simpa using hnone⟩

/-- **Layouts are natural, and only a field without a size is refused.** Up to `2 ^ 61 - 2`
    fields, no sum leaves 64 bits; of several fields without a size the first is reported. -/
theorem ofFields_total {fs : List Field} (hlen : fs.length ≤ 2 ^ 61 - 2) :
    ((∀ f ∈ fs, f.type.scalar?.isSome) → ∃ l, ofFields fs = .ok l ∧ l.Natural fs) ∧
      ((∃ f ∈ fs, f.type.scalar? = none) →
        ∃ as f bs, fs = as ++ f :: bs ∧ (∀ g ∈ as, g.type.scalar?.isSome) ∧
          f.type.scalar? = none ∧
            ∃ e, ofFields fs = .error e ∧ e = .unsizedField f ∧
              e.message = "field `" ++ f.name ++ "` of type `" ++ f.type.displayName ++
                "` has no fixed size") := by
  refine ⟨fun hfs => ?_, fun hfs => ?_⟩
  · obtain ⟨l, hl⟩ := exists_ofFields hlen hfs
    exact ⟨l, hl, ofFields_natural hl⟩
  · obtain ⟨as, f, bs, rfl, has, hf⟩ := exists_first_unsized hfs
    rw [List.length_append] at hlen
    refine ⟨as, f, bs, rfl, has, hf, _, ofFields_unsized (by omega) has hf, rfl, ?_⟩
    apply String.toList_inj.1
    simp [LayoutError.message, Text.quoted]

/-- A small field in front of a large one, and fields without a size behind one with a size. -/
theorem ofFields_total_padded :
    let name := "id"
    let fs : List Field := [⟨"flag", .scalar .bool⟩, ⟨"value", .typedef name (.scalar .int64)⟩]
    let gs : List Field := [⟨"flag", .scalar .bool⟩, ⟨"name", .string⟩, ⟨"note", .string⟩]
    (∃ l, ofFields fs = .ok l ∧ l.Natural fs) ∧
      ∃ as f bs, gs = as ++ f :: bs ∧ (∀ g ∈ as, g.type.scalar?.isSome) ∧
        ofFields gs = .error (.unsizedField f) := by
  intro name fs gs
  obtain ⟨hsized, -⟩ := ofFields_total (show fs.length ≤ 2 ^ 61 - 2 by decide)
  obtain ⟨-, hunsized⟩ := ofFields_total (show gs.length ≤ 2 ^ 61 - 2 by decide)
  obtain ⟨as, f, bs, hgs, has, -, e, he, rfl, -⟩ := hunsized ⟨⟨"name", .string⟩, by decide, rfl⟩
  exact ⟨hsized (by decide), as, f, bs, hgs, has, he⟩

end StructLayout

end ScalarStubs
