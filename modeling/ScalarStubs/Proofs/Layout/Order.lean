/-
  The order of fields, and the padding between them.

  * `Field.width` is the size of a field, and its alignment.
  * `Laid.sum_width_le`: fields in a row take up at least the sum of their widths.
  * `Laid.packed`: fields that begin at a multiple of their widths and get no wider take up just
    that sum, each of them right behind the one before it.
  * `wide_first`: the order of the fields makes no difference to the alignment of a struct, and no
    order makes the struct smaller than the one from wide to narrow.
-/
import ScalarStubs.Proofs.Layout.Separation

namespace ScalarStubs

/-! ## Widths of fields -/

namespace Field

/-- The size of a field in bytes, which is its alignment too; zero if it has none. -/
def width (f : Field) : Nat :=
  (f.type.width?.map UInt64.toNat).getD 0

theorem width_of_scalar? {f : Field} {k : Scalar} (h : f.type.scalar? = some k) :
    f.width = k.width.toNat := by
  rw [width, IdlType.width?, h]
  rfl

theorem sized_of_width {f : Field} {n : Nat} (h : f.width = n + 1) : f.type.scalar?.isSome := by
  cases hk : f.type.scalar? with
  | none => simp [width, IdlType.width?, hk] at h
  | some k => rfl

/-- Widths are powers of two. -/
theorem width_dvd_width {f g : Field} (hf : f.type.scalar?.isSome) (hg : g.type.scalar?.isSome)
    (h : g.width ≤ f.width) : g.width ∣ f.width := by
  obtain ⟨k, hk⟩ := Option.isSome_iff_exists.1 hf
  obtain ⟨k', hk'⟩ := Option.isSome_iff_exists.1 hg
  rw [width_of_scalar? hk, width_of_scalar? hk'] at h ⊢
  exact Scalar.width_dvd_width h

end Field

namespace Placement.Suits

variable {p : Placement} {f : Field} {start : Nat}

theorem alignment_eq (h : p.Suits f start) : p.alignment.toNat = f.width := by
  obtain ⟨k, hk, -, ha⟩ := h.scalar
  rw [ha, Field.width_of_scalar? hk]

theorem size_eq (h : p.Suits f start) : p.size.toNat = f.width := by
  obtain ⟨k, hk, hs, -⟩ := h.scalar
  rw [hs, Field.width_of_scalar? hk]

theorem finish_eq (h : p.Suits f start) : p.finish = p.offset.toNat + f.width := by
  rw [finish, h.size_eq]

theorem sized (h : p.Suits f start) : f.type.scalar?.isSome := by
  obtain ⟨k, hk, -, -⟩ := h.scalar
  rw [hk]
  rfl

end Placement.Suits

/-! ## Rows of fields -/

namespace Laid

variable {start stop : Nat} {fs : List Field} {ps : List Placement}

theorem sized (h : Laid start fs ps stop) : ∀ f ∈ fs, f.type.scalar?.isSome := by
  induction h with
  | nil => simp
  | cons hp _ ih => exact List.forall_mem_cons.2 ⟨hp.sized, ih⟩

theorem sum_width_le (h : Laid start fs ps stop) : start + (fs.map Field.width).sum ≤ stop := by
  induction h with
  | nil => simp
  | cons hp _ ih =>
    have hoff := hp.offset.2.1
    rw [hp.finish_eq] at ih
    rw [List.map_cons, List.sum_cons]
    omega

/-- Fields that get no wider leave no gaps: the narrower width divides the wider one, and so every
    sum of widths that is met on the way. -/
theorem packed (h : Laid start fs ps stop) (hstart : ∀ f ∈ fs, f.width ∣ start)
    (hwide : fs.Pairwise fun f g => g.width ≤ f.width) :
    stop = start + (fs.map Field.width).sum ∧
      ∀ (i : Nat) (hi : i < ps.length),
        ps[i].offset.toNat = start + ((fs.take i).map Field.width).sum := by
  induction h with
  | nil => simp
  | @cons start f fs p ps stop hp hrest ih =>
    rw [List.forall_mem_cons] at hstart
    rw [List.pairwise_cons] at hwide
    have hoff : p.offset.toNat = start := hp.offset.eq_of_dvd (hp.alignment_eq ▸ hstart.1)
    have hfin : p.finish = start + f.width := by rw [hp.finish_eq, hoff]
    have hnext : ∀ g ∈ fs, g.width ∣ p.finish := by
      intro g hg
      rw [hfin]
      exact Nat.dvd_add (hstart.2 g hg)
        (Field.width_dvd_width hp.sized (hrest.sized g hg) (hwide.1 g hg))
    obtain ⟨hstop, hoffs⟩ := ih hnext hwide.2
    refine ⟨by rw [hstop, hfin, List.map_cons, List.sum_cons, Nat.add_assoc], fun i hi => ?_⟩
    cases i with
    | zero => simpa using hoff
    | succ i =>
      rw [List.getElem_cons_succ, hoffs, hfin, List.take_succ_cons, List.map_cons, List.sum_cons,
        Nat.add_assoc]

theorem map_size (h : Laid start fs ps stop) :
    ps.map (fun p => p.size.toNat) = fs.map Field.width := by
  induction h with
  | nil => rfl
  | cons hp _ ih => rw [List.map_cons, List.map_cons, ih, hp.size_eq]

/-- The alignments among placed fields are the widths among the fields. -/
theorem alignments_eq (h : Laid start fs ps stop) :
    {n | ∃ p ∈ ps, p.alignment.toNat = n} = {n | ∃ f ∈ fs, f.width = n} := by
  induction h with
  | nil => simp
  | cons hp _ ih =>
    simp only [Set.ext_iff, Set.mem_ofPred_eq, List.mem_cons, exists_eq_or_imp,
      hp.alignment_eq] at ih ⊢
    exact fun n => or_congr_right (ih n)

end Laid

/-! ## Whole structs -/

namespace StructLayout

variable {fs gs : List Field} {l m : StructLayout}

theorem isGreatest_width (h : ofFields fs = .ok l) :
    IsGreatest (insert 1 {n | ∃ f ∈ fs, f.width = n}) l.alignment.toNat := by
  obtain ⟨stop, hlaid, ha, -⟩ := ofFields_laid h
  rw [ha, ← hlaid.alignments_eq]
  exact isGreatest_maxAlignment l.fields

theorem alignment_eq_of_perm (hperm : fs.Perm gs) (hl : ofFields fs = .ok l)
    (hm : ofFields gs = .ok m) : l.alignment = m.alignment := by
  have hl := isGreatest_width hl
  simp only [hperm.mem_iff] at hl
  exact UInt64.toNat_inj.1 (hl.unique (isGreatest_width hm))

theorem sum_width_le_size (h : ofFields fs = .ok l) :
    (fs.map Field.width).sum ≤ l.size.toNat := by
  obtain ⟨stop, hlaid, -, hsize⟩ := ofFields_laid h
  have hstop := hlaid.sum_width_le
  have hpadded := hsize.2.1
  omega

theorem alignment_dvd_size (h : ofFields fs = .ok l) : l.alignment.toNat ∣ l.size.toNat := by
  obtain ⟨stop, -, -, hsize⟩ := ofFields_laid h
  exact hsize.1

/-- Fields from wide to narrow: no padding but that behind the last of them. -/
theorem ofFields_packed (h : ofFields fs = .ok l)
    (hwide : fs.Pairwise fun f g => g.width ≤ f.width) :
    (∀ (i : Nat) (hi : i < l.fields.length),
      l.fields[i].offset.toNat = ((l.fields.take i).map fun p => p.size.toNat).sum) ∧
      LeastMultiple l.alignment.toNat (l.fields.map fun p => p.size.toNat).sum l.size.toNat := by
  obtain ⟨stop, hlaid, -, hsize⟩ := ofFields_laid h
  obtain ⟨hstop, hoffs⟩ := hlaid.packed (fun f _ => Nat.dvd_zero _) hwide
  simp only [Nat.zero_add, List.map_take, ← hlaid.map_size] at hstop hoffs
  rw [hstop] at hsize
  refine ⟨fun i hi => ?_, hsize⟩
  rw [List.map_take]
  exact hoffs i hi

/-- **Wide fields first.** Two orders of the same fields have the same alignment. If no field of
    the first is wider than one in front of it, its fields lie without gaps, it is padded behind the
    last of them only, and the other order takes no fewer bytes. -/
theorem wide_first (hperm : fs.Perm gs) (hlen : fs.length ≤ 2 ^ 61 - 2)
    (hsized : ∀ f ∈ fs, f.type.scalar?.isSome) :
    ∃ l m, ofFields fs = .ok l ∧ ofFields gs = .ok m ∧ l.alignment = m.alignment ∧
      ((fs.Pairwise fun f g => g.width ≤ f.width) →
        l.fields.map Placement.toField = fs ∧
        (∀ (i : Nat) (hi : i < l.fields.length),
          l.fields[i].offset.toNat = ((l.fields.take i).map fun p => p.size.toNat).sum) ∧
        LeastMultiple l.alignment.toNat (l.fields.map fun p => p.size.toNat).sum l.size.toNat ∧
        l.size ≤ m.size) := by
  obtain ⟨l, hl⟩ := exists_ofFields hlen hsized
  obtain ⟨m, hm⟩ := exists_ofFields (hperm.length_eq ▸ hlen)
    fun g hg => hsized g (hperm.mem_iff.2 hg)
  have halign := alignment_eq_of_perm hperm hl hm
  refine ⟨l, m, hl, hm, halign, fun hwide => ?_⟩
  obtain ⟨hoffs, hsize⟩ := ofFields_packed hl hwide
  refine ⟨(ofFields_natural hl).fields, hoffs, hsize, ?_⟩
  -- the other size is a multiple of the same alignment, and all fields find room in it
  have hdvd : l.alignment.toNat ∣ m.size.toNat := halign ▸ alignment_dvd_size hm
  have hsum : (l.fields.map fun p => p.size.toNat).sum ≤ m.size.toNat := by
    obtain ⟨stop, hlaid, -, -⟩ := ofFields_laid hl
    rw [hlaid.map_size, (hperm.map Field.width).sum_eq]
    exact sum_width_le_size hm
  exact UInt64.le_iff_toNat_le.2 (hsize.le_of_dvd hdvd hsum)

/-- Three fields, from wide to narrow and in an order with a gap of seven bytes. -/
theorem wide_first_gap :
    let color : EnumDecl := { name := "Color", storage := .uint16 }
    let wide : List Field :=
      [⟨"value", .scalar .double⟩, ⟨"color", .enum color⟩, ⟨"flag", .scalar .bool⟩]
    let mixed : List Field :=
      [⟨"flag", .scalar .bool⟩, ⟨"value", .scalar .double⟩, ⟨"color", .enum color⟩]
    wide.Perm mixed ∧ wide.length ≤ 2 ^ 61 - 2 ∧ (∀ f ∈ wide, f.type.scalar?.isSome) ∧
      (wide.Pairwise fun f g => g.width ≤ f.width) ∧
        ∃ l m, ofFields wide = .ok l ∧ ofFields mixed = .ok m ∧ l.alignment = m.alignment ∧
          l.size ≤ m.size := by
  intro color wide mixed
  have hperm : wide.Perm mixed := by decide
  have hlen : wide.length ≤ 2 ^ 61 - 2 := by decide
  have hsized : ∀ f ∈ wide, f.type.scalar?.isSome := by decide
  have hwide : wide.Pairwise fun f g => g.width ≤ f.width := by decide
  obtain ⟨l, m, hl, hm, halign, hless⟩ := wide_first hperm hlen hsized
  obtain ⟨-, -, -, hsize⟩ := hless hwide
  exact ⟨hperm, hlen, hsized, hwide, l, m, hl, hm, halign, hsize⟩

end StructLayout

end ScalarStubs
