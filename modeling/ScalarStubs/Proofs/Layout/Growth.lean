/-
  How a layout grows with its fields.

  * `placeFrom_take`: the placements of the first fields are the first placements.
  * `append_keeps`: appending fields moves none of those that are there already; the alignment of
    the struct turns into a multiple of itself, and the size does not shrink.
  * `placeFrom_eight`: fields of eight bytes each lie eight bytes apart.
  * `eight_bytes_each`: eight bytes for each field are enough. So no sum leaves 64 bits as long as
    there are at most `2 ^ 61 - 2` fields, and with one field more there are structs for which one
    does.
-/
import ScalarStubs.Proofs.Layout.Order

namespace ScalarStubs

namespace StructLayout

/-! ## Fewer fields -/

/-- A run over fields is a run over the first of them, and from where that stops, over the rest. -/
theorem placeFrom_take {start : UInt64} {fs : List Field} {ps : List Placement} {stop : UInt64}
    (h : placeFrom start fs = .ok (ps, stop)) (k : Nat) :
    ∃ mid, placeFrom start (fs.take k) = .ok (ps.take k, mid) ∧
      placeFrom mid (fs.drop k) = .ok (ps.drop k, stop) := by
  induction k generalizing start fs ps with
  | zero => exact ⟨start, rfl, h⟩
  | succ k ih =>
    cases fs with
    | nil => cases h; exact ⟨_, rfl, rfl⟩
    | cons f fs =>
      obtain ⟨p, next, qs, hp, hnext, hqs, rfl⟩ := placeFrom_cons_eq_ok_iff.1 h
      obtain ⟨mid, htake, hdrop⟩ := ih hqs
      exact ⟨mid, placeFrom_cons_eq_ok_iff.2 ⟨p, next, _, hp, hnext, htake, rfl⟩, hdrop⟩

theorem maxAlignment_take_dvd {fs : List Field} {m : StructLayout} (h : ofFields fs = .ok m)
    (k : Nat) : (maxAlignment (m.fields.take k)).toNat ∣ m.alignment.toNat := by
  rcases (isGreatest_maxAlignment (m.fields.take k)).1 with hone | ⟨p, hp, hpa⟩
  · rw [hone]
    exact Nat.one_dvd _
  · rw [← hpa]
    exact alignment_dvd h p (List.mem_of_mem_take hp)

/-- **Appending fields moves none.** The first fields of a struct make up a struct by themselves.
    They lie where they lie in the whole, whose alignment is a multiple of theirs, and they take up
    no more bytes. -/
theorem append_keeps {as bs : List Field} {m : StructLayout} (h : ofFields (as ++ bs) = .ok m) :
    ∃ l, ofFields as = .ok l ∧ m.fields.take as.length = l.fields ∧
      l.alignment.toNat ∣ m.alignment.toNat ∧ l.size ≤ m.size := by
  obtain ⟨stop, hplaces, -, hsize⟩ := ofFields_eq_ok_iff.1 h
  obtain ⟨mid, htake, hdrop⟩ := placeFrom_take hplaces as.length
  rw [List.take_left] at htake
  have hdvd := maxAlignment_take_dvd h as.length
  generalize m.fields.take as.length = ps at htake hdvd ⊢
  have hmid : mid.toNat ≤ stop.toNat := (placeFrom_laid hdrop).bounds.1
  obtain ⟨hpow, hlt, hleast⟩ := alignUp_eq_ok_iff.1 hsize
  have hle := Nat.le_of_dvd (Nat.pos_of_isPowerOfTwo hpow) hdvd
  -- both summands are smaller than in the whole struct, so rounding gets through here too
  obtain ⟨size, hshort, hround⟩ :=
    alignUp_of_lt (maxAlignment_dvd_eight (placeFrom_laid htake)).1 (o := mid) (by omega)
  have hl : ofFields as = .ok ⟨ps, size, maxAlignment ps⟩ :=
    ofFields_eq_ok_iff.2 ⟨mid, htake, rfl, hround⟩
  refine ⟨_, hl, rfl, hdvd, ?_⟩
  exact UInt64.le_iff_toNat_le.2
    (hshort.le_of_dvd (hdvd.trans hleast.1) (hmid.trans hleast.2.1))

/-- A byte, and then a double behind it: the struct of the byte alone is neither aligned nor padded
    like the whole. -/
theorem append_keeps_byte :
    let as : List Field := [⟨"flag", .scalar .bool⟩]
    let bs : List Field := [⟨"value", .scalar .double⟩]
    let m : StructLayout :=
      ⟨[⟨⟨"flag", .scalar .bool⟩, 0, 1, 1⟩, ⟨⟨"value", .scalar .double⟩, 8, 8, 8⟩], 16, 8⟩
    ofFields (as ++ bs) = .ok m ∧
      ∃ l, ofFields as = .ok l ∧ m.fields.take 1 = l.fields ∧ l.alignment.toNat ∣ 8 ∧
        l.size ≤ 16 := by
  intro as bs m
  have hm : ofFields (as ++ bs) = .ok m := by decide
  exact ⟨hm, append_keeps hm⟩

/-! ## Eight bytes for each field -/

theorem exists_placeFrom_zero {fs : List Field} (hfs : ∀ f ∈ fs, f.type.scalar?.isSome)
    (hlen : fs.length < 2 ^ 61) :
    ∃ ps stop, placeFrom 0 fs = .ok (ps, stop) ∧ stop.toNat ≤ 8 * fs.length := by
  have hzero : (0 : UInt64).toNat ≤ 8 * 0 := Nat.le_refl 0
  obtain ⟨ps, stop, h, hle⟩ := exists_placeFrom hfs hzero (by omega)
  exact ⟨ps, stop, h, by omega⟩

theorem stop_le_eight {fs : List Field} {ps : List Placement} {stop : UInt64}
    (h : placeFrom 0 fs = .ok (ps, stop)) (hlen : fs.length < 2 ^ 61) :
    stop.toNat ≤ 8 * fs.length := by
  obtain ⟨qs, stop', h', hle⟩ := exists_placeFrom_zero (placeFrom_laid h).sized hlen
  obtain ⟨-, rfl⟩ : qs = ps ∧ stop' = stop := by simpa using h'.symm.trans h
  exact hle

/-- Both sums that are formed for the next field are words: the one that it is rounded from, and its
    end. -/
theorem sums_lt {start : UInt64} {fs : List Field} {ps : List Placement} {stop : UInt64}
    (h : placeFrom start fs = .ok (ps, stop)) :
    ∀ p ∈ ps.head?, start.toNat + p.alignment.toNat < 2 ^ 64 ∧ p.finish < 2 ^ 64 := by
  cases fs with
  | nil => cases h; simp
  | cons f fs =>
    obtain ⟨p, mid, qs, hp, hmid, -, rfl⟩ := placeFrom_cons_eq_ok_iff.1 h
    have hfinish : p.finish < 2 ^ 64 := stop_eq_ok_iff.1 hmid ▸ mid.toNat_lt
    simpa using ⟨(place_eq_ok_iff.1 hp).2, hfinish⟩

/-- Eight bytes for each field leave room for the padding too, as every alignment divides eight. -/
theorem size_le_eight {fs : List Field} {l : StructLayout} (h : ofFields fs = .ok l)
    (hlen : fs.length < 2 ^ 61) : l.size.toNat ≤ 8 * fs.length := by
  obtain ⟨stop, hplaces, ha, hsize⟩ := ofFields_eq_ok_iff.1 h
  have hdvd : l.alignment.toNat ∣ 8 := ha ▸ (maxAlignment_dvd_eight (placeFrom_laid hplaces)).2
  obtain ⟨-, -, hleast⟩ := alignUp_eq_ok_iff.1 hsize
  exact hleast.le_of_dvd (Nat.dvd_mul_right_of_dvd hdvd _) (stop_le_eight hplaces hlen)

/-! ## One field too many -/

theorem ofFields_of_padding_error {fs : List Field} {ps : List Placement} {stop : UInt64}
    {e : OffsetError} (hplaces : placeFrom 0 fs = .ok (ps, stop))
    (hpadding : alignUp stop (maxAlignment ps) = .error e) : ofFields fs = .error (.offset e) := by
  rw [ofFields, hplaces]
  show ((alignUp stop (maxAlignment ps)).mapError LayoutError.offset >>= _) = _
  rw [hpadding]
  rfl

/-- Fields of eight bytes lie eight bytes apart. -/
theorem placeFrom_eight {fs : List Field} (hfs : ∀ f ∈ fs, f.width = 8) (hne : fs ≠ [])
    (hlen : fs.length < 2 ^ 61) :
    ∃ ps stop, placeFrom 0 fs = .ok (ps, stop) ∧ stop.toNat = 8 * fs.length ∧
      (maxAlignment ps).toNat = 8 := by
  have hsized : ∀ f ∈ fs, f.type.scalar?.isSome := fun f hf => Field.sized_of_width (hfs f hf)
  obtain ⟨ps, stop, hps, -⟩ := exists_placeFrom_zero hsized hlen
  have hlaid := placeFrom_laid hps
  refine ⟨ps, stop, hps, ?_, ?_⟩
  · have hwide : fs.Pairwise fun f g => g.width ≤ f.width :=
      List.pairwise_of_forall_mem_list fun f hf g hg => by rw [hfs f hf, hfs g hg]
    have hwidths : fs.map Field.width = List.replicate fs.length 8 :=
      List.map_eq_replicate_iff.2 hfs
    obtain ⟨hstop, -⟩ := hlaid.packed (fun f _ => Nat.dvd_zero _) hwide
    rw [hstop, hwidths, List.sum_replicate_nat]
    change 0 + fs.length * 8 = _
    omega
  · have hmax := isGreatest_maxAlignment ps
    rw [hlaid.alignments_eq] at hmax
    obtain ⟨f, hf⟩ := List.exists_mem_of_ne_nil fs hne
    have hge := hmax.2 (Or.inr ⟨f, hf, hfs f hf⟩)
    have hle := Nat.le_of_dvd (by decide) (maxAlignment_dvd_eight hlaid).2
    omega

/-- The end of `2 ^ 61 - 1` fields of eight bytes is a multiple of eight, but its sum with eight is
    no word any more. -/
theorem padding_overflow {fs : List Field} (hfs : ∀ f ∈ fs, f.width = 8)
    (hlen : fs.length = 2 ^ 61 - 1) :
    ∃ ps stop, placeFrom 0 fs = .ok (ps, stop) ∧ stop.toNat = 2 ^ 64 - 8 ∧
      alignUp stop (maxAlignment ps) = .error .overflow := by
  have hne : fs ≠ [] := List.ne_nil_of_length_pos (by omega)
  obtain ⟨ps, stop, hps, hstop, hmax⟩ := placeFrom_eight hfs hne (by omega)
  refine ⟨ps, stop, hps, by omega, ?_⟩
  have hpow := (maxAlignment_dvd_eight (placeFrom_laid hps)).1
  rw [alignUp_eq, if_pos hpow, if_neg (by omega)]

/-- **Eight bytes for each field.** Up to `2 ^ 61 - 2` fields get a layout, and no sum that is
    formed for it leaves 64 bits: `k` fields end at `8 * k` at the latest, and so does a struct of
    `k` fields. With one field more this can fail. Fields of eight bytes are then all placed, but
    the sum from which the end of the struct is rounded is no word. -/
theorem eight_bytes_each :
    (∀ fs : List Field, fs.length ≤ 2 ^ 61 - 2 → (∀ f ∈ fs, f.type.scalar?.isSome) →
      ∃ l stop, ofFields fs = .ok l ∧ placeFrom 0 fs = .ok (l.fields, stop) ∧
        stop.toNat + l.alignment.toNat < 2 ^ 64 ∧ l.size.toNat ≤ 8 * fs.length ∧
        ∀ k ≤ fs.length, ∃ mid, placeFrom 0 (fs.take k) = .ok (l.fields.take k, mid) ∧
          mid.toNat ≤ 8 * k ∧
            ∀ p ∈ l.fields[k]?, mid.toNat + p.alignment.toNat < 2 ^ 64 ∧ p.finish < 2 ^ 64) ∧
    ∀ fs : List Field, fs.length = 2 ^ 61 - 1 → (∀ f ∈ fs, f.width = 8) →
      ∃ ps stop, placeFrom 0 fs = .ok (ps, stop) ∧ stop.toNat = 2 ^ 64 - 8 ∧
        alignUp stop (maxAlignment ps) = .error .overflow ∧
          ∃ e, ofFields fs = .error e ∧ e.message = "attempt to add with overflow" := by
  refine ⟨fun fs hlen hsized => ?_, fun fs hlen hfs => ?_⟩
  · obtain ⟨l, hl⟩ := exists_ofFields hlen hsized
    obtain ⟨stop, hplaces, -, hround⟩ := ofFields_eq_ok_iff.1 hl
    refine ⟨l, stop, hl, hplaces, (alignUp_eq_ok_iff.1 hround).2.1, size_le_eight hl (by omega),
      fun k hk => ?_⟩
    obtain ⟨mid, htake, hdrop⟩ := placeFrom_take hplaces k
    have hshort : (fs.take k).length = k := List.length_take_of_le hk
    have hmid := stop_le_eight htake (by omega)
    have hsums := sums_lt hdrop
    rw [List.head?_drop] at hsums
    exact ⟨mid, htake, hshort ▸ hmid, hsums⟩
  · obtain ⟨ps, stop, hps, hstop, hpadding⟩ := padding_overflow hfs hlen
    exact ⟨ps, stop, hps, hstop, hpadding, _, ofFields_of_padding_error hps hpadding, rfl⟩

/-- Two fields with padding behind them, and the shortest struct of eight-byte fields that is
    refused. -/
theorem eight_bytes_each_long :
    let fs : List Field := [⟨"value", .scalar .int64⟩, ⟨"flag", .scalar .bool⟩]
    let gs : List Field := List.replicate (2 ^ 61 - 1) ⟨"value", .scalar .int64⟩
    (∃ l, ofFields fs = .ok l ∧ l.size.toNat ≤ 16) ∧
      ∃ e, ofFields gs = .error e ∧ e.message = "attempt to add with overflow" := by
  intro fs gs
  have hgs : ∀ f ∈ gs, f.width = 8 := by
    intro f hf
    rw [List.eq_of_mem_replicate hf]
    rfl
  obtain ⟨l, -, hl, -, -, hsize, -⟩ := eight_bytes_each.1 fs (by decide) (by decide)
  obtain ⟨-, -, -, -, -, herror⟩ := eight_bytes_each.2 gs List.length_replicate hgs
  exact ⟨⟨l, hl, hsize⟩, herror⟩

end StructLayout

end ScalarStubs
