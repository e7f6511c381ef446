/-
  Accesses to the fields of a struct stay apart, also in an array of structs.

  * `AccessorCall` is a call that fetches or stores one field, as generated code spells it;
    `AccessorCall.bytes` are the bytes that it touches in an element of an array.
  * `emit_structAccess`: an access to a struct is written as one call for each field.
  * `calls_apart`: the calls for a layout are naturally aligned, stay within their element and
    do not overlap, and nothing but them reaches a sink.
-/
import ScalarStubs.Proofs.Layout.Placing
import ScalarStubs.Proofs.Printer.Printed

namespace ScalarStubs

/-! ## Order -/

namespace Laid

variable {start stop : Nat} {fs : List Field} {ps : List Placement}

theorem bounds (h : Laid start fs ps stop) :
    start ≤ stop ∧ ∀ p ∈ ps, start ≤ p.offset.toNat ∧ p.finish ≤ stop := by
  induction h with
  | nil => simp
  | @cons start f fs p ps stop hp _ ih =>
    have hoff := hp.offset.2.1
    have hfin : p.offset.toNat ≤ p.finish := Nat.le_add_right ..
    refine ⟨by omega, fun q hq => ?_⟩
    rcases List.mem_cons.1 hq with rfl | hq
    · exact ⟨hoff, ih.1⟩
    · have := ih.2 q hq
      omega

theorem pairwise (h : Laid start fs ps stop) :
    ps.Pairwise fun p q => p.finish ≤ q.offset.toNat := by
  induction h with
  | nil => exact .nil
  | cons _ hrest ih => exact List.pairwise_cons.2 ⟨fun q hq => (hrest.bounds.2 q hq).1, ih⟩

theorem dvd_offset (h : Laid start fs ps stop) :
    ∀ p ∈ ps, p.alignment.toNat ∣ p.offset.toNat := by
  induction h with
  | nil => simp
  | cons hp _ ih => exact List.forall_mem_cons.2 ⟨hp.offset.1, ih⟩

end Laid

namespace StructLayout

variable {fs : List Field} {l : StructLayout}

theorem finish_le_size (h : ofFields fs = .ok l) : ∀ p ∈ l.fields, p.finish ≤ l.size.toNat := by
  obtain ⟨stop, hlaid, -, hsize⟩ := ofFields_laid h
  exact fun p hp => (hlaid.bounds.2 p hp).2.trans hsize.2.1

/-- All alignments divide the greatest one, as widths are powers of two. -/
theorem alignment_dvd (h : ofFields fs = .ok l) :
    ∀ p ∈ l.fields, p.alignment.toNat ∣ l.alignment.toNat := by
  obtain ⟨stop, hlaid, ha, -⟩ := ofFields_laid h
  intro p hp
  obtain ⟨hmem, hup⟩ := isGreatest_maxAlignment l.fields
  obtain ⟨k, -, -, hk⟩ := hlaid.scalar p hp
  have hle := hup (Or.inr ⟨p, hp, rfl⟩)
  rw [ha]
  rcases hmem with hone | ⟨q, hq, hqa⟩
  · have hpos := Nat.pos_of_isPowerOfTwo k.isPowerOfTwo_width
    rw [← hk] at hpos
    rw [show p.alignment.toNat = 1 by omega]
    exact Nat.one_dvd _
  · obtain ⟨k', -, -, hk'⟩ := hlaid.scalar q hq
    rw [← hqa, hk, hk'] at hle ⊢
    exact Scalar.width_dvd_width hle

end StructLayout

/-! ## Calls -/

/-- A call that fetches or stores one field of a struct. -/
structure AccessorCall where
  /-- The variable, or the member of an object, whose value is fetched or stored. -/
  member : String
  /-- The ending of the method's name. -/
  suffix : String
  offset : Nat

namespace AccessorCall

/-- How many bytes the method moves. -/
def width (c : AccessorCall) : Nat :=
  match c.suffix with
  | "Bool" | "Int8" => 1
  | "Int16" => 2
  | "Int32" | "Float" => 4
  | "Int64" | "Double" | "Pointer" => 8
  | _ => 0

/-- The line with the call. -/
def line (a : StructAccess) (c : AccessorCall) : String :=
  let operand := a.base ++ " + " ++ toString c.offset
  match a.direction with
  | .read => c.member ++ " = " ++ a.blob ++ ".get" ++ c.suffix ++ "(" ++ operand ++ ");\n"
  | .write => a.blob ++ ".put" ++ c.suffix ++ "(" ++ operand ++ ", " ++ c.member ++ ");\n"

/-- The bytes that the call touches in element `i` of an array at `base`. -/
def bytes (c : AccessorCall) (l : StructLayout) (base i : ℤ) : Set ℤ :=
  Set.Ico (base + i * l.size.toNat + c.offset) (base + i * l.size.toNat + c.offset + c.width)

end AccessorCall

/-- The bytes of element `i` of an array of structs at `base`. -/
def StructLayout.element (l : StructLayout) (base i : ℤ) : Set ℤ :=
  Set.Ico (base + i * l.size.toNat) (base + (i + 1) * l.size.toNat)

/-- The variable for a field, or the member of the owner if there is one. -/
def StructAccess.member (a : StructAccess) (p : Placement) : String :=
  if a.owner = "" then p.name else a.owner ++ "." ++ p.name

/-- The call for a field; none if the field is not stored as a scalar. -/
def StructAccess.call? (a : StructAccess) (p : Placement) : Option AccessorCall :=
  p.type.scalar?.map fun k => ⟨a.member p, k.spelling.accessor, p.offset.toNat⟩

theorem pieces_structAccess (s : Settings) (a : StructAccess) :
    (Statement.structAccess a).pieces s =
      (a.layout.fields.filterMap a.call?).map (AccessorCall.line a) := by
  rw [Statement.pieces, StructAccess.fields, List.map_filterMap, List.map_filterMap]
  congr 1
  funext p
  unfold StructAccess.field? StructAccess.call?
  cases p.type.scalar? with
  | none => rfl
  | some k =>
    show some (FieldAccess.line _) = some (AccessorCall.line a _)
    unfold FieldAccess.line AccessorCall.line
    cases a.direction <;> rfl

theorem width_accessor (k : Scalar) (member : String) (offset : Nat) :
    (AccessorCall.mk member k.spelling.accessor offset).width = k.width.toNat := by
  cases k <;> rfl

/-- The call `c` accesses the placed field `p`, all of it and nothing else. -/
structure StructAccess.Covers (a : StructAccess) (p : Placement) (c : AccessorCall) : Prop where
  member : c.member = a.member p
  offset : c.offset = p.offset.toNat
  width : c.width = p.size.toNat

theorem Laid.forall₂_call {start stop : Nat} {fs : List Field} {ps : List Placement}
    (h : Laid start fs ps stop) (a : StructAccess) :
    List.Forall₂ a.Covers ps (ps.filterMap a.call?) := by
  induction h with
  | nil => exact .nil
  | cons hp _ ih =>
    obtain ⟨k, hk, hsize, -⟩ := hp.scalar
    rw [← hp.field] at hk
    rw [List.filterMap_cons_some (by rw [StructAccess.call?, hk, Option.map_some])]
    exact .cons ⟨rfl, rfl, by rw [width_accessor, hsize]⟩ ih

theorem map_extent {a : StructAccess} {ps : List Placement} {cs : List AccessorCall}
    (h : List.Forall₂ a.Covers ps cs) :
    cs.map (fun c => (c.offset, c.width)) =
      ps.map fun p => (p.offset.toNat, p.size.toNat) := by
  induction h with
  | nil => rfl
  | cons hc _ ih => rw [List.map_cons, List.map_cons, ih, hc.offset, hc.width]

/-! ## Arrays -/

namespace StructLayout

variable {l : StructLayout} {base i j : ℤ}

theorem disjoint_element (hij : i < j) : Disjoint (l.element base i) (l.element base j) := by
  rw [Set.disjoint_left]
  rintro x ⟨-, hi⟩ ⟨hj, -⟩
  have : (i + 1) * (l.size.toNat : ℤ) ≤ j * l.size.toNat :=
    Int.mul_le_mul_of_nonneg_right hij (Int.natCast_nonneg _)
  omega

theorem bytes_subset_element {c : AccessorCall} (hc : c.offset + c.width ≤ l.size.toNat) :
    c.bytes l base i ⊆ l.element base i := by
  rintro x ⟨hlo, hhi⟩
  rw [element, Int.add_mul, Int.one_mul]
  exact ⟨by omega, by omega⟩

theorem disjoint_bytes {c d : AccessorCall} (h : c.offset + c.width ≤ d.offset) :
    Disjoint (c.bytes l base i) (d.bytes l base i) := by
  rw [Set.disjoint_left]
  rintro x ⟨-, hc⟩ ⟨hd, -⟩
  omega

end StructLayout

/-! ## The calls of one access -/

section

variable {fs : List Field} {a : StructAccess} {cs : List AccessorCall}

theorem emit_structAccess {σ ε : Type} [ByteSink σ ε] (s : Settings) (p : Printer σ) :
    p.emit s (.structAccess a) =
      (p.writeEach ((a.layout.fields.filterMap a.call?).map (AccessorCall.line a))).map id
        (Option.map EmitError.mk) := by
  rw [← pieces_structAccess s]
  rfl

theorem call_within (h : StructLayout.ofFields fs = .ok a.layout)
    (hcs : List.Forall₂ a.Covers a.layout.fields cs) {c : AccessorCall} (hc : c ∈ cs) :
    c.width ∣ c.offset ∧ c.width ∣ a.layout.alignment.toNat ∧
      c.offset + c.width ≤ a.layout.size.toNat := by
  obtain ⟨stop, hlaid, -, -⟩ := StructLayout.ofFields_laid h
  have hmem := List.mem_map_of_mem (f := fun c : AccessorCall => (c.offset, c.width)) hc
  rw [map_extent hcs] at hmem
  obtain ⟨p, hp, hext⟩ := List.mem_map.1 hmem
  obtain ⟨hoff, hwidth⟩ := Prod.mk.inj hext
  obtain ⟨k, -, hsize, halign⟩ := hlaid.scalar p hp
  rw [← hoff, ← hwidth, hsize, ← halign]
  refine ⟨hlaid.dvd_offset p hp, StructLayout.alignment_dvd h p hp, ?_⟩
  rw [halign, ← hsize]
  exact StructLayout.finish_le_size h p hp

theorem calls_pairwise (h : StructLayout.ofFields fs = .ok a.layout)
    (hcs : List.Forall₂ a.Covers a.layout.fields cs) :
    cs.Pairwise fun c d => c.offset + c.width ≤ d.offset := by
  obtain ⟨stop, hlaid, -, -⟩ := StructLayout.ofFields_laid h
  have hpair := List.pairwise_map (R := fun x y : Nat × Nat => x.1 + x.2 ≤ y.1)
    (f := fun p : Placement => (p.offset.toNat, p.size.toNat)) (l := a.layout.fields)
  rw [← map_extent hcs, List.pairwise_map] at hpair
  exact hpair.2 hlaid.pairwise

end

open ByteSink (Accepts taken)

/-- **Accesses to a struct stay apart.** Each field has one call, whose name says how wide the
    field is, and a sink that never refuses gets these calls and nothing else. In an array that
    begins at a multiple of the struct's alignment, the bytes of every call are naturally aligned
    and within their element, and no two calls share a byte. -/
theorem calls_apart {fs : List Field} (a : StructAccess)
    (h : StructLayout.ofFields fs = .ok a.layout) :
    ∃ cs : List AccessorCall,
      (∀ {σ ε : Type} [ByteSink σ ε] (s : Settings) (p : Printer σ),
        p.emit s (.structAccess a) =
          (p.writeEach (cs.map (AccessorCall.line a))).map id (Option.map EmitError.mk)) ∧
      (∀ {σ ε : Type} [ByteSink σ ε] (s : Settings) (p : Printer σ), Accepts none p.sink →
        (p.emit s (.structAccess a)).2 = none ∧
          taken (p.emit s (.structAccess a)).1.sink =
            taken p.sink ++ p.output (String.join (cs.map (AccessorCall.line a)))) ∧
      a.layout.fields.map Placement.toField = fs ∧ List.Forall₂ a.Covers a.layout.fields cs ∧
      ∀ base : ℤ, (a.layout.alignment.toNat : ℤ) ∣ base →
        (∀ c ∈ cs, ∀ i, (c.width : ℤ) ∣ base + i * a.layout.size.toNat + c.offset ∧
          c.bytes a.layout base i ⊆ a.layout.element base i) ∧
        ∀ (m n : Fin cs.length) (i j : ℤ), (i, m) ≠ (j, n) →
          Disjoint (cs[m].bytes a.layout base i) (cs[n].bytes a.layout base j) := by
  obtain ⟨stop, hlaid, -, hsize⟩ := StructLayout.ofFields_laid h
  have hcs := hlaid.forall₂_call a
  have hpair := List.pairwise_iff_getElem.1 (calls_pairwise h hcs)
  refine ⟨_, emit_structAccess, fun s p h => ?_, hlaid.map_toField, hcs,
    fun base hbase => ⟨fun c hc i => ?_, ?_⟩⟩
  · rw [← pieces_structAccess s]
    exact emit_output h s (.structAccess a)
  · obtain ⟨hoff, halign, hle⟩ := call_within h hcs hc
    refine ⟨?_, StructLayout.bytes_subset_element hle⟩
    -- the width divides the alignment of the struct, hence the base and every stride
    have halign' := Int.natCast_dvd_natCast.2 halign
    have hstride := Int.natCast_dvd_natCast.2 (halign.trans hsize.1)
    exact Int.dvd_add (Int.dvd_add (halign'.trans hbase) (hstride.mul_left i))
      (Int.natCast_dvd_natCast.2 hoff)
  · generalize a.layout.fields.filterMap a.call? = cs at hcs hpair ⊢
    intro m n i j hne
    have hsub : ∀ (m : Fin cs.length) (i : ℤ),
        cs[m].bytes a.layout base i ⊆ a.layout.element base i := fun m i =>
      StructLayout.bytes_subset_element (call_within h hcs (List.getElem_mem m.2)).2.2
    rcases lt_trichotomy i j with hij | rfl | hij
    · exact (StructLayout.disjoint_element hij).mono (hsub m i) (hsub n j)
    · rcases lt_trichotomy m n with hmn | rfl | hmn
      · exact StructLayout.disjoint_bytes (hpair m n m.2 n.2 hmn)
      · exact absurd rfl hne
      · exact (StructLayout.disjoint_bytes (hpair n m n.2 m.2 hmn)).symm
    · exact ((StructLayout.disjoint_element hij).mono (hsub n j) (hsub m i)).symm

/-- A small field behind a large one, in an array at offset 32, and a sink that takes two bytes at a
    time and interrupts. -/
theorem calls_apart_mixed :
    let fs : List Field := [⟨"value", .scalar .int64⟩, ⟨"flag", .scalar .bool⟩]
    let l : StructLayout :=
      ⟨[⟨⟨"value", .scalar .int64⟩, 0, 8, 8⟩, ⟨⟨"flag", .scalar .bool⟩, 8, 1, 1⟩], 16, 8⟩
    let a : StructAccess := { layout := l, owner := "o" }
    let p : Printer MeteredSink := { sink := { portion := some 2, stutters := true } }
    StructLayout.ofFields fs = .ok l ∧ Accepts none p.sink ∧
      ∃ cs : List AccessorCall, List.Forall₂ a.Covers l.fields cs ∧
        taken (p.emit {} (.structAccess a)).1.sink =
          p.output (String.join (cs.map (AccessorCall.line a))) ∧
        ∀ (m n : Fin cs.length) (i j : ℤ), (i, m) ≠ (j, n) →
          Disjoint (cs[m].bytes l 32 i) (cs[n].bytes l 32 j) := by
  intro fs l a p
  have hl : StructLayout.ofFields fs = .ok l := by decide
  have h : Accepts none p.sink := MeteredSink.accepts (by decide) nofun
  obtain ⟨cs, -, hprinted, -, hcs, harray⟩ := calls_apart a hl
  exact ⟨hl, h, cs, hcs, (hprinted {} p h).2, (harray 32 ⟨4, rfl⟩).2⟩

end ScalarStubs
