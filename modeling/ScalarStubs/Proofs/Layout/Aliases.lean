/-
  Enums and typedefs are transparent: a layout and the accesses to it depend on a type only through
  the scalar behind it.

  * `IdlType.bare` replaces a type by the scalar that stores it. It follows typedefs by itself;
    `bare_of_scalar?` and `bare_of_unsized` tie it to the resolution that layouts use.
  * `ofFields_bare`: laying out bare fields is laying out the fields and then baring the layout.
  * `bare_transparent`: so bare fields are refused for the same reason, or they have the same layout
    but for their types, and the accesses to them are written alike.
-/
import ScalarStubs.Proofs.Refusal
import ScalarStubs.Statement

namespace ScalarStubs

/-! ## Types -/

namespace IdlType

/-- The type with the scalar that stores it in its place. A type that no scalar stores is kept. -/
def bare : IdlType → IdlType
  | scalar k => scalar k
  | enum d => scalar d.storage
  | typedef name target =>
    match target.bare with
    | scalar k => scalar k
    | _ => typedef name target
  | string => string

theorem bare_of_scalar? {t : IdlType} {k : Scalar} (h : t.scalar? = some k) :
    t.bare = scalar k := by
  induction t with
  | scalar k' => rw [bare, Option.some.inj h]
  | enum d => rw [bare, Option.some.inj h]
  | typedef name target ih => rw [bare, ih h]
  | string => exact nomatch h

theorem bare_of_unsized {t : IdlType} (h : t.scalar? = none) : t.bare = t := by
  induction t with
  | scalar | string => rfl
  | enum d => exact nomatch h
  | typedef name target ih =>
    rw [bare, ih h]
    cases target with
    | scalar k => exact nomatch h
    | enum | typedef | string => rfl

theorem scalar?_bare (t : IdlType) : t.bare.scalar? = t.scalar? := by
  cases h : t.scalar? with
  | none => rw [bare_of_unsized h, h]
  | some k => rw [bare_of_scalar? h, scalar?]

end IdlType

/-! ## Layouts -/

/-- The field with its type bared. -/
def Field.bare (f : Field) : Field :=
  { f with type := f.type.bare }

/-- The placement with the type of its field bared. -/
def Placement.bare (p : Placement) : Placement :=
  { p with toField := p.toField.bare }

/-- The layout with the types of its fields bared. -/
def StructLayout.bare (l : StructLayout) : StructLayout :=
  { l with fields := l.fields.map Placement.bare }

theorem Field.place_bare (f : Field) (start : UInt64) :
    f.bare.place start = Placement.bare <$> f.place start := by
  have hwidth : f.bare.type.width? = f.type.width? := by
    rw [IdlType.width?, IdlType.width?, Field.bare, IdlType.scalar?_bare]
  unfold Field.place
  rw [hwidth]
  cases hw : f.type.width? with
  | none =>
    -- the refusal names the type as it was declared, so that type must be kept
    have hkept : f.bare = f := by
      rw [Field.bare, IdlType.bare_of_unsized (Option.map_eq_none_iff.1 hw)]
    rw [hkept]
    rfl
  | some width =>
    cases ho : alignUp start width with
    | error e => simp only [ho]; rfl
    | ok offset => simp only [ho]; rfl

namespace StructLayout

theorem placeFrom_bare (start : UInt64) (fs : List Field) :
    placeFrom start (fs.map Field.bare) =
      (fun (ps, stop) => (ps.map Placement.bare, stop)) <$> placeFrom start fs := by
  induction fs generalizing start with
  | nil => rfl
  | cons f fs ih =>
    have hstop : ∀ p : Placement, p.bare.stop = p.stop := fun _ => rfl
    simp only [List.map_cons, placeFrom, Field.place_bare, hstop, ih, bind_map_left, map_bind,
      map_pure]

theorem maxAlignment_bare (ps : List Placement) :
    maxAlignment (ps.map Placement.bare) = maxAlignment ps :=
  List.foldl_map

theorem ofFields_bare (fs : List Field) :
    ofFields (fs.map Field.bare) = StructLayout.bare <$> ofFields fs := by
  simp only [ofFields, placeFrom_bare, maxAlignment_bare, bind_map_left, map_bind, map_pure]
  rfl

end StructLayout

/-! ## Accesses -/

theorem StructAccess.field?_bare (a : StructAccess) (p : Placement) :
    a.field? p.bare = a.field? p := by
  unfold StructAccess.field?
  rw [show p.bare.type.scalar? = p.type.scalar? from IdlType.scalar?_bare _]
  rfl

theorem StructAccess.fields_bare (a : StructAccess) (l : StructLayout) :
    ({ a with layout := l.bare } : StructAccess).fields =
      ({ a with layout := l } : StructAccess).fields := by
  show (l.fields.map Placement.bare).filterMap a.field? = l.fields.filterMap a.field?
  rw [List.filterMap_map]
  exact congrArg (List.filterMap · l.fields) (funext a.field?_bare)

theorem Printer.emit_bare {σ ε : Type} [ByteSink σ ε] (s : Settings) (out : Printer σ)
    (a : StructAccess) (l : StructLayout) :
    out.emit s (.structAccess { a with layout := l.bare }) =
      out.emit s (.structAccess { a with layout := l }) := by
  have hpieces : (Statement.structAccess { a with layout := l.bare }).pieces s =
      (Statement.structAccess { a with layout := l }).pieces s := by
    rw [Statement.pieces, Statement.pieces, StructAccess.fields_bare]
  rw [Printer.emit, Printer.emit, hpieces]

/-! ## Transparency -/

/-- The placements are the same, but for the types that their fields are declared with. -/
structure Placement.SamePlace (p q : Placement) : Prop where
  name : p.name = q.name
  offset : p.offset = q.offset
  size : p.size = q.size
  alignment : p.alignment = q.alignment

/-- The layouts are the same, but for the types that the fields are declared with. -/
structure StructLayout.SamePlaces (l m : StructLayout) : Prop where
  fields : List.Forall₂ Placement.SamePlace l.fields m.fields
  size : l.size = m.size
  alignment : l.alignment = m.alignment

theorem StructLayout.samePlaces_bare (l : StructLayout) : l.bare.SamePlaces l := by
  refine ⟨?_, rfl, rfl⟩
  show List.Forall₂ Placement.SamePlace (l.fields.map Placement.bare) l.fields
  rw [List.forall₂_map_left_iff, List.forall₂_same]
  exact fun p _ => ⟨rfl, rfl, rfl, rfl⟩

open StructLayout in
/-- **Enums and typedefs are transparent.** Let each field that a scalar stores be declared with
    that scalar instead. Then the struct is refused for the same reason as before, or it has the
    same layout and any printer writes the accesses to it as before. -/
theorem bare_transparent (fs : List Field) :
    (∀ f ∈ fs, (∀ k, f.type.scalar? = some k → f.bare = { f with type := .scalar k }) ∧
      (f.type.scalar? = none → f.bare = f)) ∧
    (∀ e, ofFields (fs.map Field.bare) = .error e ↔ ofFields fs = .error e) ∧
    ∀ l, ofFields fs = .ok l →
      ∃ m, ofFields (fs.map Field.bare) = .ok m ∧ m.SamePlaces l ∧
        ∀ {σ ε : Type} [ByteSink σ ε] (s : Settings) (out : Printer σ) (blob owner base : String)
          (direction : Direction),
          out.emit s (.structAccess { layout := m, blob, owner, base, direction }) =
            out.emit s (.structAccess { layout := l, blob, owner, base, direction }) := by
  refine ⟨fun f _ => ⟨fun k hk => ?_, fun hf => ?_⟩, fun e => ?_, fun l hl => ?_⟩
  · rw [Field.bare, IdlType.bare_of_scalar? hk]
  · rw [Field.bare, IdlType.bare_of_unsized hf]
  · rw [ofFields_bare]
    cases ofFields fs with
    | error e' => exact Iff.rfl
    | ok l => exact ⟨nofun, nofun⟩
  · refine ⟨l.bare, by rw [ofFields_bare, hl]; rfl, l.samePlaces_bare, ?_⟩
    intro σ ε _ s out blob owner base direction
    exact Printer.emit_bare s out { layout := l, blob, owner, base, direction } l

/-- Towers of typedefs and an enum, and a typedef that leads to a string. -/
theorem bare_transparent_towers :
    let synonym : String → IdlType → IdlType := .typedef
    let tint := synonym "Tint" (.enum { name := "Color", storage := .uint8 })
    let id := synonym "Id" (synonym "Handle" (.scalar .int64))
    let note := synonym "Note" .string
    let l : StructLayout := ⟨[⟨⟨"tint", tint⟩, 0, 1, 1⟩, ⟨⟨"id", id⟩, 8, 8, 8⟩], 16, 8⟩
    StructLayout.ofFields [⟨"tint", tint⟩, ⟨"id", id⟩] = .ok l ∧
      (∃ m, StructLayout.ofFields [⟨"tint", .scalar .uint8⟩, ⟨"id", .scalar .int64⟩] = .ok m ∧
        m.SamePlaces l) ∧
      StructLayout.ofFields [⟨"id", .scalar .int64⟩, ⟨"note", note⟩] =
        .error (.unsizedField ⟨"note", note⟩) := by
  intro synonym tint id note l
  have hl : StructLayout.ofFields [⟨"tint", tint⟩, ⟨"id", id⟩] = .ok l := by decide
  obtain ⟨m, hm, hsame, -⟩ := (bare_transparent _).2.2 l hl
  have hnote : StructLayout.ofFields [⟨"id", id⟩, ⟨"note", note⟩] =
      .error (.unsizedField ⟨"note", note⟩) := by decide
  exact ⟨hl, ⟨m, hm, hsame⟩, ((bare_transparent _).2.1 _).2 hnote⟩

end ScalarStubs
