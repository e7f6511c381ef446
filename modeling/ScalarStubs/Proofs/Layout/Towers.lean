/-
  Enums and typedefs on top of each other.

  * A `Tower` is a type as it is declared, enums and typedefs on a scalar or a string. `Tower.build`
    declares it from the ground up, and `Tower.bottom` is the scalar that it stands on.
  * `IdlType.carriesEnums`: whether an enum can be declared over a type, and what comes of it.
  * `scalar?_of_build`: a tower is stored as what it stands on.
  * `exists_build_iff`: so a tower with an enum in it can be built on an integer, and on nothing
    else.
  * `tower_stored`: both together, with the enums that are in a tower.
-/
import ScalarStubs.Proofs.Layout.Placing

namespace ScalarStubs

/-! ## Types -/

namespace Scalar

/-- The kinds that can store an enum. -/
def integers : List Scalar :=
  [int8, uint8, int16, uint16, int32, uint32, int64, uint64]

theorem mem_integers_iff {k : Scalar} : k ∈ integers ↔ k.isInteger = true := by
  cases k <;> decide

end Scalar

namespace IdlType

/-- Where the typedefs of a type lead. -/
def core : IdlType → IdlType
  | typedef _ target => target.core
  | t => t

/-- The enums in a type. -/
def enums : IdlType → List EnumDecl
  | enum d => [d]
  | typedef _ target => target.enums
  | scalar _ | string => []

/-- The type under new names, the last of them first. -/
def aliased (t : IdlType) (names : List String) : IdlType :=
  names.foldr typedef t

theorem scalar?_core (t : IdlType) : t.core.scalar? = t.scalar? := by
  induction t with
  | typedef name target ih => exact ih
  | _ => rfl

theorem core_ne_typedef (t : IdlType) (name : String) (target : IdlType) :
    t.core ≠ typedef name target := by
  induction t with
  | typedef _ _ ih => exact ih
  | _ => exact nofun

theorem scalar?_aliased (t : IdlType) (names : List String) :
    (t.aliased names).scalar? = t.scalar? := by
  induction names with
  | nil => rfl
  | cons name names ih => exact ih

theorem scalar?_of_mem_enums {t : IdlType} {d : EnumDecl} (h : d ∈ t.enums) :
    t.scalar? = some d.storage := by
  induction t with
  | enum d' => rw [List.mem_singleton.1 h, scalar?]
  | typedef _ _ ih => exact ih h
  | scalar | string => exact absurd h List.not_mem_nil

theorem storesEnums_iff {t : IdlType} :
    t.storesEnums = true ↔ ∃ k ∈ Scalar.integers, t.scalar? = some k := by
  simp only [storesEnums, Scalar.mem_integers_iff]
  cases t.scalar? <;> simp

/-- An enum, or an integer, is what the typedefs of a type must lead to. -/
theorem storesEnums_iff_core {t : IdlType} :
    t.storesEnums = true ↔
      (∃ d, t.core = .enum d) ∨ ∃ k ∈ Scalar.integers, t.core = .scalar k := by
  rw [storesEnums_iff, ← scalar?_core]
  have htypedef := t.core_ne_typedef
  cases hcore : t.core with
  | scalar k => simp [scalar?, eq_comm]
  | enum d =>
    have hd := Scalar.mem_integers_iff.2 d.isInteger_storage
    simp [scalar?, hd]
  | typedef name target => exact absurd hcore (htypedef name target)
  | string => simp [scalar?]

end IdlType

/-! ## Declarations -/

namespace EnumDecl

variable {name : String} {t : IdlType} {d : EnumDecl} {e : EnumStorageError}

theorem over?_eq_ok_iff :
    EnumDecl.over? name t = .ok d ↔ d.name = name ∧ t.scalar? = some d.storage := by
  obtain ⟨name', k', hk'⟩ := d
  unfold over?
  cases t.scalar? with
  | none => simp
  | some k =>
    by_cases hk : k.isInteger = true
    · simp [hk, eq_comm]
    · have hne : k ≠ k' := by rintro rfl; exact hk hk'
      simp [hk, hne]

theorem over?_eq_error_iff :
    EnumDecl.over? name t = .error e ↔ t.storesEnums = false ∧ e = ⟨name, t⟩ := by
  unfold over? IdlType.storesEnums
  cases t.scalar? with
  | none => simp [eq_comm]
  | some k => by_cases hk : k.isInteger = true <;> simp [hk, eq_comm]

theorem exists_over?_iff : (∃ d, EnumDecl.over? name t = .ok d) ↔ t.storesEnums = true := by
  rw [IdlType.storesEnums_iff]
  constructor
  · rintro ⟨d, hd⟩
    exact ⟨d.storage, Scalar.mem_integers_iff.2 d.isInteger_storage, (over?_eq_ok_iff.1 hd).2⟩
  · rintro ⟨k, hk, ht⟩
    exact ⟨⟨name, k, Scalar.mem_integers_iff.1 hk⟩, over?_eq_ok_iff.2 ⟨rfl, ht⟩⟩

end EnumDecl

/-- What comes of declaring enums over a type. -/
structure IdlType.CarriesEnums (t : IdlType) : Prop where
  ok_iff : ∀ name, (∃ d, EnumDecl.over? name t = .ok d) ↔ t.storesEnums = true
  /-- The typedefs of the type must lead to an enum or to an integer. -/
  core : t.storesEnums = true ↔
    (∃ d, t.core = .enum d) ∨ ∃ k ∈ Scalar.integers, t.core = .scalar k
  /-- The enum is stored as the type is, and so are all typedefs of it. -/
  stored : ∀ name d, EnumDecl.over? name t = .ok d → d.name = name ∧
    ∀ names, ((IdlType.enum d).aliased names).scalar? = t.scalar?
  /-- A refusal tells the name of the enum and shows the type. -/
  refused : ∀ name e, EnumDecl.over? name t = .error e → e.name = name ∧
    e.storage.displayName = t.displayName ∧
      e.message = "enum " ++ Text.quoted name ++ " cannot use " ++ Text.quoted t.displayName ++
        " as its storage type"

theorem IdlType.carriesEnums (t : IdlType) : t.CarriesEnums where
  ok_iff _ := EnumDecl.exists_over?_iff
  core := storesEnums_iff_core
  stored name d h := by
    obtain ⟨hname, ht⟩ := EnumDecl.over?_eq_ok_iff.1 h
    exact ⟨hname, fun names => by rw [scalar?_aliased, ht, scalar?]⟩
  refused name e h := by
    obtain ⟨-, rfl⟩ := EnumDecl.over?_eq_error_iff.1 h
    exact ⟨rfl, rfl, rfl⟩

/-! ## Towers -/

/-- A type as it is declared. -/
inductive Tower where
  | scalar (kind : Scalar)
  | string
  | enum (name : String) (storage : Tower)
  | typedef (name : String) (target : Tower)
deriving DecidableEq, Repr

namespace Tower

/-- Declares what the tower is made of, from the ground up. -/
def build : Tower → Except EnumStorageError IdlType
  | scalar k => .ok (.scalar k)
  | string => .ok .string
  | enum name storage => do
    let t ← storage.build
    return .enum (← EnumDecl.over? name t)
  | typedef name target => do return .typedef name (← target.build)

/-- The scalar that the tower stands on. -/
def bottom : Tower → Option Scalar
  | scalar k => some k
  | string => none
  | enum _ storage => storage.bottom
  | typedef _ target => target.bottom

/-- The tower and all that is below. -/
def parts : Tower → List Tower
  | scalar k => [scalar k]
  | string => [string]
  | enum name storage => enum name storage :: storage.parts
  | typedef name target => typedef name target :: target.parts

/-- Whether there is an enum where the typedefs lead. -/
def hasEnum : Tower → Bool
  | scalar _ | string => false
  | enum _ _ => true
  | typedef _ target => target.hasEnum

variable {w u : Tower} {t : IdlType} {name : String}

theorem build_enum_eq_ok_iff : (enum name u).build = .ok t ↔
    ∃ v d, u.build = .ok v ∧ EnumDecl.over? name v = .ok d ∧ t = .enum d := by
  simp only [build, bind_eq_ok_iff, pure, Except.pure, Except.ok.injEq, eq_comm (a := t),
    exists_and_left]

theorem build_typedef_eq_ok_iff : (typedef name u).build = .ok t ↔
    ∃ v, u.build = .ok v ∧ t = .typedef name v := by
  simp only [build, bind_eq_ok_iff, pure, Except.pure, Except.ok.injEq, eq_comm (a := t)]

/-- **A tower is stored as what it stands on.** -/
theorem scalar?_of_build (h : w.build = .ok t) : t.scalar? = w.bottom := by
  induction w generalizing t with
  | scalar k => cases h; rfl
  | string => cases h; rfl
  | enum name u ih =>
    obtain ⟨v, d, hv, hd, rfl⟩ := build_enum_eq_ok_iff.1 h
    rw [bottom, ← ih hv, (EnumDecl.over?_eq_ok_iff.1 hd).2, IdlType.scalar?]
  | typedef name u ih =>
    obtain ⟨v, hv, rfl⟩ := build_typedef_eq_ok_iff.1 h
    rw [bottom, ← ih hv, IdlType.scalar?]

/-- **A tower with an enum in it stands on an integer**, and any other tower on anything. -/
theorem exists_build_iff : (∃ t, w.build = .ok t) ↔
    (w.hasEnum = true → ∃ k ∈ Scalar.integers, w.bottom = some k) := by
  induction w with
  | scalar k => exact ⟨fun _ => nofun, fun _ => ⟨_, rfl⟩⟩
  | string => exact ⟨fun _ => nofun, fun _ => ⟨_, rfl⟩⟩
  | enum name u ih =>
    simp only [build_enum_eq_ok_iff, hasEnum, bottom, true_imp_iff]
    constructor
    · rintro ⟨_, v, d, hv, hd, rfl⟩
      rw [← scalar?_of_build hv, ← IdlType.storesEnums_iff]
      exact EnumDecl.exists_over?_iff.1 ⟨d, hd⟩
    · intro hbottom
      -- what is below can be built too, as it stands on the same integer
      obtain ⟨v, hv⟩ := ih.2 fun _ => hbottom
      rw [← scalar?_of_build hv, ← IdlType.storesEnums_iff] at hbottom
      obtain ⟨d, hd⟩ := EnumDecl.exists_over?_iff.2 hbottom
      exact ⟨_, v, d, hv, hd, rfl⟩
  | typedef name u ih =>
    rw [hasEnum, bottom, ← ih]
    constructor
    · rintro ⟨t, ht⟩
      obtain ⟨v, hv, -⟩ := build_typedef_eq_ok_iff.1 ht
      exact ⟨v, hv⟩
    · rintro ⟨v, hv⟩
      exact ⟨_, build_typedef_eq_ok_iff.2 ⟨v, hv, rfl⟩⟩

/-- Every type can be declared. -/
theorem exists_tower (t : IdlType) : ∃ w : Tower, w.build = .ok t := by
  induction t with
  | scalar k => exact ⟨scalar k, rfl⟩
  | enum d =>
    have hd : EnumDecl.over? d.name (.scalar d.storage) = .ok d :=
      EnumDecl.over?_eq_ok_iff.2 ⟨rfl, rfl⟩
    exact ⟨enum d.name (scalar d.storage), build_enum_eq_ok_iff.2 ⟨_, d, rfl, hd, rfl⟩⟩
  | typedef name target ih =>
    obtain ⟨w, hw⟩ := ih
    exact ⟨typedef name w, build_typedef_eq_ok_iff.2 ⟨_, hw, rfl⟩⟩
  | string => exact ⟨string, rfl⟩

theorem bottom_of_mem_parts (h : u ∈ w.parts) : u.bottom = w.bottom := by
  induction w with
  | scalar | string => rw [List.mem_singleton.1 h]
  | enum _ _ ih | typedef _ _ ih =>
    rcases List.mem_cons.1 h with rfl | h
    · rfl
    · exact ih h

theorem exists_build_of_mem_parts (hw : w.build = .ok t) (h : u ∈ w.parts) :
    ∃ v, u.build = .ok v := by
  induction w generalizing t with
  | scalar | string => rw [List.mem_singleton.1 h]; exact ⟨t, hw⟩
  | enum _ _ ih =>
    rcases List.mem_cons.1 h with rfl | h
    · exact ⟨t, hw⟩
    · obtain ⟨v, -, hv, -⟩ := build_enum_eq_ok_iff.1 hw
      exact ih hv h
  | typedef _ _ ih =>
    rcases List.mem_cons.1 h with rfl | h
    · exact ⟨t, hw⟩
    · obtain ⟨v, hv, -⟩ := build_typedef_eq_ok_iff.1 hw
      exact ih hv h

theorem storage_of_mem_parts (hw : w.build = .ok t) (h : enum name u ∈ w.parts) :
    ∃ d, (enum name u).build = .ok (.enum d) ∧ d.name = name ∧ d.storage ∈ Scalar.integers ∧
      w.bottom = some d.storage := by
  obtain ⟨v, hv⟩ := exists_build_of_mem_parts hw h
  obtain ⟨t', d, ht', hd, rfl⟩ := build_enum_eq_ok_iff.1 hv
  obtain ⟨hname, hscalar⟩ := EnumDecl.over?_eq_ok_iff.1 hd
  refine ⟨d, hv, hname, Scalar.mem_integers_iff.2 d.isInteger_storage, ?_⟩
  rw [← bottom_of_mem_parts h, bottom, ← scalar?_of_build ht', hscalar]

end Tower

/-- **Towers of enums and typedefs keep to their bottom.** Every type is that of a tower. A tower
    with an enum in it can be built on an integer and on nothing else. Each enum in it, as it is
    declared on the way and as it is left in the type, is stored as that integer. Over the type an
    enum can be declared exactly if it is stored as an integer, and then is stored as that. And a
    field of that type has the alignment and the size of the bottom. -/
theorem tower_stored :
    (∀ t : IdlType, ∃ w : Tower, w.build = .ok t) ∧
    (∀ w : Tower, (∃ t, w.build = .ok t) ↔
      (w.hasEnum = true → ∃ k ∈ Scalar.integers, w.bottom = some k)) ∧
    ∀ (w : Tower) (t : IdlType), w.build = .ok t →
      (∀ name u, Tower.enum name u ∈ w.parts →
        ∃ d, (Tower.enum name u).build = .ok (.enum d) ∧ d.name = name ∧
          d.storage ∈ Scalar.integers ∧ w.bottom = some d.storage) ∧
      (∀ d ∈ t.enums, d.storage ∈ Scalar.integers ∧ w.bottom = some d.storage) ∧
      t.CarriesEnums ∧ t.scalar? = w.bottom ∧ t.width? = w.bottom.map Scalar.width ∧
      ∀ name start p, Field.place ⟨name, t⟩ start = .ok p →
        ∃ k, w.bottom = some k ∧ p.alignment = k.width ∧ p.size = k.width := by
  refine ⟨Tower.exists_tower, fun w => Tower.exists_build_iff, fun w t ht => ?_⟩
  have hscalar := Tower.scalar?_of_build ht
  refine ⟨fun name u => Tower.storage_of_mem_parts ht, fun d hd => ⟨?_, ?_⟩, t.carriesEnums,
    hscalar, ?_, fun name start p hp => ?_⟩
  · exact Scalar.mem_integers_iff.2 d.isInteger_storage
  · rw [← hscalar, IdlType.scalar?_of_mem_enums hd]
  · rw [IdlType.width?, hscalar]
  · obtain ⟨k, hk, hsize, halign⟩ := (place_eq_ok_iff.1 hp).1.scalar
    exact ⟨k, hscalar.symm.trans hk, halign, hsize⟩

/-- An enum over a typedef of an enum, and one that would be stored as a float. -/
theorem tower_stored_twice :
    let synonym : String → Tower → Tower := .typedef
    let w : Tower := .enum "Tint" (synonym "Hue" (.enum "Color" (.scalar .uint16)))
    let t : IdlType := .enum { name := "Tint", storage := .uint16 }
    w.build = .ok t ∧ t.width? = some 2 ∧ t.CarriesEnums ∧
      (∃ d, (Tower.enum "Color" (.scalar .uint16)).build = .ok (.enum d) ∧ d.storage = .uint16) ∧
      ¬ ∃ t, (synonym "Level" (.enum "Gain" (.scalar .float))).build = .ok t := by
  intro synonym w t
  have ht : w.build = .ok t := by decide
  obtain ⟨hparts, -, hcarries, -, hwidth, -⟩ := tower_stored.2.2 w t ht
  obtain ⟨d, hd, -, -, hbottom⟩ := hparts "Color" (.scalar .uint16) (by decide)
  refine ⟨ht, hwidth, hcarries, ⟨d, hd, (Option.some.inj hbottom).symm⟩, ?_⟩
  rw [tower_stored.2.1]
  decide

end ScalarStubs
