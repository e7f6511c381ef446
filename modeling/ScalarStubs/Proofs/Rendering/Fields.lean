/-
  The fields of a listing.

  * `Field.Spelt` says how a field is written in a specification, and `Misspelt` what may be wrong
    with one. `spelt_or_misspelt`: there is nothing else.
  * `spelling_of_fields`: a specification is read as the field that is spelt so, or refused for
    what is wrong with it.
  * `ListingRequest.render_ok_of_fields`: fields that were read have a layout, as long as there are
    fewer than `2 ^ 61 - 1` of them, and then there is nothing else that could fail.
-/
import ScalarStubs.Listing
import ScalarStubs.Proofs.Layout.Placing
import ScalarStubs.Proofs.Rendering.Basic

namespace ScalarStubs

/-! ## One field -/

variable {name rest spec text : String} {f : Field} {k : Scalar}

/-- A text has no colon, or it falls apart at the first one. -/
theorem exists_first_colon (spec : String) :
    ':' ∉ spec.toList ∨ ∃ name rest, ':' ∉ name.toList ∧ spec = name ++ ":" ++ rest := by
  by_cases h : ':' ∈ spec.toList
  · obtain ⟨as, bs, hsplit, has⟩ := List.eq_append_cons_of_mem h
    refine Or.inr ⟨String.ofList as, String.ofList bs, by simpa using has, ?_⟩
    rw [← String.toList_inj]
    simp [hsplit]
  · exact Or.inl h

theorem ofSpec_of_not_mem (h : ':' ∉ spec.toList) :
    Field.ofSpec spec = .error (.missingSeparator spec) := by
  have hdrop : spec.toList.dropWhile (· != ':') = [] := by
    rw [List.dropWhile_eq_nil_iff]
    intro c hc
    exact bne_iff_ne.2 fun hcolon => h (hcolon ▸ hc)
  simp only [Field.ofSpec, hdrop]

theorem ofSpec_split (h : ':' ∉ name.toList) (rest : String) :
    Field.ofSpec (name ++ ":" ++ rest) =
      if name = "" then .error (.emptyName (name ++ ":" ++ rest))
      else (Scalar.ofKeyword? rest).elim (.error (.unknownScalar rest))
        fun kind => .ok ⟨name, .scalar kind⟩ := by
  have hlist : (name ++ ":" ++ rest).toList = name.toList ++ ':' :: rest.toList := by simp
  have hname : ∀ c ∈ name.toList, (c != ':') = true := fun c hc =>
    bne_iff_ne.2 fun hcolon => h (hcolon ▸ hc)
  have htake : (name ++ ":" ++ rest).toList.takeWhile (· != ':') = name.toList := by
    rw [hlist, List.takeWhile_append_of_pos hname]
    simp
  have hdrop : (name ++ ":" ++ rest).toList.dropWhile (· != ':') = ':' :: rest.toList := by
    rw [hlist, List.dropWhile_append_of_pos hname]
    simp
  simp only [Field.ofSpec, htake, hdrop, String.ofList_toList, String.toList_eq_nil_iff]
  cases Scalar.ofKeyword? rest <;> rfl

theorem ofSpec_emptyName (rest : String) :
    Field.ofSpec (":" ++ rest) = .error (.emptyName (":" ++ rest)) := by
  have hnil : ':' ∉ "".toList := List.not_mem_nil
  exact (ofSpec_split hnil rest).trans (if_pos rfl)

theorem ofSpec_keyword (hne : name ≠ "") (h : ':' ∉ name.toList) (k : Scalar) :
    Field.ofSpec (name ++ ":" ++ k.keyword) = .ok ⟨name, .scalar k⟩ := by
  rw [ofSpec_split h, if_neg hne, Scalar.ofKeyword?_eq_some_iff.2 rfl]
  rfl

theorem ofSpec_unknown (hne : name ≠ "") (h : ':' ∉ name.toList)
    (hrest : ∀ k : Scalar, k.keyword ≠ rest) :
    Field.ofSpec (name ++ ":" ++ rest) = .error (.unknownScalar rest) := by
  have hnone : Scalar.ofKeyword? rest = none :=
    Option.eq_none_iff_forall_not_mem.2 fun k hk => hrest k (Scalar.ofKeyword?_eq_some_iff.1 hk)
  rw [ofSpec_split h, if_neg hne, hnone]
  rfl

/-- The specification is the name of the field, a colon and the keyword of its kind. -/
def Field.Spelt (f : Field) (spec : String) : Prop :=
  f.name ≠ "" ∧ ':' ∉ f.name.toList ∧ ∃ k, f.type = .scalar k ∧ spec = f.name ++ ":" ++ k.keyword

/-- What is wrong with a specification, in words. -/
inductive Misspelt : String → String → Prop
  | noSeparator {spec : String} (h : ':' ∉ spec.toList) :
      Misspelt spec ("field " ++ Text.quoted spec ++ " must be written as name:kind")
  | noName {spec rest : String} (h : spec = ":" ++ rest) :
      Misspelt spec ("field " ++ Text.quoted spec ++ " has an empty name")
  /-- The first colon ends the name, and no keyword is behind it. -/
  | noKeyword {spec name rest : String} (hne : name ≠ "") (hname : ':' ∉ name.toList)
      (h : spec = name ++ ":" ++ rest) (hrest : ∀ k : Scalar, k.keyword ≠ rest) :
      Misspelt spec ("unknown scalar type " ++ Text.quoted rest)

theorem Field.Spelt.ofSpec (h : f.Spelt spec) : Field.ofSpec spec = .ok f := by
  obtain ⟨name, type⟩ := f
  obtain ⟨hne, hname, k, rfl, rfl⟩ := h
  exact ofSpec_keyword hne hname k

theorem Misspelt.ofSpec (h : Misspelt spec text) :
    ∃ e, Field.ofSpec spec = .error e ∧ e.message = text := by
  cases h with
  | noSeparator h => exact ⟨_, ofSpec_of_not_mem h, rfl⟩
  | noName h =>
    subst h
    exact ⟨_, ofSpec_emptyName _, rfl⟩
  | noKeyword hne hname h hrest =>
    subst h
    exact ⟨_, ofSpec_unknown hne hname hrest, rfl⟩

/-- Every specification is spelt as it should be, or something is wrong with it. -/
theorem spelt_or_misspelt (spec : String) :
    (∃ f : Field, f.Spelt spec) ∨ ∃ text, Misspelt spec text := by
  obtain h | ⟨name, rest, hname, rfl⟩ := exists_first_colon spec
  · exact Or.inr ⟨_, .noSeparator h⟩
  · by_cases hne : name = ""
    · subst hne
      exact Or.inr ⟨_, .noName rfl⟩
    · by_cases hk : ∃ k : Scalar, k.keyword = rest
      · obtain ⟨k, rfl⟩ := hk
        exact Or.inl ⟨⟨name, .scalar k⟩, hne, hname, k, rfl, rfl⟩
      · exact Or.inr ⟨_, .noKeyword hne hname rfl (not_exists.1 hk)⟩

theorem ofSpec_eq_ok_iff : Field.ofSpec spec = .ok f ↔ f.Spelt spec := by
  refine ⟨fun h => ?_, Field.Spelt.ofSpec⟩
  obtain ⟨g, hg⟩ | ⟨text, htext⟩ := spelt_or_misspelt spec
  · cases h.symm.trans hg.ofSpec
    exact hg
  · obtain ⟨e, he, -⟩ := htext.ofSpec
    cases h.symm.trans he

theorem message_ofSpec_iff :
    (Field.ofSpec spec).mapError SpecError.message = .error text ↔ Misspelt spec text := by
  constructor
  · intro h
    obtain ⟨g, hg⟩ | ⟨text', htext⟩ := spelt_or_misspelt spec
    · rw [hg.ofSpec] at h
      cases h
    · obtain ⟨e, he, rfl⟩ := htext.ofSpec
      rw [he] at h
      cases h
      exact htext
  · intro h
    obtain ⟨e, he, rfl⟩ := h.ofSpec
    rw [he]
    rfl

/-- **Fields are read as they are spelt,** and so they can be written back. All else is refused:
    first for the lack of a colon, then for the lack of a name, and then for what is behind the
    first colon. -/
theorem spelling_of_fields (spec : String) :
    (∀ f, Field.ofSpec spec = .ok f ↔
      f.name ≠ "" ∧ ':' ∉ f.name.toList ∧
        ∃ k, f.type = .scalar k ∧ spec = f.name ++ ":" ++ k.keyword) ∧
    (∀ f, Field.ofSpec spec = .ok f → f.name ++ ":" ++ f.type.displayName = spec) ∧
    ∀ text, (Field.ofSpec spec).mapError SpecError.message = .error text ↔ Misspelt spec text := by
  refine ⟨fun f => ofSpec_eq_ok_iff, fun f h => ?_, fun text => message_ofSpec_iff⟩
  obtain ⟨-, -, k, htype, rfl⟩ := ofSpec_eq_ok_iff.1 h
  rw [htype]
  rfl

/-- A keyword may be a name, and a second colon is not in its place. -/
theorem spelling_of_fields_colons :
    Field.ofSpec "bool:pointer" = .ok ⟨"bool", .scalar .pointer⟩ ∧
      "bool" ++ ":" ++ (IdlType.scalar .pointer).displayName = "bool:pointer" ∧
      (Field.ofSpec "a:b:bool").mapError SpecError.message =
        .error "unknown scalar type `b:bool`" := by
  obtain ⟨hok, hback, -⟩ := spelling_of_fields "bool:pointer"
  obtain ⟨-, -, hrefused⟩ := spelling_of_fields "a:b:bool"
  have hread := (hok ⟨"bool", .scalar .pointer⟩).2 ⟨by decide, by decide, .pointer, rfl, rfl⟩
  have hsplit : "a:b:bool" = "a" ++ ":" ++ "b:bool" := by decide
  have hunknown : ∀ k : Scalar, k.keyword ≠ "b:bool" := fun k => by cases k <;> decide
  exact ⟨hread, hback _ hread,
    (hrefused _).2 (.noKeyword (by decide) (by decide) hsplit hunknown)⟩

theorem ofSpec_scalar (h : Field.ofSpec spec = .ok f) : ∃ k, f.type = .scalar k := by
  obtain ⟨-, -, k, htype, -⟩ := ofSpec_eq_ok_iff.1 h
  exact ⟨k, htype⟩

/-! ## All fields -/

variable {specs : List String} {fields : List Field}

theorem scalar_of_mapM (h : specs.mapM Field.ofSpec = .ok fields) :
    ∀ f ∈ fields, ∃ k, f.type = .scalar k := by
  have hread := mapM_eq_ok_iff.1 h
  clear h
  induction hread with
  | nil => simp
  | cons hspec _ ih => exact List.forall_mem_cons.2 ⟨ofSpec_scalar hspec, ih⟩

/-- Fields that were read have a layout, and the listing of it does not fail. -/
theorem ListingRequest.render_ok_of_fields (h : specs.mapM Field.ofSpec = .ok fields)
    (hlen : specs.length < 2 ^ 61 - 1) :
    ∃ l, StructLayout.ofFields fields = .ok l ∧
      ∀ (r : ListingRequest) (s : Settings), r.render specs s =
        .ok (Text.indentLines (Text.margin s.indent r.depth) (String.join (r.pieces s l))) := by
  have hsized : ∀ f ∈ fields, f.type.scalar?.isSome := by
    intro f hf
    obtain ⟨k, hk⟩ := scalar_of_mapM h f hf
    rw [hk]
    rfl
  have hfields : fields.length ≤ 2 ^ 61 - 2 := by
    rw [← (mapM_eq_ok_iff.1 h).length_eq]
    omega
  obtain ⟨l, hl⟩ := StructLayout.exists_ofFields hfields hsized
  refine ⟨l, hl, fun r s => ?_⟩
  rw [render, h, show (Except.ok fields).mapError ListingError.spec = .ok fields from rfl]
  show (do
    let layout ← (StructLayout.ofFields fields).mapError ListingError.layout
    (s.render r.depth (r.pieces s layout)).mapError ListingError.render) = _
  rw [hl]
  show (s.render r.depth (r.pieces s l)).mapError ListingError.render = _
  rw [Settings.render_eq]
  rfl

end ScalarStubs
