/-
  What the depth and the unit of indentation do to what is rendered.

  * `OnlyMargins render s`: rendering with the settings `s` never fails; going deeper sets the lines
    behind more units, and neither the depth nor the unit shows once the lines are flush.
  * `Settings.isMargin_indent`: settings without a fault have a unit that is made of blanks.
  * `depth_only_margins`: this holds for all fragments and for all listings of fields that can be
    read.
-/
import ScalarStubs.Fragment
import ScalarStubs.Proofs.Rendering.Fields

namespace ScalarStubs

variable {s : Settings}

theorem Settings.isMargin_indent (h : s.fault? = none) : Text.IsMargin s.indent.toList := by
  obtain ⟨-, -, -, hunit⟩ := fault?_eq_none_iff.1 h
  rw [isIndentation, Bool.and_eq_true, List.all_eq_true] at hunit
  intro c hc
  simpa using hunit.2 c hc

/-- What depth and unit of indentation may do to what is rendered with the settings `s`. -/
structure OnlyMargins {ε : Type} (render : Settings → Nat → Except ε String) (s : Settings) :
    Prop where
  ok : ∀ depth, ∃ text, render s depth = .ok text
  /-- So many levels deeper, there are as many units more in front of each line, unless it is
      empty. -/
  deeper : ∀ d₁ d₂ text, render s d₂ = .ok text →
    render s (d₁ + d₂) = .ok (Text.indentLines (Text.margin s.indent d₁) text)
  /-- With another unit and at another depth, the lines begin with other blanks. -/
  flush : ∀ unit, { s with indent := unit }.fault? = none → ∀ d₁ d₂ text₁ text₂,
    render s d₁ = .ok text₁ → render { s with indent := unit } d₂ = .ok text₂ →
      Text.flushLines text₁ = Text.flushLines text₂

theorem OnlyMargins.of_eq {ε : Type} {render : Settings → Nat → Except ε String} (text : String)
    (hs : s.fault? = none)
    (h : ∀ unit depth, render { s with indent := unit } depth =
      .ok (Text.indentLines (Text.margin unit depth) text)) : OnlyMargins render s := by
  have hmargin := Text.isMargin_margin (Settings.isMargin_indent hs)
  refine ⟨fun depth => ⟨_, h s.indent depth⟩, ?_, ?_⟩
  · intro d₁ d₂ text' htext
    obtain rfl := Except.ok.inj (htext.symm.trans (h s.indent d₂))
    rw [Text.indentLines_indentLines (hmargin d₂), ← Text.margin_add]
    exact h s.indent (d₁ + d₂)
  · intro unit hunit d₁ d₂ text₁ text₂ h₁ h₂
    obtain rfl := Except.ok.inj (h₁.symm.trans (h s.indent d₁))
    obtain rfl := Except.ok.inj (h₂.symm.trans (h unit d₂))
    have hother := Text.isMargin_margin (Settings.isMargin_indent hunit)
    rw [Text.flushLines_indentLines (hmargin d₁), Text.flushLines_indentLines (hother d₂)]

/-- No statement looks at the unit of indentation. -/
theorem pieces_indent (s : Settings) (unit : String) (stmt : Statement) :
    stmt.pieces { s with indent := unit } = stmt.pieces s := by
  cases stmt <;> rfl

/-- **Depth and unit of indentation show in margins only.** Whatever is asked for, as long as the
    fields of a listing can be read and are fewer than `2 ^ 61 - 1`, rendering does not fail; a
    fragment or a listing so many levels deeper is the same with as many units in front of each
    line that is not empty, and with all lines flush it is the same at each depth and with each
    unit. -/
theorem depth_only_margins (hs : s.fault? = none) :
    (∀ (r : FragmentRequest) (kind : Scalar) (b : Backend),
      OnlyMargins (fun s depth => { r with depth }.render kind b s) s) ∧
    ∀ (r : ListingRequest) (specs : List String), specs.length < 2 ^ 61 - 1 →
      (∀ spec ∈ specs, ∃ f, Field.ofSpec spec = .ok f) →
        OnlyMargins (fun s depth => { r with depth }.render specs s) s := by
  refine ⟨fun r kind b => ?_, fun r specs hlen hspecs => ?_⟩
  · refine .of_eq (String.join ((r.statement kind b).pieces s)) hs fun unit depth => ?_
    have hstmt : { r with depth }.statement kind b = r.statement kind b := by
      cases b <;> rfl
    show Settings.render _ depth _ = _
    rw [Settings.render_eq, hstmt, pieces_indent]
  · obtain ⟨fields, hfields⟩ := exists_mapM_eq_ok hspecs
    obtain ⟨l, -, hrender⟩ := ListingRequest.render_ok_of_fields hfields hlen
    refine .of_eq (String.join (r.pieces s l)) hs fun unit depth => ?_
    rw [hrender]
    rfl

/-- A name over several lines with an empty one, and tabs for spaces. -/
theorem depth_only_margins_tab :
    let s : Settings := { okStatus := "OK\n \tx", indent := "\t" }
    let r : FragmentRequest := { name := "a\n\n b" }
    let specs := ["flag:bool", "value:int64_t"]
    s.fault? = none ∧ OnlyMargins (fun s depth => { r with depth }.render .int8 .parcel s) s ∧
      OnlyMargins (fun s depth => ({ depth } : ListingRequest).render specs s) s := by
  intro s r specs
  have hs : s.fault? = none := by decide
  have hspecs : ∀ spec ∈ specs, ∃ f, Field.ofSpec spec = .ok f := by
    simp only [specs, List.forall_mem_cons]
    exact ⟨⟨_, rfl⟩, ⟨_, rfl⟩, by simp⟩
  obtain ⟨hfragments, hlistings⟩ := depth_only_margins hs
  exact ⟨hs, hfragments r .int8 .parcel, hlistings {} specs (by decide) hspecs⟩

end ScalarStubs
