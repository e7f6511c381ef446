/-
  What a listing says.

  * `ListingRow` holds the words for one field. `ListingRow.tableLine` and
    `ListingRow.accessLine` are its two lines, and both show the same offset.
  * `ListingRow.Describes` ties a row to a field with its place, and `listingText` is the listing
    of a struct by its rows.
  * `listing_rows`: there is a listing exactly if all fields can be read, else the first that
    cannot is reported; and the listing is that of the rows of the layout.
-/
import ScalarStubs.Proofs.Rendering.Fields

namespace ScalarStubs

/-! ## Columns -/

namespace Text

/-- So many spaces. -/
def spaces (n : Nat) : String :=
  String.ofList (List.replicate n ' ')

theorem column_eq (width : Nat) (s : String) : column width s = s ++ spaces (width - s.length) := by
  apply String.toList_inj.1
  simp [column, Padding.apply, Padding.applyChars, Padding.cut, spaces, String.length_toList]

theorem columnRight_eq (width : Nat) (s : String) :
    columnRight width s = spaces (width - s.length) ++ s := by
  apply String.toList_inj.1
  simp [columnRight, Padding.apply, Padding.applyChars, Padding.cut, spaces, String.length_toList]

end Text

/-! ## Rows -/

/-- The words of a listing for one field. -/
structure ListingRow where
  name : String
  keyword : String
  /-- The offset in decimal. -/
  offset : String
  /-- The size in decimal. -/
  size : String
  /-- The ending of the accessor. -/
  suffix : String

namespace ListingRow

open Text (spaces)

/-- The line of the table. What is longer than its column is not cut. -/
def tableLine (row : ListingRow) : String :=
  "// " ++ row.name ++ spaces (16 - row.name.length) ++ " " ++ row.keyword ++
    spaces (10 - row.keyword.length) ++ " offset " ++ spaces (3 - row.offset.length) ++
    row.offset ++ " size " ++ row.size ++ "\n"

/-- The line with the access. -/
def accessLine (r : ListingRequest) (row : ListingRow) : String :=
  let member := if r.owner = "" then row.name else r.owner ++ "." ++ row.name
  let operand := "_hidl_offset + " ++ row.offset
  match r.direction with
  | .read => member ++ " = " ++ r.blob ++ ".get" ++ row.suffix ++ "(" ++ operand ++ ");\n"
  | .write => r.blob ++ ".put" ++ row.suffix ++ "(" ++ operand ++ ", " ++ member ++ ");\n"

/-- The row is about the placed field. -/
structure Describes (row : ListingRow) (p : Placement) : Prop where
  name : row.name = p.name
  kind : ∃ k, p.type = .scalar k ∧ row.keyword = k.keyword ∧ row.suffix = k.spelling.accessor
  offset : row.offset = toString p.offset.toNat
  size : row.size = toString p.size.toNat

end ListingRow

/-- The listing of a struct: the table, the size and alignment of the struct, the accesses. -/
def listingText (r : ListingRequest) (l : StructLayout) (rows : List ListingRow) : String :=
  String.join (rows.map ListingRow.tableLine) ++
    ("// size " ++ toString l.size.toNat ++ " align " ++ toString l.alignment.toNat ++ "\n") ++
    String.join (rows.map (ListingRow.accessLine r))

namespace ListingRow.Describes

variable {row : ListingRow} {p : Placement}

theorem exists_of_scalar {k : Scalar} (h : p.type = .scalar k) :
    ∃ row : ListingRow, row.Describes p :=
  ⟨⟨p.name, k.keyword, toString p.offset.toNat, toString p.size.toNat, k.spelling.accessor⟩,
    rfl, ⟨k, h, rfl, rfl⟩, rfl, rfl⟩

theorem comment_eq (h : row.Describes p) : p.comment = row.tableLine := by
  obtain ⟨k, hk, hkeyword, -⟩ := h.kind
  have hname : p.type.displayName = row.keyword := by
    rw [hk, hkeyword]
    rfl
  unfold Placement.comment tableLine
  rw [hname, ← h.name, ← h.offset, ← h.size, Text.column_eq, Text.column_eq, Text.columnRight_eq]
  simp only [String.append_assoc]

theorem access_eq (h : row.Describes p) (r : ListingRequest) (l : StructLayout) :
    ∃ a, (r.access l).field? p = some a ∧ a.line = row.accessLine r := by
  obtain ⟨k, hk, -, hsuffix⟩ := h.kind
  refine ⟨_, by rw [StructAccess.field?, hk]; rfl, ?_⟩
  rw [accessLine, hsuffix, h.name, h.offset, FieldAccess.line]
  rfl

end ListingRow.Describes

section

variable {ps : List Placement} {rows : List ListingRow}

theorem exists_rows (h : ∀ p ∈ ps, ∃ k, p.type = .scalar k) :
    ∃ rows, List.Forall₂ ListingRow.Describes rows ps := by
  induction ps with
  | nil => exact ⟨[], .nil⟩
  | cons p ps ih =>
    rw [List.forall_mem_cons] at h
    obtain ⟨k, hk⟩ := h.1
    obtain ⟨row, hrow⟩ := ListingRow.Describes.exists_of_scalar hk
    obtain ⟨rows, hrows⟩ := ih h.2
    exact ⟨row :: rows, .cons hrow hrows⟩

theorem map_comment (h : List.Forall₂ ListingRow.Describes rows ps) :
    ps.map Placement.comment = rows.map ListingRow.tableLine := by
  induction h with
  | nil => rfl
  | cons hrow _ ih => rw [List.map_cons, List.map_cons, ih, hrow.comment_eq]

theorem map_access (h : List.Forall₂ ListingRow.Describes rows ps) (r : ListingRequest)
    (l : StructLayout) :
    (ps.filterMap (r.access l).field?).map FieldAccess.line =
      rows.map (ListingRow.accessLine r) := by
  induction h with
  | nil => rfl
  | cons hrow _ ih =>
    obtain ⟨a, ha, hline⟩ := hrow.access_eq r l
    rw [List.filterMap_cons_some ha, List.map_cons, List.map_cons, ih, hline]

theorem join_pieces {l : StructLayout} (h : List.Forall₂ ListingRow.Describes rows l.fields)
    (r : ListingRequest) (s : Settings) :
    String.join (r.pieces s l) = listingText r l rows := by
  have haccess : (Statement.structAccess (r.access l)).pieces s =
      rows.map (ListingRow.accessLine r) := map_access h r l
  rw [ListingRequest.pieces, haccess, map_comment h, String.join_append, String.join_append,
    listingText, String.join_cons, String.join_nil, String.append_empty]
  rfl

end

section

variable {specs : List String} {fields : List Field} {cause : SpecError}

theorem render_of_unread (h : specs.mapM Field.ofSpec = .error cause) (r : ListingRequest)
    (s : Settings) : r.render specs s = .error (.spec cause) := by
  rw [ListingRequest.render, h]
  rfl

theorem render_of_read (h : specs.mapM Field.ofSpec = .ok fields)
    (hlen : specs.length < 2 ^ 61 - 1) (r : ListingRequest) (s : Settings) :
    ∃ l rows, StructLayout.ofFields fields = .ok l ∧ l.fields.map Placement.toField = fields ∧
      List.Forall₂ ListingRow.Describes rows l.fields ∧
        r.render specs s =
          .ok (Text.indentLines (Text.margin s.indent r.depth) (listingText r l rows)) := by
  obtain ⟨l, hl, hrender⟩ := ListingRequest.render_ok_of_fields h hlen
  have hfields := (StructLayout.ofFields_natural hl).fields
  have hscalar : ∀ p ∈ l.fields, ∃ k, p.type = .scalar k := by
    intro p hp
    have hmem : p.toField ∈ fields := by
      rw [← hfields]
      exact List.mem_map_of_mem hp
    exact scalar_of_mapM h p.toField hmem
  obtain ⟨rows, hrows⟩ := exists_rows hscalar
  refine ⟨l, rows, hl, hfields, hrows, ?_⟩
  rw [hrender, join_pieces hrows]

end

/-- **A listing agrees with itself and with the layout.** Fewer than `2 ^ 61 - 1` fields are listed
    exactly if all of them can be read; else the first that cannot is reported, and nothing else
    ever is. The text has one row for each field of the layout in its order, and all that depends
    on the depth is the margin of its lines. -/
theorem listing_rows (r : ListingRequest) (s : Settings) {specs : List String}
    (hlen : specs.length < 2 ^ 61 - 1) :
    ((∃ text, r.render specs s = .ok text) ↔ ∀ spec ∈ specs, ∃ f, Field.ofSpec spec = .ok f) ∧
    (∀ e, r.render specs s = .error e →
      ∃ front spec back cause, specs = front ++ spec :: back ∧
        (∀ x ∈ front, ∃ f, Field.ofSpec x = .ok f) ∧ Field.ofSpec spec = .error cause ∧
          e = .spec cause ∧ e.message = cause.message) ∧
    ∀ text, r.render specs s = .ok text →
      ∃ fields l rows, List.Forall₂ (fun spec f => Field.ofSpec spec = .ok f) specs fields ∧
        StructLayout.ofFields fields = .ok l ∧ l.fields.map Placement.toField = fields ∧
          List.Forall₂ ListingRow.Describes rows l.fields ∧
            text = Text.indentLines (Text.margin s.indent r.depth) (listingText r l rows) := by
  cases hread : specs.mapM Field.ofSpec with
  | error cause =>
    have hrender := render_of_unread hread r s
    obtain ⟨front, spec, back, rfl, hfront, hspec⟩ := mapM_eq_error_iff.1 hread
    refine ⟨⟨fun ⟨text, htext⟩ => ?_, fun hall => ?_⟩, fun e he => ?_, fun text htext => ?_⟩
    · rw [hrender] at htext
      exact nomatch htext
    · obtain ⟨f, hf⟩ := hall spec (by simp)
      rw [hspec] at hf
      exact nomatch hf
    · obtain rfl := Except.error.inj (hrender.symm.trans he)
      exact ⟨front, spec, back, cause, rfl, hfront, hspec, rfl, rfl⟩
    · rw [hrender] at htext
      exact nomatch htext
  | ok fields =>
    obtain ⟨l, rows, hl, hfields, hrows, hrender⟩ := render_of_read hread hlen r s
    have hspecs := mapM_eq_ok_iff.1 hread
    refine ⟨⟨fun _ => exists_of_mapM_eq_ok hread, fun _ => ⟨_, hrender⟩⟩, fun e he => ?_,
      fun text htext => ?_⟩
    · rw [hrender] at he
      exact nomatch he
    · obtain rfl := Except.ok.inj (htext.symm.trans hrender)
      exact ⟨fields, l, rows, hspecs, hl, hfields, hrows, rfl⟩

/-- A name that is longer than its column and not ASCII, in a struct with a gap. -/
theorem listing_rows_gap :
    let r : ListingRequest := { owner := "o", direction := .write, depth := 1 }
    let s : Settings := { indent := "\t" }
    let specs := ["flag:bool", "größe-über-alles-hinaus:int64_t"]
    specs.length < 2 ^ 61 - 1 ∧
      ∃ text l rows, r.render specs s = .ok text ∧ List.Forall₂ ListingRow.Describes rows l.fields ∧
        text = Text.indentLines ['\t'] (listingText r l rows) := by
  intro r s specs
  have hlen : specs.length < 2 ^ 61 - 1 := by decide
  obtain ⟨hread, -, hrows⟩ := listing_rows r s hlen
  obtain ⟨text, htext⟩ := hread.2 (by
    simp only [specs, List.forall_mem_cons]
    exact ⟨⟨_, rfl⟩, ⟨_, rfl⟩, by simp⟩)
  have hmargin : Text.margin s.indent r.depth = ['\t'] := by decide
  obtain ⟨fields, l, rows, -, -, -, hdescribes, hlisting⟩ := hrows text htext
  rw [hmargin] at hlisting
  exact ⟨hlen, text, l, rows, htext, hdescribes, hlisting⟩

end ScalarStubs
