/-
  The shapes of statements.

  * `Statement.text` is a statement as one text, spelt out by its shape; its pieces make it up
    (`join_pieces`).
  * `Printer.EmitsAs`: a printer emits a statement just as it writes a text.
  * `emitsAs_text`: on a sink that never refuses, a statement comes out as if its text were written
    at once.
-/
import ScalarStubs.Proofs.Layout.Separation
import ScalarStubs.Proofs.Printer.Printed

namespace ScalarStubs

/-! ## Texts -/

/-- The line that checks a status, without its end. -/
def ErrorPolicy.line (s : Settings) : ErrorPolicy → String
  | ignore => "/* " ++ s.statusVar ++ " ignored! */"
  | jump =>
    "if (" ++ s.statusVar ++ " != " ++ s.okStatus ++ ") \x7b goto " ++ s.errorLabel ++ "; \x7d"
  | leaveLoop => "if (" ++ s.statusVar ++ " != " ++ s.okStatus ++ ") \x7b break; \x7d"
  | handBack =>
    "if (" ++ s.statusVar ++ " != " ++ s.okStatus ++ ") \x7b return " ++ s.statusVar ++ "; \x7d"

/-- The check of a status: its line, and an empty line. -/
def ErrorPolicy.text (s : Settings) (p : ErrorPolicy) : String :=
  p.line s ++ "\n\n"

namespace Transfer

/-- The cast in front of the value, to a pointer if the value is fetched. -/
def castText (t : Transfer) : String :=
  match t.cast, t.direction with
  | false, _ => ""
  | true, .read => "(" ++ t.kind.spelling.native ++ " *)"
  | true, .write => "(" ++ t.kind.spelling.native ++ ")"

/-- The call, and behind it the check of its status. -/
def text (s : Settings) (t : Transfer) : String :=
  s.statusVar ++ " = " ++ t.parcel ++ (if t.viaPointer then "->" else ".") ++
    (match t.direction with
      | .read => "read"
      | .write => "write") ++
    t.kind.spelling.wire ++ "(" ++ t.castText ++
    (match t.direction with
      | .read => "&"
      | .write => "") ++
    t.name ++ ");\n" ++ t.policy.text s

end Transfer

/-- The line that fetches a field from memory, or the line that stores one. -/
def FieldAccess.text (a : FieldAccess) : String :=
  match a.direction with
  | .read =>
    a.name ++ " = " ++ a.blob ++ ".get" ++ a.kind.spelling.accessor ++ "(" ++ a.offset ++ ");\n"
  | .write =>
    a.blob ++ ".put" ++ a.kind.spelling.accessor ++ "(" ++ a.offset ++ ", " ++ a.name ++ ");\n"

/-- The line that fetches an argument from a parcel, or the line that stores one. -/
def ArgumentTransfer.text (t : ArgumentTransfer) : String :=
  match t.direction with
  | .read => t.name ++ " = " ++ t.parcel ++ ".read" ++ t.kind.spelling.accessor ++ "();\n"
  | .write => t.parcel ++ ".write" ++ t.kind.spelling.accessor ++ "(" ++ t.name ++ ");\n"

/-- The lines that declare a value of the kind. -/
def Scalar.declarationText (kind : Scalar) : String :=
  "type: TYPE_SCALAR\n" ++ ("scalar_type: \"" ++ kind.spelling.tag ++ "\"\n")

/-- The lines with the accesses to the fields that scalars store. -/
def StructAccess.text (a : StructAccess) : String :=
  String.join ((a.layout.fields.filterMap a.call?).map (AccessorCall.line a))

/-- A statement as one text. -/
def Statement.text (s : Settings) : Statement → String
  | .transfer t => t.text s
  | .statusCheck policy => policy.text s
  | .fieldAccess a => a.text
  | .argument t => t.text
  | .declaration kind => kind.declarationText
  | .structAccess a => a.text

/-! ## Pieces -/

theorem ErrorPolicy.check_eq_text (s : Settings) (p : ErrorPolicy) : p.check s = p.text s := by
  apply String.toList_inj.1
  cases p <;> simp [check, reaction, text, line]

theorem Transfer.join_pieces_eq_text (s : Settings) (t : Transfer) :
    String.join (t.pieces s) = t.text s := by
  apply String.toList_inj.1
  rw [pieces, text, castText, ErrorPolicy.check_eq_text]
  cases t.direction <;> cases t.cast <;> simp [Direction.operation]

theorem Scalar.join_declaration (kind : Scalar) :
    String.join kind.declaration = kind.declarationText := by
  unfold declaration declarationText
  rw [String.join_cons, String.join_cons, String.join_nil, String.append_empty]

theorem FieldAccess.line_eq_text (a : FieldAccess) : a.line = a.text := by
  obtain ⟨kind, blob, name, offset, direction⟩ := a
  cases direction <;> rfl

theorem ArgumentTransfer.line_eq_text (t : ArgumentTransfer) : t.line = t.text := by
  obtain ⟨kind, parcel, name, direction⟩ := t
  cases direction <;> rfl

/-- The pieces of a statement make up its text. -/
theorem Statement.join_pieces (s : Settings) (stmt : Statement) :
    String.join (stmt.pieces s) = stmt.text s := by
  have hone : ∀ line : String, String.join [line] = line := fun line => by simp
  cases stmt with
  | transfer t => rw [pieces, text, t.join_pieces_eq_text]
  | statusCheck policy => rw [pieces, text, ← policy.check_eq_text, hone]
  | fieldAccess a => rw [pieces, text, ← a.line_eq_text, hone]
  | argument t => rw [pieces, text, ← t.line_eq_text, hone]
  | declaration kind => rw [pieces, text, kind.join_declaration]
  | structAccess a => rw [pieces_structAccess, text, StructAccess.text]

/-! ## Printing -/

open ByteSink (Accepts taken)

variable {σ ε : Type} [ByteSink σ ε] {p : Printer σ}

/-- The printer emits the statement just as it writes the text: nothing fails, the same bytes come
    out, and it stands at the same place. -/
structure Printer.EmitsAs (s : Settings) (p : Printer σ) (stmt : Statement) (text : String) :
    Prop where
  emit_ok : (p.emit s stmt).2 = none
  write_ok : (p.write text).2 = none
  alike : (p.emit s stmt).1.Alike (p.write text).1

/-- Printing the same characters, in whatever pieces, does the same. -/
theorem Printed.alike {cs : List Char} {r r' : Printer σ × Option (SinkError ε)}
    (h : Accepts none p.sink) (hr : Printed none p cs r) (hr' : Printed none p cs r') :
    r.1.Alike r'.1 :=
  ((InStep.start h).printed hr).2.alike ((InStep.start h).printed hr').2

theorem printed_text (h : Accepts none p.sink) (s : Settings) (stmt : Statement) :
    Printed none p (stmt.text s).toList
      ((p.emit s stmt).1, (p.emit s stmt).2.map EmitError.cause) := by
  have hemit := printed_emit h s stmt
  rwa [← String.toList_join, Statement.join_pieces] at hemit

theorem emitsAs_text (s : Settings) (h : Accepts none p.sink) (stmt : Statement) :
    p.EmitsAs s stmt (stmt.text s) := by
  have hemit := printed_text h s stmt
  have hwrite := printed_write h (stmt.text s)
  have halike := hemit.alike h hwrite
  exact ⟨Option.map_eq_none_iff.1 hemit.ok_of_none, hwrite.ok_of_none, halike⟩

/-- **A statement is one text** on a sink that never refuses, although it is written in pieces. So
    an access to a field that fetches and one that stores name the same operation and the same
    offset, and so do the accesses to all fields of a struct; the two transfers of an argument name
    the same operation. -/
theorem emit_text (s : Settings) (h : Accepts none p.sink) :
    (∀ stmt : Statement, p.EmitsAs s stmt (stmt.text s)) ∧
    (∀ a : FieldAccess,
      p.EmitsAs s (.fieldAccess { a with direction := .read })
          (a.name ++ " = " ++ a.blob ++ ".get" ++ a.kind.spelling.accessor ++
            "(" ++ a.offset ++ ");\n") ∧
        p.EmitsAs s (.fieldAccess { a with direction := .write })
          (a.blob ++ ".put" ++ a.kind.spelling.accessor ++
            "(" ++ a.offset ++ ", " ++ a.name ++ ");\n")) ∧
    (∀ t : ArgumentTransfer,
      p.EmitsAs s (.argument { t with direction := .read })
          (t.name ++ " = " ++ t.parcel ++ ".read" ++ t.kind.spelling.accessor ++ "();\n") ∧
        p.EmitsAs s (.argument { t with direction := .write })
          (t.parcel ++ ".write" ++ t.kind.spelling.accessor ++ "(" ++ t.name ++ ");\n")) ∧
    ∀ (a : StructAccess) (direction : Direction),
      p.EmitsAs s (.structAccess { a with direction })
        (String.join ((a.layout.fields.filterMap a.call?).map
          (AccessorCall.line { a with direction }))) := by
  refine ⟨emitsAs_text s h, fun a => ⟨?_, ?_⟩, fun t => ⟨?_, ?_⟩, fun a direction => ?_⟩
  · exact emitsAs_text s h (.fieldAccess { a with direction := .read })
  · exact emitsAs_text s h (.fieldAccess { a with direction := .write })
  · exact emitsAs_text s h (.argument { t with direction := .read })
  · exact emitsAs_text s h (.argument { t with direction := .write })
  · exact emitsAs_text s h (.structAccess { a with direction })

/-- A name over two lines, on a sink that takes two bytes at a time and interrupts. -/
theorem emit_text_metered :
    let p : Printer MeteredSink :=
      { sink := { portion := some 2, stutters := true }, unit := "\t", depth := 1 }
    let t : Transfer :=
      { kind := .uint8, name := "a\nb", viaPointer := true, cast := true, policy := .leaveLoop }
    Accepts none p.sink ∧ (p.emit {} (.transfer t)).2 = none ∧
      taken (p.emit {} (.transfer t)).1.sink =
        Text.encode ("\t_hidl_err = parcel->readUint8((uint8_t *)&a\n\tb);\n" ++
          "\tif (_hidl_err != ::android::OK) \x7b break; \x7d\n\n") := by
  intro p t
  have h : Accepts none p.sink := MeteredSink.accepts (by decide) nofun
  obtain ⟨hok, -, halike⟩ := (emit_text {} h).1 (.transfer t)
  have hwrite := printed_write h ((Statement.transfer t).text {})
  exact ⟨h, hok, halike.taken_eq.trans (hwrite.taken_of_none.trans (by decide +kernel))⟩

end ScalarStubs
