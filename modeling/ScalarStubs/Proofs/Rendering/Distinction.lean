/-
  What can be told from a fragment.

  * `render_inj`: settings without a fault indent so that different texts stay different.
  * `append_cons_inj`, `castTo_ne`: where texts in a row may be taken apart.
  * `Transfer.eq_of_join`: with the same names, all else can be told from the transfer of a value.
  * `fragments_distinct`: so the fragments for native code are all different, the declarations
    name their kind, and managed code confuses no kinds but the integers of one width.
-/
import ScalarStubs.Proofs.Rendering.Depth

namespace ScalarStubs

variable {s : Settings}

/-- **Indentation confuses nothing.** -/
theorem render_inj (hs : s.fault? = none) {depth : Nat} {ts us : List String} :
    s.render depth ts = s.render depth us ↔ String.join ts = String.join us := by
  have hmargin := Text.isMargin_margin (Settings.isMargin_indent hs) depth
  rw [Settings.render_eq, Settings.render_eq, Except.ok.injEq]
  exact (Text.indentLines_injective hmargin).eq_iff

/-! ## Texts in a row -/

/-- The first `x` ends what has no `x` in it. -/
theorem append_cons_inj {α : Type} {x : α} {as bs cs ds : List α} (ha : x ∉ as) (hb : x ∉ bs)
    (h : as ++ x :: cs = bs ++ x :: ds) : as = bs ∧ cs = ds := by
  rcases List.append_eq_append_iff.1 h with ⟨ts, rfl, hts⟩ | ⟨ts, rfl, hts⟩
  · rcases ts with _ | ⟨t, ts⟩
    · exact ⟨by simp, (List.cons.inj hts).2⟩
    · obtain ⟨rfl, -⟩ := List.cons.inj hts
      exact absurd (by simp) hb
  · rcases ts with _ | ⟨t, ts⟩
    · exact ⟨by simp, (List.cons.inj hts).2.symm⟩
    · obtain ⟨rfl, -⟩ := List.cons.inj hts
      exact absurd (by simp) ha

/-- A cast to a type. -/
def castTo (type : List Char) : List Char :=
  '(' :: type ++ [')']

/-- A cast in front of an argument shows, even if the argument begins with the same cast any
    number of times: behind the argument the brackets close. -/
theorem castTo_ne {type : List Char} (htype : ')' ∉ type) (arg xs ys : List Char) :
    castTo type ++ (arg ++ ')' :: ';' :: xs) ≠ arg ++ ')' :: ';' :: ys := by
  induction hn : arg.length using Nat.strong_induction_on generalizing arg with
  | _ n ih =>
    intro h
    rcases List.append_eq_append_iff.1 h with ⟨as, rfl, has⟩ | ⟨bs, hcast, hbs⟩
    · rw [List.append_assoc] at has
      have hlt : as.length < n := by
        rw [← hn, castTo]
        simp only [List.length_append, List.length_cons]
        omega
      exact ih as.length hlt as rfl has
    · rcases bs with _ | ⟨b, bs⟩
      · rw [List.append_nil] at hcast
        rw [← hcast, castTo] at hbs
        exact absurd (List.cons.inj hbs).1 (by decide)
      · obtain ⟨rfl, hrest⟩ := List.cons.inj hbs
        have hopen : ')' ∉ '(' :: type := by simp [htype]
        -- the bracket that closes the cast is the only one in it
        obtain ⟨rfl, -, rfl⟩ :=
          (List.append_cons_inj_of_notMem hopen List.not_mem_nil).1 hcast
        exact absurd (List.cons.inj hrest).1 (by decide)

/-! ## Words of the tables -/

namespace Scalar

theorem wire_injective {k k' : Scalar} (h : k.spelling.wire = k'.spelling.wire) : k = k' := by
  revert h
  cases k <;> cases k' <;> decide

theorem tag_injective {k k' : Scalar} (h : k.spelling.tag = k'.spelling.tag) : k = k' := by
  revert h
  cases k <;> cases k' <;> decide

theorem not_mem_wire (k : Scalar) : '(' ∉ k.spelling.wire.toList := by
  cases k <;> decide

theorem not_mem_native (k : Scalar) : ')' ∉ k.spelling.native.toList := by
  cases k <;> decide

/-- Both kinds are integers, and of one width. -/
def SameWidthIntegers (k k' : Scalar) : Prop :=
  k.isInteger = true ∧ k'.isInteger = true ∧ k.width = k'.width

instance (k k' : Scalar) : Decidable (k.SameWidthIntegers k') :=
  inferInstanceAs (Decidable (_ ∧ _))

theorem accessor_eq_iff {k k' : Scalar} :
    k.spelling.accessor = k'.spelling.accessor ↔ k = k' ∨ k.SameWidthIntegers k' := by
  cases k <;> cases k' <;> decide

end Scalar

theorem ErrorPolicy.check_injective : (ErrorPolicy.check s).Injective := by
  intro p p' h
  have hchars := congrArg String.toList h
  cases p <;> cases p' <;> simp [check, reaction] at hchars ⊢

/-! ## Transfers -/

namespace Transfer

variable {xs ys : List Char}

/-- What stands between a parcel and the call. -/
def arrow (viaPointer : Bool) : List Char :=
  if viaPointer then ['-', '>'] else ['.']

/-- The cast in front of an argument, if there is one, and the address operator. -/
def ahead (native : List Char) (cast : Bool) : Direction → List Char
  | .read => (if cast then castTo (native ++ [' ', '*']) else []) ++ ['&']
  | .write => if cast then castTo native else []

theorem toList_join_pieces (s : Settings) (t : Transfer) :
    (String.join (t.pieces s)).toList =
      s.statusVar.toList ++ [' ', '=', ' '] ++ t.parcel.toList ++ (arrow t.viaPointer ++
        (t.direction.operation.toList ++ (t.kind.spelling.wire.toList ++ '(' ::
          (ahead t.kind.spelling.native.toList t.cast t.direction ++ (t.name.toList ++
            ')' :: ';' :: '\n' :: (t.policy.check s).toList))))) := by
  rw [pieces]
  cases t.viaPointer <;> cases t.direction <;> cases t.cast <;>
    simp [arrow, ahead, castTo, Direction.operation, String.join_cons]

theorem arrow_inj {v v' : Bool} (h : arrow v ++ xs = arrow v' ++ ys) : v = v' ∧ xs = ys := by
  cases v <;> cases v' <;> simp_all [arrow]

theorem operation_inj {d d' : Direction}
    (h : d.operation.toList ++ xs = d'.operation.toList ++ ys) : d = d' ∧ xs = ys := by
  cases d <;> cases d' <;> simp_all [Direction.operation]

theorem ahead_inj {native : List Char} (hnative : ')' ∉ native) (name : List Char) {c c' : Bool}
    {d : Direction} (h : ahead native c d ++ (name ++ ')' :: ';' :: xs) =
      ahead native c' d ++ (name ++ ')' :: ';' :: ys)) : c = c' ∧ xs = ys := by
  cases d with
  | read =>
    cases c <;> cases c' <;> simp_all [ahead, castTo]
  | write =>
    have hne := castTo_ne hnative name
    cases c <;> cases c' <;>
      simp only [ahead, if_true, if_false, Bool.false_eq_true, List.nil_append] at h
    · exact ⟨rfl, by simpa using h⟩
    · exact absurd h.symm (hne ys xs)
    · exact absurd h (hne xs ys)
    · exact ⟨rfl, by simpa using h⟩

/-- **A transfer is read off its text**, with the names given. -/
theorem eq_of_join {t t' : Transfer} (hname : t.name = t'.name) (hparcel : t.parcel = t'.parcel)
    (h : String.join (t.pieces s) = String.join (t'.pieces s)) : t = t' := by
  obtain ⟨k, name, parcel, v, d, c, p⟩ := t
  obtain ⟨k', name', parcel', v', d', c', p'⟩ := t'
  obtain rfl : name = name' := hname
  obtain rfl : parcel = parcel' := hparcel
  have hchars := congrArg String.toList h
  rw [toList_join_pieces, toList_join_pieces, List.append_cancel_left_eq] at hchars
  obtain ⟨rfl, hchars⟩ := arrow_inj hchars
  obtain ⟨rfl, hchars⟩ := operation_inj hchars
  obtain ⟨hwire, hchars⟩ := append_cons_inj k.not_mem_wire k'.not_mem_wire hchars
  obtain rfl := Scalar.wire_injective (String.toList_inj.1 hwire)
  obtain ⟨rfl, hcheck⟩ := ahead_inj k.not_mem_native name.toList hchars
  obtain rfl : p = p' :=
    ErrorPolicy.check_injective (String.toList_inj.1 (List.cons.inj hcheck).2)
  rfl

end Transfer

/-! ## Fragments -/

theorem join_declaration_inj {k k' : Scalar} (h : String.join k.declaration =
    String.join k'.declaration) : k = k' := by
  simp only [Scalar.declaration, String.join_cons, String.append_right_inj,
    String.append_left_inj] at h
  exact Scalar.tag_injective h

theorem FieldAccess.line_eq_iff (a : FieldAccess) (k k' : Scalar) :
    { a with kind := k }.line = { a with kind := k' }.line ↔
      k.spelling.accessor = k'.spelling.accessor := by
  unfold line
  cases a.direction <;> simp only [String.append_right_inj, String.append_left_inj]

theorem ArgumentTransfer.line_eq_iff (t : ArgumentTransfer) (k k' : Scalar) :
    { t with kind := k }.line = { t with kind := k' }.line ↔
      k.spelling.accessor = k'.spelling.accessor := by
  unfold line
  cases t.direction <;> simp only [String.append_right_inj, String.append_left_inj]

/-- The requests use the same names, at the same depth. -/
structure FragmentRequest.SameNames (r r' : FragmentRequest) : Prop where
  name : r.name = r'.name
  container : r.container = r'.container
  offset : r.offset = r'.offset
  depth : r.depth = r'.depth

/-- **Fragments keep what they are asked for apart.** In native code the kind, the pointer, the
    direction, the cast and the policy can be told from the fragment, whatever the names are. A
    declaration tells its kind. Managed code, in a given direction, is the same for two kinds only
    if they are integers of one width. -/
theorem fragments_distinct (hs : s.fault? = none) :
    (∀ (r r' : FragmentRequest) (k k' : Scalar), r.SameNames r' →
      r.render k .parcel s = r'.render k' .parcel s → r = r' ∧ k = k') ∧
    (∀ (r : FragmentRequest) (k k' : Scalar),
      r.render k .testDescription s = r.render k' .testDescription s → k = k') ∧
    ∀ b : Backend, b = .managedField ∨ b = .managedArgument →
      ∀ (r : FragmentRequest) (k k' : Scalar),
        r.render k b s = r.render k' b s ↔ k = k' ∨ k.SameWidthIntegers k' := by
  refine ⟨fun r r' k k' hnames h => ?_, fun r k k' h => ?_, fun b hb r k k' => ?_⟩
  · rw [FragmentRequest.render, FragmentRequest.render, hnames.depth, render_inj hs] at h
    have ht := Transfer.eq_of_join hnames.name hnames.container h
    simp only [Transfer.mk.injEq] at ht
    obtain ⟨hkind, -, -, hpointer, hdirection, hcast, hpolicy⟩ := ht
    obtain ⟨hname, hcontainer, hoffset, hdepth⟩ := hnames
    obtain ⟨_, _, _, _, _, _, _, _⟩ := r
    simp_all
  · rw [FragmentRequest.render, FragmentRequest.render, render_inj hs] at h
    exact join_declaration_inj h
  · rw [FragmentRequest.render, FragmentRequest.render, render_inj hs, ← Scalar.accessor_eq_iff]
    rcases hb with rfl | rfl
    · show String.join [FieldAccess.line _] = String.join [FieldAccess.line _] ↔ _
      simp only [String.join_cons, String.join_nil, String.append_empty]
      exact FieldAccess.line_eq_iff ⟨k, r.container, r.name, r.offset, r.direction⟩ k k'
    · show String.join [ArgumentTransfer.line _] = String.join [ArgumentTransfer.line _] ↔ _
      simp only [String.join_cons, String.join_nil, String.append_empty]
      exact ArgumentTransfer.line_eq_iff ⟨k, r.container, r.name, r.direction⟩ k k'

/-- A name that begins with the cast that is asked for, over two lines. -/
theorem fragments_distinct_cast :
    let s : Settings := { okStatus := "(int8_t)x", indent := "\t" }
    let r : FragmentRequest := { name := "(int8_t)\n(int8_t)x", direction := .write, depth := 3 }
    s.fault? = none ∧ r.render .int8 .parcel s ≠ { r with cast := true }.render .int8 .parcel s ∧
      r.render .int8 .managedField s = r.render .uint8 .managedField s ∧
        r.render .int8 .managedField s ≠ r.render .bool .managedField s := by
  intro s r
  have hs : s.fault? = none := by decide
  obtain ⟨htransfer, -, hmanaged⟩ := fragments_distinct hs
  refine ⟨hs, fun h => ?_, ?_, ?_⟩
  · have hcast := htransfer r { r with cast := true } .int8 .int8 ⟨rfl, rfl, rfl, rfl⟩ h
    exact absurd hcast.1 (by decide)
  · exact (hmanaged .managedField (Or.inl rfl) r .int8 .uint8).2 (by decide)
  · exact fun h => absurd ((hmanaged .managedField (Or.inl rfl) r .int8 .bool).1 h) (by decide)

end ScalarStubs
