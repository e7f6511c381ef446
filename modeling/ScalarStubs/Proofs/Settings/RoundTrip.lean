/-
  Settings files, written and read back.

  * `Settings.only s fs`: the defaults, but for the settings among `fs`, which are those of `s`.
  * `ofToml_entries`: what is read from some of the entries, in any order, is just that, if it has
    no fault.
  * `toml_round_trip`: which settings can be written, and what is read from all of their entries
    and from some.
-/
import ScalarStubs.Proofs.Refusal
import ScalarStubs.Proofs.Toml.Document
import ScalarStubs.Settings.File

namespace ScalarStubs

open Toml (Quotable IsBareName IsEntry tableOf)

namespace Setting

theorem isBareName_key (f : Setting) : IsBareName f.key := by
  cases f <;> exact ⟨by decide, List.all_eq_true.1 (by decide)⟩

end Setting

namespace Settings

variable {s t : Settings} {f g : Setting} {fs : List Setting}

theorem eq_of_get (h : ∀ f, s.get f = t.get f) : s = t := by
  have hstatus := h .statusVar
  have hok := h .okStatus
  have hlabel := h .errorLabel
  have hindent := h .indent
  cases s
  cases t
  simp only [get] at hstatus hok hlabel hindent
  rw [hstatus, hok, hlabel, hindent]

theorem get_set (s : Settings) (text : String) (f g : Setting) :
    (s.set text f).get g = if g = f then text else s.get g := by
  cases f <;> cases g <;> rfl

/-- The defaults, but for the settings among `fs`, which are those of `s`. -/
def only (s : Settings) (fs : List Setting) : Settings :=
  let pick (f : Setting) : String := if f ∈ fs then s.get f else ({} : Settings).get f
  { statusVar := pick .statusVar, okStatus := pick .okStatus, errorLabel := pick .errorLabel,
    indent := pick .indent }

theorem get_only (s : Settings) (fs : List Setting) (f : Setting) :
    (s.only fs).get f = if f ∈ fs then s.get f else ({} : Settings).get f := by
  cases f <;> rfl

theorem only_all (s : Settings) : s.only Setting.all = s := by
  refine eq_of_get fun f => ?_
  rw [get_only, if_pos f.mem_all]

/-! ## Writing -/

theorem entry_eq_ok_iff {line : String} :
    s.entry f = .ok line ↔ IsEntry (f.key, s.get f) line := by
  simp only [entry, bind_eq_ok_iff, pure, Except.pure, Except.ok.injEq]
  constructor
  · rintro ⟨w, hw, rfl⟩
    exact ⟨f.isBareName_key, w, hw, rfl⟩
  · rintro ⟨-, w, hw, rfl⟩
    exact ⟨w, hw, rfl⟩

theorem exists_entry_iff : (∃ line, s.entry f = .ok line) ↔ Quotable (s.get f) := by
  constructor
  · rintro ⟨line, hline⟩
    obtain ⟨-, w, hw, -⟩ := entry_eq_ok_iff.1 hline
    by_contra hs
    exact nomatch hw.symm.trans (Toml.quote_of_not_quotable hs)
  · intro hs
    exact ⟨_, entry_eq_ok_iff.2 ⟨f.isBareName_key, _, Toml.quote_of_quotable hs, rfl⟩⟩

theorem toToml_eq_ok_iff {text : String} : s.toToml = .ok text ↔
    ∃ lines, Setting.all.mapM s.entry = .ok lines ∧ text = String.join lines := by
  simp only [toToml, bind_eq_ok_iff, pure, Except.pure, Except.ok.injEq]
  exact exists_congr fun lines => and_congr_right fun _ => eq_comm

theorem exists_toToml_iff : (∃ text, s.toToml = .ok text) ↔ ∀ f, Quotable (s.get f) := by
  constructor
  · rintro ⟨text, htext⟩ f
    obtain ⟨lines, hlines, -⟩ := toToml_eq_ok_iff.1 htext
    exact exists_entry_iff.1 (exists_of_mapM_eq_ok hlines f f.mem_all)
  · intro h
    have hentries : ∀ f ∈ Setting.all, ∃ line, s.entry f = .ok line :=
      fun f _ => exists_entry_iff.2 (h f)
    obtain ⟨lines, hlines⟩ := exists_mapM_eq_ok hentries
    exact ⟨_, toToml_eq_ok_iff.2 ⟨lines, hlines, rfl⟩⟩

/-! ## Reading -/

theorem lookup_entries (s : Settings) (fs : List Setting) (g : Setting) :
    (tableOf (fs.map fun f => (f.key, s.get f))).lookup g.key =
      if g ∈ fs then some (.value (.text (s.get g))) else none := by
  induction fs with
  | nil => rfl
  | cons f fs ih =>
    rw [tableOf, List.map_cons, List.map_cons, List.lookup_cons]
    by_cases hfg : g = f
    · simp [hfg]
    · have hkey : (g.key == f.key) = false := by
        simpa using Setting.key_injective.ne hfg
      rw [hkey]
      simpa [hfg, tableOf] using ih

theorem override_entries (s : Settings) (fs : List Setting) (t : Settings) (g : Setting) :
    override (tableOf (fs.map fun f => (f.key, s.get f))) t g =
      .ok (if g ∈ fs then t.set (s.get g) g else t) := by
  rw [override, lookup_entries]
  by_cases hg : g ∈ fs <;> simp [hg]

theorem foldlM_override (s : Settings) (fs gs : List Setting) (t : Settings) :
    ∃ u, gs.foldlM (override (tableOf (fs.map fun f => (f.key, s.get f)))) t = .ok u ∧
      ∀ f, u.get f = if f ∈ gs ∧ f ∈ fs then s.get f else t.get f := by
  induction gs generalizing t with
  | nil => exact ⟨t, rfl, by simp⟩
  | cons g gs ih =>
    obtain ⟨u, hu, hget⟩ := ih (if g ∈ fs then t.set (s.get g) g else t)
    refine ⟨u, ?_, fun f => ?_⟩
    · rw [List.foldlM_cons, override_entries]
      exact hu
    · rw [hget]
      by_cases hfg : f = g
      · subst hfg
        by_cases hf : f ∈ fs <;> simp [hf, get_set]
      · by_cases hg : g ∈ fs <;> simp [hg, hfg, get_set]

/-- What is read from entries is the defaults with those settings, if that has no fault. -/
theorem ofToml_entries {lines : List String} (hfs : fs.Nodup)
    (h : List.Forall₂ IsEntry (fs.map fun f => (f.key, s.get f)) lines) :
    ofToml (String.join lines) = (s.only fs).validate := by
  have hnames : ((fs.map fun f => (f.key, s.get f)).map Prod.fst).Nodup := by
    rw [List.map_map]
    exact hfs.map Setting.key_injective
  obtain ⟨u, hu, hget⟩ := foldlM_override s fs Setting.all {}
  obtain rfl : u = s.only fs := by
    refine eq_of_get fun f => ?_
    rw [hget, get_only]
    simp [f.mem_all]
  rw [ofToml, Toml.Document.read?_entries h hnames]
  simp only [hu]
  rfl

theorem exists_ofToml (hfs : fs.Nodup) (h : ∀ f ∈ fs, Quotable (s.get f)) :
    ∃ lines, fs.mapM s.entry = .ok lines ∧ ofToml (String.join lines) = (s.only fs).validate := by
  have hwritten : ∀ f ∈ fs, ∃ line, s.entry f = .ok line :=
    fun f hf => exists_entry_iff.2 (h f hf)
  obtain ⟨lines, hlines⟩ := exists_mapM_eq_ok hwritten
  have hentries : List.Forall₂ IsEntry (fs.map fun f => (f.key, s.get f)) lines :=
    List.forall₂_map_left_iff.2 ((mapM_eq_ok_iff.1 hlines).imp fun _ _ => entry_eq_ok_iff.1)
  exact ⟨lines, hlines, ofToml_entries hfs hentries⟩

/-! ## Settings without a fault -/

theorem quotable_of_all {text : String} {p : Char → Bool} (hp : ∀ m : Toml.Mark, ¬ p m.char = true)
    (h : ∀ c ∈ text.toList, p c = true) : Quotable text :=
  Toml.quotable_of_not_mem fun m hm => hp m (h _ hm)

theorem isIdentifierRest_of_mem {name : String} (h : isIdentifier name = true) :
    ∀ c ∈ name.toList, isIdentifierRest c = true := by
  unfold isIdentifier at h
  split at h
  · exact nomatch h
  · rename_i c cs hcs
    rw [Bool.and_eq_true, List.all_eq_true] at h
    rw [hcs, List.forall_mem_cons]
    refine ⟨?_, h.2⟩
    have hstart := h.1
    simp only [isIdentifierStart, isIdentifierRest, Char.isAlphanum, Bool.or_eq_true] at hstart ⊢
    exact hstart.imp_right .inl

theorem isMargin_of_mem {unit : String} (h : isIndentation unit = true) :
    ∀ c ∈ unit.toList, Toml.isMargin c = true := by
  rw [isIndentation, Bool.and_eq_true] at h
  exact List.all_eq_true.1 h.2

/-- Where nothing is wrong with settings, only the success value can have many marks in a row. -/
theorem quotable_of_fault? (hs : s.fault? = none) (hok : Quotable s.okStatus) (f : Setting) :
    Quotable (s.get f) := by
  have hname : ∀ m : Toml.Mark, ¬ isIdentifierRest m.char = true := by
    intro m
    cases m <;> decide
  have hblank : ∀ m : Toml.Mark, ¬ Toml.isMargin m.char = true := by
    intro m
    cases m <;> decide
  obtain ⟨hstatus, hlabel, -, hindent⟩ := fault?_eq_none_iff.1 hs
  cases f with
  | statusVar => exact quotable_of_all hname (isIdentifierRest_of_mem hstatus)
  | okStatus => exact hok
  | errorLabel => exact quotable_of_all hname (isIdentifierRest_of_mem hlabel)
  | indent => exact quotable_of_all hblank (isMargin_of_mem hindent)

/-- **Settings files are read back, in full and in part.** Settings can be written unless one of
    them has more than `runLimit` equal marks in a row. Whichever of them are written, and in
    whichever order: what is read is the defaults with these in their places, if nothing is wrong
    with that, and else what is wrong. Settings without a fault are read as they were, where the
    success value can be written. -/
theorem toml_round_trip (s : Settings) :
    ((∃ text, s.toToml = .ok text) ↔ ∀ f, Quotable (s.get f)) ∧
    (∀ fs : List Setting, fs.Nodup → (∀ f ∈ fs, Quotable (s.get f)) →
      ∃ lines, fs.mapM s.entry = .ok lines ∧
        ofToml (String.join lines) = (s.only fs).validate) ∧
    (s.fault? = none → Quotable s.okStatus →
      ∃ text, s.toToml = .ok text ∧ ofToml text = .ok s) := by
  refine ⟨exists_toToml_iff, fun fs => exists_ofToml, fun hs hok => ?_⟩
  have hall : ∀ f ∈ Setting.all, Quotable (s.get f) := fun f _ => quotable_of_fault? hs hok f
  obtain ⟨lines, hlines, hread⟩ := exists_ofToml (by decide) hall
  refine ⟨String.join lines, toToml_eq_ok_iff.2 ⟨lines, hlines, rfl⟩, ?_⟩
  rw [hread, only_all, validate, hs]

/-- Both marks, an escape and several lines; two of the entries, the later one in front. -/
theorem toml_round_trip_marks :
    let s : Settings := { okStatus := "\"'''\\\n\x00", indent := "\t" }
    let fs := [Setting.indent, .okStatus]
    fs.Nodup ∧ (∀ f ∈ fs, Quotable (s.get f)) ∧
      (∃ lines, fs.mapM s.entry = .ok lines ∧ ofToml (String.join lines) = .ok s) ∧
        ∃ text, s.toToml = .ok text ∧ ofToml text = .ok s := by
  intro s fs
  have hnodup : fs.Nodup := by decide
  have hs : s.fault? = none := by decide
  have hok : Quotable s.okStatus := by decide
  have hfs : ∀ f ∈ fs, Quotable (s.get f) := fun f _ => quotable_of_fault? hs hok f
  obtain ⟨-, hpart, hfull⟩ := toml_round_trip s
  obtain ⟨lines, hlines, hread⟩ := hpart fs hnodup hfs
  have honly : (s.only fs).validate = .ok s := by decide
  exact ⟨hnodup, hfs, ⟨lines, hlines, hread.trans honly⟩, hfull hs hok⟩

/-- The success value may be 256 apostrophes, but then the settings cannot be written. -/
theorem toToml_apostrophes :
    let s : Settings := { okStatus := String.ofList (List.replicate 256 '\'') }
    s.fault? = none ∧ s.toToml = .error .longRun := by
  intro s
  have hmarks : ¬ Quotable s.okStatus := by
    intro h
    refine h .single ?_
    rw [String.toList_ofList]
    exact List.infix_rfl
  have hblank : ¬ s.okStatus.toList.all Text.isBlank = true := by
    rw [String.toList_ofList, List.all_replicate]
    decide
  have hentry : s.entry .okStatus = .error .longRun := by
    rw [entry, get, Toml.quote_of_not_quotable hmarks]
    rfl
  have hentries : Setting.all.mapM s.entry = .error .longRun := by
    refine mapM_eq_error_iff.2 ⟨[.statusVar], .okStatus, [.errorLabel, .indent], rfl, ?_, hentry⟩
    intro f hf
    obtain rfl := List.mem_singleton.1 hf
    exact exists_entry_iff.2 (by decide)
  refine ⟨?_, ?_⟩
  · rw [fault?, if_neg (by decide), if_neg (by decide), if_neg hblank, if_neg (by decide)]
  · rw [toToml, hentries]
    rfl

end Settings

end ScalarStubs
