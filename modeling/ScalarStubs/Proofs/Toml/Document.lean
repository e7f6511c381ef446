/-
  Documents of texts with bare names.

  * `IsBareName`: the name needs no quotes. `Line.read_entry`: an entry with such a name and a
    written text is read back.
  * `lines?_entries`, `foldlM_step_entries`: a document of such entries is read line by line, and
    each of them is added to the table.
  * `read?_entries`: the table is that of the names and texts, in their order.
-/
import ScalarStubs.Proofs.Toml.Quotation.RoundTrip
import ScalarStubs.Toml.Document

namespace ScalarStubs.Toml

open Reader

variable {k s w : String} {rest more : List Char}

/-- The name can stand in an entry as it is. -/
structure IsBareName (k : String) : Prop where
  nonempty : k ≠ ""
  bare : ∀ c ∈ k.toList, isBare c = true

namespace IsBareName

theorem exists_cons (h : IsBareName k) :
    ∃ c cs, k.toList = c :: cs ∧ isBare c = true ∧ ∀ d ∈ cs, isBare d = true := by
  cases hk : k.toList with
  | nil => exact absurd (String.toList_eq_nil_iff.1 hk) h.nonempty
  | cons c cs =>
    have hbare := h.bare
    rw [hk, List.forall_mem_cons] at hbare
    exact ⟨c, cs, rfl, hbare.1, hbare.2⟩

theorem not_margin {c : Char} (h : isBare c = true) : isMargin c = false := by
  by_contra hmargin
  rw [Bool.not_eq_false, isMargin, Bool.or_eq_true, beq_iff_eq, beq_iff_eq] at hmargin
  rcases hmargin with rfl | rfl <;> exact absurd h (by decide)

theorem bareName_append (h : IsBareName k) (hrest : ∀ c ∈ rest.head?, isBare c = false) :
    bareName (k.toList ++ rest) = some (k, rest) := by
  obtain ⟨c, cs, hk, hc, hcs⟩ := h.exists_cons
  have hone : oneOf isBare (k.toList ++ rest) = some (c, cs ++ rest) := by
    rw [hk]
    simp [oneOf, hc]
  rw [bareName, bind_eq hone, bind_eq (span_append hcs hrest), ← hk, String.ofList_toList]
  rfl

theorem name_append (h : IsBareName k) (hrest : ∀ c ∈ rest.head?, isMargin c = false) :
    name (k.toList ++ ' ' :: rest) = some (k, rest) := by
  have hfront : blanks (k.toList ++ ' ' :: rest) = some ((), k.toList ++ ' ' :: rest) := by
    obtain ⟨c, cs, hk, hc, -⟩ := h.exists_cons
    refine blanks_of_head ?_
    simpa [hk] using not_margin hc
  have hbare : bareName (k.toList ++ ' ' :: rest) = some (k, ' ' :: rest) :=
    h.bareName_append (by simp; decide)
  have hblank : blanks (' ' :: rest) = some ((), rest) :=
    blanks_append (w := [' ']) (by simp; decide) hrest
  rw [name, bind_eq hfront, bind_eq (orElse_of_some hbare _), bind_eq hblank]
  rfl

theorem key_append (h : IsBareName k) (rest : List Char) :
    Key.read (k.toList ++ ' ' :: '=' :: rest) = some (⟨[], k⟩, '=' :: rest) := by
  have hname : name (k.toList ++ ' ' :: '=' :: rest) = some (k, '=' :: rest) :=
    h.name_append (by simp; decide)
  have hpoint : (exactly "." *> name) ('=' :: rest) = none :=
    seqRight_of_none (exactly_of_head (d := '.') rfl (by decide) rest) _
  rw [Key.read, bind_eq hname, bind_eq (many_of_none hpoint), bind_eq (guard_of (by decide) _)]
  rfl

end IsBareName

theorem value_of_text {cs : List Char} (h : text cs = some (s, rest)) (depth : Nat) :
    value depth cs = some (.text s, rest) := by
  have hatom : atom cs = some (.text s, rest) := by
    rw [atom, orElse_of_some (map_eq h _)]
  cases depth with
  | zero => exact hatom
  | succ depth => rw [value, orElse_of_some hatom]

/-- What an entry is written as between the name and the end of the line. -/
theorem pair_entry (hk : IsBareName k) (hw : quote s = .ok w) (depth : Nat) (more : List Char) :
    pair (value depth) (k.toList ++ ' ' :: '=' :: ' ' :: (w.toList ++ '\n' :: more)) =
      some ((⟨[], k⟩, .text s), '\n' :: more) := by
  obtain ⟨m, cs, hm⟩ := exists_mark_of_quote hw
  have hequals : exactly "=" ('=' :: ' ' :: (w.toList ++ '\n' :: more)) =
      some ((), ' ' :: (w.toList ++ '\n' :: more)) :=
    exactly_append _
  have hblank : blanks (' ' :: (w.toList ++ '\n' :: more)) =
      some ((), w.toList ++ '\n' :: more) := by
    refine blanks_append (w := [' ']) (by simp; decide) ?_
    cases m <;> simp [hm] <;> decide
  have htext : text (w.toList ++ '\n' :: more) = some (s, '\n' :: more) :=
    text_quote hw (by simp)
  have hvalue := value_of_text htext depth
  have hend : blanks ('\n' :: more) = some ((), '\n' :: more) :=
    blanks_of_head (by simp; decide)
  rw [pair, bind_eq (hk.key_append _), bind_eq hequals, bind_eq hblank, bind_eq hvalue,
    bind_eq hend]
  rfl

namespace Line

theorem heading_of_head {left right : String} {c d : Char} {w : List Char}
    (hleft : left.toList = d :: w) (h : d ≠ c) (cs : List Char) :
    heading left right (c :: cs) = none :=
  bind_of_none (exactly_of_head hleft h cs) _

/-- The line of an entry is read as that entry. -/
theorem read_entry (hk : IsBareName k) (hw : quote s = .ok w) (more : List Char) :
    Line.read ((k ++ " = " ++ w ++ "\n").toList ++ more) =
      some (.entry ⟨[], k⟩ (.text s), more) := by
  have hline : (k ++ " = " ++ w ++ "\n").toList ++ more =
      k.toList ++ ' ' :: '=' :: ' ' :: (w.toList ++ '\n' :: more) := by
    simp
  have hentry : readEntry (k.toList ++ ' ' :: '=' :: ' ' :: (w.toList ++ '\n' :: more)) =
      some (.entry ⟨[], k⟩ (.text s), '\n' :: more) := by
    rw [readEntry, bind_eq (pair_entry hk hw _ more)]
    rfl
  obtain ⟨c, cs, hcs, hc, -⟩ := hk.exists_cons
  rw [hline]
  rw [hcs, List.cons_append] at hentry ⊢
  generalize cs ++ ' ' :: '=' :: ' ' :: (w.toList ++ '\n' :: more) = line at hentry ⊢
  have hfront : blanks (c :: line) = some ((), c :: line) :=
    blanks_of_head (by simpa using IsBareName.not_margin hc)
  have hbracket : '[' ≠ c := by
    rintro rfl
    exact absurd hc (by decide)
  have hlists : heading "[[" "]]" (c :: line) = none := heading_of_head rfl hbracket line
  have htables : heading "[" "]" (c :: line) = none := heading_of_head rfl hbracket line
  rw [Line.read, bind_eq hfront, bind_eq, bind_eq (lineEnd_newline more)]
  · rfl
  · rw [orElse_of_none (map_of_none hlists _), orElse_of_none (map_of_none htables _),
      orElse_of_some hentry]

theorem read_nil : Line.read [] = some (.blank, []) := by
  rfl

end Line

/-! ## Documents of entries -/

/-- The line writes the entry, a name that needs no quotes and a text. -/
def IsEntry (e : String × String) (line : String) : Prop :=
  IsBareName e.1 ∧ ∃ w, quote e.2 = .ok w ∧ line = e.1 ++ " = " ++ w ++ "\n"

/-- The table that names and texts make up. -/
def tableOf (es : List (String × String)) : Entries :=
  es.map fun e => (e.1, .value (.text e.2))

variable {es : List (String × String)} {lines : List String}

namespace Document

/-- The lines of a document of entries. Behind the last of them nothing is left, which is read as
    one more line. -/
theorem many_entries (h : List.Forall₂ IsEntry es lines) :
    many Line.read (lines.flatMap String.toList) =
      some (es.map (fun e => Line.entry ⟨[], e.1⟩ (.text e.2)) ++ [Line.blank], []) := by
  induction h with
  | nil => exact many_nil Line.read_nil
  | @cons e line es lines he _ ih =>
    obtain ⟨hk, w, hw, rfl⟩ := he
    rw [List.flatMap_cons, many_cons (Line.read_entry hk hw _) (by simp; omega), ih]
    rfl

theorem head_ne_mark (h : List.Forall₂ IsEntry es lines) :
    ∀ c ∈ (lines.flatMap String.toList).head?, c ≠ '\uFEFF' := by
  cases h with
  | nil => exact fun c hc => nomatch hc
  | cons he _ =>
    obtain ⟨hk, w, -, rfl⟩ := he
    obtain ⟨c, cs, hcs, hc, -⟩ := hk.exists_cons
    intro d hd
    obtain rfl : c = d := by simpa [hcs] using hd
    rintro rfl
    exact absurd hc (by decide)

theorem lines?_of_many {ls : List Line} (hmark : ∀ c ∈ s.toList.head?, c ≠ '\uFEFF')
    (h : many Line.read s.toList = some (ls, [])) : lines? s = some ls := by
  rw [lines?]
  cases hs : s.toList with
  | nil =>
    rw [hs] at h
    simp [h]
  | cons c cs =>
    have hc : c ≠ '\uFEFF' := hmark c (by rw [hs]; rfl)
    rw [hs] at h
    simp [hc, h]

theorem lines?_entries (h : List.Forall₂ IsEntry es lines) :
    lines? (String.join lines) =
      some (es.map (fun e => Line.entry ⟨[], e.1⟩ (.text e.2)) ++ [Line.blank]) := by
  have hmark := head_ne_mark h
  have hmany := many_entries h
  rw [← String.toList_join] at hmark hmany
  exact lines?_of_many hmark hmany

/-! ### The table -/

theorem put_of_lookup {α : Type} {a : α} {items : List (String × α)} (h : items.lookup k = none) :
    Named.put k a items = items ++ [(k, a)] := by
  induction items with
  | nil => rfl
  | cons p items ih =>
    obtain ⟨n, b⟩ := p
    rw [List.lookup_cons] at h
    by_cases hn : k = n
    · simp [hn] at h
    · have hnk : (k == n) = false := by simpa using hn
      rw [hnk] at h
      rw [Named.put, if_neg (Ne.symm hn), ih h]
      rfl

theorem step_entry {d : Document} (hd : d.current = []) (h : d.entries.lookup k = none) :
    d.step (.entry ⟨[], k⟩ (.text s)) =
      some { d with entries := d.entries ++ [(k, .value (.text s))] } := by
  have hadd : d.entries.assign [] ⟨[], k⟩ (.text s) =
      some (Named.put k (.value (.text s)) d.entries) := by
    simp [Entries.assign, Entries.descend, Entries.add, h]
  rw [step, hd, hadd, put_of_lookup h]
  rfl

theorem foldlM_step_entries (h : (es.map Prod.fst).Nodup) {d : Document} (hd : d.current = [])
    (hfresh : ∀ e ∈ es, d.entries.lookup e.1 = none) :
    (es.map fun e => Line.entry ⟨[], e.1⟩ (.text e.2)).foldlM step d =
      some { d with entries := d.entries ++ tableOf es } := by
  induction es generalizing d with
  | nil => simp [tableOf]
  | cons e es ih =>
    rw [List.map_cons, List.nodup_cons] at h
    rw [List.forall_mem_cons] at hfresh
    have hrest : ∀ f ∈ es, (d.entries ++ [(e.1, Item.value (.text e.2))]).lookup f.1 = none := by
      intro f hf
      have hne : (f.1 == e.1) = false := by
        simpa using fun heq : f.1 = e.1 => h.1 (List.mem_map.2 ⟨f, hf, heq⟩)
      simp [List.lookup_append, hfresh.2 f hf, List.lookup_cons, hne]
    have hes :=
      ih h.2 (d := { d with entries := d.entries ++ [(e.1, Item.value (.text e.2))] }) hd hrest
    rw [List.map_cons, List.foldlM_cons, step_entry hd hfresh.1, Option.bind_eq_bind,
      Option.bind_some, hes]
    simp [tableOf]

/-- **A document of entries stands for the table of its names and texts.** -/
theorem read?_entries (h : List.Forall₂ IsEntry es lines) (hnames : (es.map Prod.fst).Nodup) :
    read? (String.join lines) = some (tableOf es) := by
  have hfold := foldlM_step_entries hnames (d := {}) rfl (fun _ _ => rfl)
  rw [read?, lines?_entries h, Option.bind_eq_bind, Option.bind_some, List.foldlM_append, hfold]
  simp [step]

end Document

end ScalarStubs.Toml
