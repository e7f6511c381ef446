/-
  What commands do to the depth of a printer.

  * A `Drift` goes so many levels back, as far as there are any, and then so many levels deeper.
    Drifts in a row are a drift (`Drift.apply_andThen`).
  * `Command.drift` reads the drift off a command. `depth_exec`: whatever becomes of the sink, it is
    what the command does to the depth.
  * `Begins ds cs`: `ds` is what may be carried out of `cs` up to a failure. `stopped_attemptAll`:
    a run that stops at a failure does to the depth what some such beginning does.
  * `indented_drift`: so running commands one level deeper restores the depth if they come back to
    where they begin, and only then.
-/
import ScalarStubs.Proofs.Printer.Outage

namespace ScalarStubs

/-! ## Drifts -/

/-- Goes so many levels back, as far as there are any, and then so many levels deeper. -/
structure Drift where
  back : Nat
  deeper : Nat
deriving DecidableEq, Repr

namespace Drift

/-- The depth to which a drift leads. -/
def apply (m : Drift) (depth : Nat) : Nat :=
  depth - m.back + m.deeper

/-- The drift that leads nowhere. -/
def stay : Drift :=
  ⟨0, 0⟩

/-- One level deeper. -/
def down : Drift :=
  ⟨0, 1⟩

/-- One level back. -/
def up : Drift :=
  ⟨1, 0⟩

/-- One drift, and then another. What the first goes deeper, the second may take back. -/
def andThen (m n : Drift) : Drift :=
  ⟨m.back + (n.back - m.deeper), m.deeper - n.back + n.deeper⟩

variable {m : Drift}

@[simp] theorem apply_down (depth : Nat) : down.apply depth = depth + 1 :=
  rfl

@[simp] theorem apply_up (depth : Nat) : up.apply depth = depth - 1 :=
  rfl

theorem apply_andThen (m n : Drift) (depth : Nat) :
    (m.andThen n).apply depth = n.apply (m.apply depth) := by
  simp only [apply, andThen]
  omega

/-- Whether the drift leads back to where it begins, at least one level deep. -/
def ComesBack (m : Drift) : Prop :=
  m = stay ∨ m = ⟨1, 1⟩

theorem apply_of_comesBack (h : m.ComesBack) (depth : Nat) : m.apply (depth + 1) = depth + 1 := by
  obtain rfl | rfl := h <;> rfl

theorem comesBack_iff : m.ComesBack ↔ ∀ depth, m.apply (depth + 1) - 1 = depth := by
  constructor
  · intro h depth
    rw [apply_of_comesBack h, Nat.add_sub_cancel]
  · intro h
    obtain ⟨a, b⟩ := m
    have hzero := h 0
    have hdeep := h (a + 1)
    simp only [apply] at hzero hdeep
    -- far down both ways are of one length, and from the first level it is one at most
    obtain ⟨rfl, rfl⟩ | ⟨rfl, rfl⟩ : a = 0 ∧ b = 0 ∨ a = 1 ∧ b = 1 := by omega
    · exact Or.inl rfl
    · exact Or.inr rfl

end Drift

/-! ## Commands -/

mutual

/-- What a command does to the depth. -/
def Command.drift : Command → Drift
  | .indent => .down
  | .unindent => .up
  | .indented body => (Drift.down.andThen (Command.driftAll body)).andThen .up
  | .write _ | .emit _ _ | .flush => .stay

/-- What commands do to the depth, one after another. -/
def Command.driftAll : List Command → Drift
  | [] => .stay
  | c :: cs => c.drift.andThen (Command.driftAll cs)

end

theorem Command.apply_drift_indented (body : List Command) (depth : Nat) :
    (Command.indented body).drift.apply depth = (driftAll body).apply (depth + 1) - 1 := by
  rw [drift, Drift.apply_andThen, Drift.apply_andThen, Drift.apply_up, Drift.apply_down]

namespace Printer

section

variable {σ ε : Type} [ByteSink σ ε]

theorem depth_write (p : Printer σ) (text : String) : (p.write text).1.depth = p.depth := by
  obtain ⟨_, h⟩ := leaves_write p text
  exact h.depth_eq

theorem depth_writeEach (p : Printer σ) (ts : List String) :
    (p.writeEach ts).1.depth = p.depth := by
  obtain ⟨_, h⟩ := written_writeEach p ts
  exact h.depth_eq

theorem depth_emit (s : Settings) (p : Printer σ) (stmt : Statement) :
    (p.emit s stmt).1.depth = p.depth :=
  depth_writeEach p (stmt.pieces s)

end

mutual

/-- **A command drifts as it says**, whatever becomes of the sink. -/
theorem depth_exec {σ ε : Type} [ByteSink σ ε] (p : Printer σ) :
    ∀ c : Command, (p.exec c).after.depth = c.drift.apply p.depth
  | .write text => depth_write p text
  | .emit s stmt => depth_emit s p stmt
  | .flush | .indent | .unindent => rfl
  | .indented body => by
    rw [Command.apply_drift_indented]
    exact congrArg (· - 1) (depth_execAll p.indent body)

theorem depth_execAll {σ ε : Type} [ByteSink σ ε] (p : Printer σ) :
    ∀ cs : List Command, (p.execAll cs).1.depth = (Command.driftAll cs).apply p.depth
  | [] => rfl
  | c :: cs => by
    rw [Command.driftAll, Drift.apply_andThen, ← depth_exec p c]
    exact depth_execAll (p.exec c).after cs

end

end Printer

/-! ## Beginnings -/

namespace Command

/-- What may be carried out of commands up to a failure: the first of them, and then perhaps a
    beginning of what the next one holds. -/
inductive Begins : List Command → List Command → Prop
  | stop (cs : List Command) : Begins [] cs
  | cons (c : Command) {ds cs : List Command} : Begins ds cs → Begins (c :: ds) (c :: cs)
  | inside (cs : List Command) {ds body : List Command} :
      Begins ds body → Begins [.indented ds] (.indented body :: cs)

theorem Begins.refl : ∀ cs : List Command, Begins cs cs
  | [] => .stop []
  | c :: cs => .cons c (.refl cs)

theorem Begins.append {ds cs : List Command} (h : Begins ds cs) (more : List Command) :
    Begins ds (cs ++ more) := by
  induction h with
  | stop => exact .stop _
  | cons c _ ih => exact .cons c ih
  | inside cs h => exact .inside (cs ++ more) h

mutual

/-- Whether the only way deeper, and back, is a command that holds what is carried out there. -/
def nested : Command → Bool
  | .indent | .unindent => false
  | .indented body => nestedAll body
  | .write _ | .emit _ _ | .flush => true

/-- Whether that is so for all of the commands. -/
def nestedAll : List Command → Bool
  | [] => true
  | c :: cs => c.nested && nestedAll cs

end

theorem Begins.nestedAll {ds cs : List Command} (h : Begins ds cs)
    (hcs : Command.nestedAll cs = true) : Command.nestedAll ds = true := by
  induction h with
  | stop => rfl
  | cons c _ ih =>
    obtain ⟨hc, hcs⟩ := Bool.and_eq_true_iff.1 hcs
    exact Bool.and_eq_true_iff.2 ⟨hc, ih hcs⟩
  | inside _ _ ih =>
    obtain ⟨hbody, -⟩ := Bool.and_eq_true_iff.1 hcs
    exact Bool.and_eq_true_iff.2 ⟨ih hbody, rfl⟩

mutual

theorem drift_of_nested : ∀ {c : Command}, c.nested = true → c.drift = .stay
  | .write _, _ | .emit _ _, _ | .flush, _ => rfl
  | .indented body, h => by
    have hbody : driftAll body = .stay := driftAll_of_nestedAll h
    rw [drift, hbody]
    rfl

theorem driftAll_of_nestedAll : ∀ {cs : List Command}, Command.nestedAll cs = true →
    driftAll cs = .stay
  | [], _ => rfl
  | c :: cs, h => by
    obtain ⟨hc, hcs⟩ := Bool.and_eq_true_iff.1 h
    rw [driftAll, drift_of_nested hc, driftAll_of_nestedAll hcs]
    rfl

end

end Command

open Command (Begins)

variable {σ ε : Type}

/-- The outcome of a run of `cs` that stops at a failure, from the given depth. -/
structure Stopped (cs : List Command) (depth : Nat) (r : Printer σ × Option (CommandError ε)) :
    Prop where
  begins : ∃ ds, Begins ds cs ∧ r.1.depth = (Command.driftAll ds).apply depth
  ok : r.2 = none → r.1.depth = (Command.driftAll cs).apply depth

namespace Stopped

variable {cs : List Command} {depth : Nat} {r : Printer σ × Option (CommandError ε)}

theorem of_all (h : r.1.depth = (Command.driftAll cs).apply depth) : Stopped cs depth r :=
  ⟨⟨cs, .refl cs, h⟩, fun _ => h⟩

theorem indented {body : List Command} (h : Stopped body (depth + 1) r) :
    Stopped [.indented body] depth (r.1.unindent, r.2) := by
  have hone : ∀ (ds : List Command), (Command.driftAll [.indented ds]).apply depth =
      (Command.driftAll ds).apply (depth + 1) - 1 := fun ds => by
    rw [Command.driftAll, Drift.apply_andThen, Command.apply_drift_indented]
    rfl
  obtain ⟨ds, hds, hdepth⟩ := h.begins
  refine ⟨⟨[.indented ds], .inside [] hds, ?_⟩, fun hok => ?_⟩
  · rw [hone, ← hdepth]
    rfl
  · rw [hone, ← h.ok hok]
    rfl

theorem cons {c : Command} {q : Printer σ}
    (hc : Stopped [c] depth (q, (none : Option (CommandError ε))))
    (hcs : Stopped cs q.depth r) : Stopped (c :: cs) depth r := by
  have hq : q.depth = c.drift.apply depth := by
    rw [hc.ok rfl, Command.driftAll, Drift.apply_andThen]
    rfl
  obtain ⟨ds, hds, hdepth⟩ := hcs.begins
  refine ⟨⟨c :: ds, .cons c hds, ?_⟩, fun hok => ?_⟩
  · rw [hdepth, hq, Command.driftAll, Drift.apply_andThen]
  · rw [hcs.ok hok, hq, Command.driftAll, Drift.apply_andThen]

theorem of_failed {c : Command} {q : Printer σ} {e : CommandError ε}
    (hc : Stopped [c] depth (q, some e)) (cs : List Command) :
    Stopped (c :: cs) depth (q, some e) := by
  obtain ⟨ds, hds, hdepth⟩ := hc.begins
  exact ⟨⟨ds, hds.append cs, hdepth⟩, nofun⟩

end Stopped

mutual

theorem stopped_attempt {σ ε : Type} [ByteSink σ ε] (p : Printer σ) :
    ∀ c : Command, Stopped [c] p.depth (p.attempt c)
  | .write _ | .emit _ _ | .flush | .indent | .unindent => .of_all (p.depth_execAll [_])
  | .indented body => (stopped_attemptAll p.indent body).indented

/-- A run that stops at a failure does to the depth what some beginning of it does. -/
theorem stopped_attemptAll {σ ε : Type} [ByteSink σ ε] (p : Printer σ) :
    ∀ cs : List Command, Stopped cs p.depth (p.attemptAll cs)
  | [] => .of_all rfl
  | c :: cs => by
    have hfirst := stopped_attempt p c
    rw [Printer.attemptAll]
    split <;> rename_i ha <;> rw [ha] at hfirst
    · exact hfirst.cons (stopped_attemptAll _ cs)
    · exact hfirst.of_failed cs

end

/-! ## One level deeper -/

/-- **One level deeper, and back to where?** Running commands one level deeper ends one level above
    where they end. If a failure stops them, that is where some beginning of them ends. So the depth
    is restored, whatever it is, exactly if the commands come back to where they begin. Commands
    that go deeper in this way alone do come back, also if a failure stops them. -/
theorem indented_drift {σ ε : Type} [ByteSink σ ε] (p : Printer σ) (body : List Command) :
    (p.exec (.indented body)).after.depth = (Command.driftAll body).apply (p.depth + 1) - 1 ∧
    (∃ ds, Begins ds body ∧
      (p.attempt (.indented body)).1.depth = (Command.driftAll ds).apply (p.depth + 1) - 1 ∧
        ((p.attempt (.indented body)).2 = none →
          (p.attempt (.indented body)).1.depth = (p.exec (.indented body)).after.depth)) ∧
    ((∀ depth, ({ p with depth }.exec (.indented body)).after.depth = depth) ↔
      (Command.driftAll body).ComesBack) ∧
    (Command.nestedAll body = true →
      (p.exec (.indented body)).after.depth = p.depth ∧
        (p.attempt (.indented body)).1.depth = p.depth) := by
  have hexec : ∀ q : Printer σ, (q.exec (.indented body)).after.depth =
      (Command.driftAll body).apply (q.depth + 1) - 1 := fun q => by
    rw [Printer.depth_exec, Command.apply_drift_indented]
  have hrun := stopped_attemptAll p.indent body
  have hattempt : (p.attempt (.indented body)).1.depth =
      (p.indent.attemptAll body).1.depth - 1 := rfl
  obtain ⟨ds, hds, hdepth⟩ := hrun.begins
  have hstop : (p.attempt (.indented body)).1.depth =
      (Command.driftAll ds).apply (p.depth + 1) - 1 := by
    rw [hattempt, hdepth]
    rfl
  refine ⟨hexec p, ⟨ds, hds, hstop, fun hok => ?_⟩, ?_, fun hbody => ?_⟩
  · rw [hexec, hattempt, hrun.ok hok]
    rfl
  · rw [Drift.comesBack_iff]
    exact forall_congr' fun depth => by rw [hexec]
  · rw [hexec, hstop, Command.driftAll_of_nestedAll hbody,
      Command.driftAll_of_nestedAll (hds.nestedAll hbody)]
    exact ⟨rfl, rfl⟩

/-- Two levels on a sink that takes nothing. -/
theorem indented_drift_full :
    let p : Printer MeteredSink := { sink := { limit := some 0 }, depth := 3 }
    let body : List Command := [.indented [.write "x"], .write "y"]
    Command.nestedAll body = true ∧ (p.exec (.indented body)).after.depth = 3 ∧
      (p.attempt (.indented body)).1.depth = 3 ∧
      ¬ ∀ depth, ({ p with depth }.exec (.indented [.indent])).after.depth = depth := by
  intro p body
  have hbody : Command.nestedAll body = true := rfl
  obtain ⟨-, -, -, hnested⟩ := indented_drift p body
  obtain ⟨-, -, hback, -⟩ := indented_drift p [.indent]
  obtain ⟨hexec, hattempt⟩ := hnested hbody
  refine ⟨hbody, hexec, hattempt, fun hall => ?_⟩
  exact absurd (hback.1 hall) (by simp [Drift.ComesBack, Command.driftAll, Command.drift]; decide)

/-- A level that the commands do not take back is left over, and so is one that a failure keeps
    them from taking back; and they may take back more than they went deeper. -/
theorem indented_not_restored :
    let p : Printer Buffer := { sink := {} }
    let full : Printer MeteredSink := { sink := { limit := some 0 } }
    (p.exec (.indented [.indent])).after.depth = 1 ∧
      (p.indent.exec (.indented [.unindent])).after.depth = 0 ∧
      (full.attempt (.indented [.indent, .write "x", .unindent])).1.depth = 1 := by
  intro p full
  refine ⟨p.depth_exec _, p.indent.depth_exec _, ?_⟩
  have hsink : ByteSink.Accepts (some 0) full.sink := MeteredSink.accepts (by decide) (by decide)
  have hwrite := printed_write (p := full.indent.indent) hsink "x"
  obtain ⟨e, he, -⟩ := hwrite.delivered.refused (by decide)
  have he : (full.indent.indent.write "x").2 = some e := he
  have hstop : full.indent.attemptAll [.indent, .write "x", .unindent] =
      ((full.indent.indent.write "x").1, some (.sink e)) := by
    simp [Printer.attemptAll, Printer.attempt, Printer.exec, Trace.after, Trace.failure, he]
  show (full.indent.attemptAll [.indent, .write "x", .unindent]).1.depth - 1 = 1
  rw [hstop, Printer.depth_write]
  rfl

end ScalarStubs
