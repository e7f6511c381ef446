/-
  Computations that can be refused, one after the other.

  * `bind_eq_ok_iff`: a computation goes through if each step of it does.
  * `mapError_eq_ok_iff`, `mapError_eq_error_iff`: wording a refusal changes nothing else.
  * `mapM_eq_ok_iff`, `mapM_eq_error_iff`: what becomes of all items of a list, where each of them
    can be refused. The first refusal counts.
-/
import Mathlib

namespace ScalarStubs

theorem bind_eq_ok_iff {ε α β : Type} {x : Except ε α} {f : α → Except ε β} {b : β} :
    x >>= f = .ok b ↔ ∃ a, x = .ok a ∧ f a = .ok b := by
  cases x with
  | error e => exact ⟨nofun, nofun⟩
  | ok a => simp [bind, Except.bind]

section

variable {ε ε' α : Type} {g : ε → ε'} {x : Except ε α}

theorem mapError_eq_ok_iff {a : α} : x.mapError g = .ok a ↔ x = .ok a := by
  cases x <;> simp [Except.mapError]

theorem mapError_eq_error_iff (hg : g.Injective) {e : ε} :
    x.mapError g = .error (g e) ↔ x = .error e := by
  cases x <;> simp [Except.mapError, hg.eq_iff]

end

variable {ε α β : Type} {f : α → Except ε β}

theorem mapM_eq_ok_iff : ∀ {as : List α} {bs : List β},
    as.mapM f = .ok bs ↔ List.Forall₂ (fun a b => f a = .ok b) as bs
  | [], bs => by simp [pure, Except.pure, eq_comm]
  | a :: as, bs => by
    simp only [List.mapM_cons, bind_eq_ok_iff, mapM_eq_ok_iff, List.forall₂_cons_left_iff, pure,
      Except.pure, Except.ok.injEq]
    constructor
    · rintro ⟨b, hb, bs, hbs, rfl⟩
      exact ⟨b, bs, hb, hbs, rfl⟩
    · rintro ⟨b, bs, hb, hbs, rfl⟩
      exact ⟨b, hb, bs, hbs, rfl⟩

theorem mapM_eq_error_iff {e : ε} : ∀ {as : List α},
    as.mapM f = .error e ↔
      ∃ front a back, as = front ++ a :: back ∧ (∀ x ∈ front, ∃ b, f x = .ok b) ∧ f a = .error e
  | [] => by simp [pure, Except.pure]
  | a :: as => by
    rw [List.mapM_cons]
    cases ha : f a with
    | error e' =>
      have hfirst : (Except.error e' >>= fun b => do return b :: (← as.mapM f)) = .error e ↔
          Except.error (α := β) e' = .error e := by
        simp [bind, Except.bind]
      rw [hfirst]
      constructor
      · intro h
        exact ⟨[], a, as, rfl, by simp, ha.trans h⟩
      · rintro ⟨_ | ⟨x, front⟩, y, back, hsplit, hfront, hy⟩
        · obtain ⟨rfl, rfl⟩ := List.cons.inj hsplit
          rw [ha] at hy
          exact hy
        · obtain ⟨rfl, rfl⟩ := List.cons.inj hsplit
          obtain ⟨b, hb⟩ := hfront a (by simp)
          rw [ha] at hb
          exact nomatch hb
    | ok b =>
      have hrest : (Except.ok b >>= fun b => do return b :: (← as.mapM f)) = .error e ↔
          as.mapM f = .error e := by
        cases as.mapM f <;> simp [bind, Except.bind, pure, Except.pure]
      rw [hrest, mapM_eq_error_iff]
      constructor
      · rintro ⟨front, x, back, rfl, hfront, hx⟩
        exact ⟨a :: front, x, back, rfl, by simpa [ha] using hfront, hx⟩
      · rintro ⟨_ | ⟨y, front⟩, x, back, hsplit, hfront, hx⟩
        · obtain ⟨rfl, rfl⟩ := List.cons.inj hsplit
          rw [ha] at hx
          exact nomatch hx
        · obtain ⟨rfl, rfl⟩ := List.cons.inj hsplit
          exact ⟨front, x, back, rfl, fun y hy => hfront y (by simp [hy]), hx⟩

theorem exists_mapM_eq_ok {as : List α} (h : ∀ a ∈ as, ∃ b, f a = .ok b) :
    ∃ bs, as.mapM f = .ok bs := by
  cases hm : as.mapM f with
  | ok bs => exact ⟨bs, rfl⟩
  | error e =>
    obtain ⟨front, a, back, rfl, -, ha⟩ := mapM_eq_error_iff.1 hm
    obtain ⟨b, hb⟩ := h a (by simp)
    rw [ha] at hb
    exact nomatch hb

theorem exists_of_mapM_eq_ok {as : List α} {bs : List β} (h : as.mapM f = .ok bs) :
    ∀ a ∈ as, ∃ b, f a = .ok b := by
  intro a ha
  have hall := mapM_eq_ok_iff.1 h
  obtain ⟨i, hi, rfl⟩ := List.getElem_of_mem ha
  exact ⟨_, hall.get hi (hall.length_eq ▸ hi)⟩

end ScalarStubs
