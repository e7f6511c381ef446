/-
  Things with names: lists of pairs in which the first pair of a name counts.

  * `Named.put` lets a name stand for something, in its old place if it has one and at the end if
    it has none. `List.lookup` finds what a name stands for.
  * `lookup_put_self`, `lookup_put_of_ne`: the name then stands for that, and all other names for
    what they stood for before.
-/

namespace ScalarStubs.Named

variable {α : Type}

/-- Lets a name stand for something. -/
def put (name : String) (a : α) : List (String × α) → List (String × α)
  | [] => [(name, a)]
  | (n, b) :: items => if n = name then (name, a) :: items else (n, b) :: put name a items

theorem lookup_put_self (name : String) (a : α) (items : List (String × α)) :
    (put name a items).lookup name = some a := by
  induction items with
  | nil => simp [put]
  | cons p items ih =>
    obtain ⟨n, b⟩ := p
    by_cases h : n = name
    · simp [put, h]
    · have hn : (name == n) = false := by simpa using Ne.symm h
      simp [put, h, List.lookup_cons, hn, ih]

theorem lookup_put_of_ne {name other : String} (h : other ≠ name) (a : α)
    (items : List (String × α)) : (put name a items).lookup other = items.lookup other := by
  have ho : (other == name) = false := by simpa using h
  induction items with
  | nil => simp [put, h]
  | cons p items ih =>
    obtain ⟨n, b⟩ := p
    by_cases hn : n = name
    · simp [put, hn, List.lookup_cons, ho]
    · simp only [put, hn, if_false, List.lookup_cons, ih]

end ScalarStubs.Named
