/-
  What gets through to a sink.

  * `Reached s bytes r got`: the outcome `r` of writing `bytes` is that the sink holds `got` on top,
    with which the bytes begin, and all of them unless the sink refused in the end.
    `reached_writeAll`, `reached_writeTimes`: all writing reaches something, on any sink.
  * `Accepts L s`: from the state `s` on, the sink holds at most `L` bytes, and while it holds
    fewer it takes some part of whatever it is offered or interrupts. Without a limit it never
    refuses.
  * `Delivered L s bytes r`: the outcome `r` of writing `bytes` is that the sink holds as much as
    fits, and that a failure is its own refusal. Writes in a row deliver what they would deliver
    as one (`Delivered.append`).
  * `Reached.delivered`: a sink that accepts up to a limit has as much delivered as fits.
-/
import Mathlib
import ScalarStubs.Sink.Buffer
import ScalarStubs.Sink.Metered

namespace ScalarStubs

namespace ByteSink

/-! ## Limits -/

/-- Whether so many bytes are within a limit, if there is one. -/
def Within (L : Option Nat) (n : Nat) : Prop :=
  ∀ l ∈ L, n ≤ l

instance (L : Option Nat) (n : Nat) : Decidable (Within L n) :=
  inferInstanceAs (Decidable (∀ l ∈ L, n ≤ l))

/-- The first bytes, as many as are within the limit. -/
def cut (L : Option Nat) (bytes : List UInt8) : List UInt8 :=
  bytes.take (L.getD bytes.length)

variable {L : Option Nat} {as bs : List UInt8}

theorem Within.mono {m n : Nat} (h : Within L n) (hmn : m ≤ n) : Within L m :=
  fun l hl => Nat.le_trans hmn (h l hl)

@[simp] theorem cut_none (bytes : List UInt8) : cut none bytes = bytes :=
  List.take_length

theorem cut_of_within (h : Within L as.length) : cut L as = as := by
  cases L with
  | none => exact cut_none as
  | some l => exact List.take_of_length_le (h l rfl)

theorem cut_append_of_not_within (h : ¬ Within L as.length) (bs : List UInt8) :
    cut L (as ++ bs) = cut L as := by
  cases L with
  | none => exact absurd nofun h
  | some l =>
    have hlt : l < as.length := by simpa [Within] using h
    simp [cut, List.take_append, Nat.sub_eq_zero_of_le (Nat.le_of_lt hlt)]

theorem full_cut (h : ¬ Within L as.length) : ¬ Within L ((cut L as).length + 1) := by
  cases L with
  | none => exact absurd nofun h
  | some l =>
    have hlt : l < as.length := by simpa [Within] using h
    have hlen : (cut (some l) as).length = l := List.length_take_of_le (Nat.le_of_lt hlt)
    simp [Within, hlen]

theorem cut_append_of_full (h : Within L as.length) (hfull : ¬ Within L (as.length + 1))
    (bs : List UInt8) : cut L (as ++ bs) = as := by
  cases L with
  | none => exact absurd nofun hfull
  | some l =>
    have hle := h l rfl
    have hlt : l < as.length + 1 := by simpa [Within] using hfull
    obtain rfl : l = as.length := by omega
    simp [cut]

/-! ## Sinks with a limit -/

variable {σ ε : Type} [ByteSink σ ε] {s t : σ}

/-- The states to which offers lead from `s`, and calls to pass on what is held back. -/
inductive Offered (s : σ) : σ → Prop
  | refl : Offered s s
  | step {t : σ} (bytes : List UInt8) : Offered s t → Offered s (offer t bytes).1
  | flush {t : σ} : Offered s t → Offered s (ByteSink.flush t).1

theorem Offered.trans {u : σ} (h : Offered s t) (h' : Offered t u) : Offered s u := by
  induction h' with
  | refl => exact h
  | step bytes _ ih => exact .step bytes ih
  | flush _ ih => exact .flush ih

/-- From `s` on, the sink takes bytes until it holds `L` of them, and no more. -/
def Accepts (L : Option Nat) (s : σ) : Prop :=
  ∀ t, Offered s t → Within L (taken t).length ∧
    ∀ bytes, bytes ≠ [] → Within L ((taken t).length + 1) →
      (∃ n, (offer t bytes).2 = .took (n + 1)) ∨ (offer t bytes).2 = .interrupted

/-- The last answer of the sink was a refusal. -/
def Refused (s : σ) (e : SinkError ε) : Prop :=
  ∃ t bytes, bytes ≠ [] ∧ s = (offer t bytes).1 ∧ (offer t bytes).2.refusal? = some e

theorem Accepts.offered (h : Accepts L s) (ht : Offered s t) : Accepts L t :=
  fun u hu => h u (ht.trans hu)

theorem Accepts.within (h : Accepts L s) : Within L (taken s).length :=
  (h s .refl).1

/-! ## Any sink -/

variable {e : SinkError ε} {n : Nat} {got more : List UInt8} {r : σ × Option (SinkError ε)}

theorem taken_of_offer_took (h : offer s bs = (t, .took n)) : taken t = taken s ++ bs.take n := by
  have := (taken_of_took (congrArg Prod.snd h)).2
  rwa [h] at this

theorem taken_of_offer_interrupted (h : offer s bs = (t, .interrupted)) : taken t = taken s := by
  have := (taken_of_interrupted (congrArg Prod.snd h)).2
  rwa [h] at this

/-- A sink that refuses has taken nothing of the offer. -/
theorem taken_of_refusal {reply : Reply ε} (h : offer s bs = (t, reply))
    (hr : reply.refusal? = some e) : taken t = taken s := by
  cases reply with
  | took n =>
    cases n with
    | zero => rw [taken_of_offer_took h, List.take_zero, List.append_nil]
    | succ n => exact nomatch hr
  | interrupted => exact nomatch hr
  | failed cause =>
    have := taken_of_failed (congrArg Prod.snd h)
    rwa [h] at this

theorem Offered.of_offer {reply : Reply ε} (h : offer s bs = (t, reply)) : Offered s t := by
  have := Offered.step bs (.refl (s := s))
  rwa [h] at this

/-- Offers led from `s` to one that the sink refused, which left it in the state `t`. -/
inductive GaveUp (s t : σ) (e : SinkError ε) : Prop
  | intro (u : σ) (bytes : List UInt8) {reply : Reply ε} (offered : Offered s u)
      (ne_nil : bytes ≠ []) (answered : offer u bytes = (t, reply))
      (refused : reply.refusal? = some e)

namespace GaveUp

theorem of_offered {u : σ} (hst : Offered s t) (h : GaveUp t u e) : GaveUp s u e := by
  obtain ⟨v, bytes, hv, hne, ho, hr⟩ := h
  exact ⟨v, bytes, hst.trans hv, hne, ho, hr⟩

theorem refused (h : GaveUp s t e) : Refused t e := by
  obtain ⟨u, bytes, -, hne, ho, hr⟩ := h
  exact ⟨u, bytes, hne, by rw [ho], by rw [ho, hr]⟩

/-- A sink that accepts up to a limit does not refuse before it is full. -/
theorem full (h : GaveUp s t e) (hs : Accepts L s) : ¬ Within L ((taken t).length + 1) := by
  obtain ⟨u, bytes, hu, hne, ho, hr⟩ := h
  rw [taken_of_refusal ho hr]
  intro hroom
  have hanswer := (hs u hu).2 bytes hne hroom
  rw [ho] at hanswer
  rcases hanswer with ⟨n, rfl⟩ | rfl
  · exact nomatch hr
  · exact nomatch hr

end GaveUp

/-- The outcome `r` of writing `bytes` to a sink in the state `s`, of which it took `got`. -/
structure Reached (s : σ) (bytes : List UInt8) (r : σ × Option (SinkError ε)) (got : List UInt8) :
    Prop where
  offered : Offered s r.1
  taken_eq : taken r.1 = taken s ++ got
  isPrefix : got <+: bytes
  ok : r.2 = none → got = bytes
  failed : ∀ e, r.2 = some e → got.length < bytes.length ∧ GaveUp s r.1 e

namespace Reached

theorem nil (s : σ) : Reached s [] (s, none) [] where
  offered := .refl
  taken_eq := (List.append_nil _).symm
  isPrefix := List.prefix_rfl
  ok _ := rfl
  failed := nofun

theorem of_taken (hst : Offered s t) (ht : taken t = taken s ++ as) (h : Reached t bs r got) :
    Reached s (as ++ bs) r (as ++ got) where
  offered := hst.trans h.offered
  taken_eq := by rw [h.taken_eq, ht, List.append_assoc]
  isPrefix := (List.prefix_append_right_inj as).2 h.isPrefix
  ok hr := by rw [h.ok hr]
  failed e he := by
    obtain ⟨hshort, hstop⟩ := h.failed e he
    rw [List.length_append, List.length_append]
    exact ⟨Nat.add_lt_add_left hshort _, hstop.of_offered hst⟩

theorem of_refusal {reply : Reply ε} (hne : bs ≠ []) (ho : offer s bs = (t, reply))
    (hr : reply.refusal? = some e) : Reached s bs (t, some e) [] where
  offered := .of_offer ho
  taken_eq := by rw [taken_of_refusal ho hr, List.append_nil]
  isPrefix := List.nil_prefix
  ok := nofun
  failed f hf := by
    cases hf
    exact ⟨List.length_pos_iff.2 hne, s, bs, .refl, hne, ho, hr⟩

theorem append (h : Reached s as (t, none) more) (h' : Reached t bs r got) :
    Reached s (as ++ bs) r (as ++ got) :=
  h'.of_taken h.offered (h.ok rfl ▸ h.taken_eq)

theorem append_of_failed (h : Reached s as (t, some e) got) (bs : List UInt8) :
    Reached s (as ++ bs) (t, some e) got where
  offered := h.offered
  taken_eq := h.taken_eq
  isPrefix := h.isPrefix.trans (List.prefix_append as bs)
  ok := nofun
  failed f hf :=
    (h.failed f hf).imp_left fun hlt => hlt.trans_le (List.prefix_append as bs).length_le

end Reached

theorem reached_writeAll (s : σ) (bytes : List UInt8) :
    ∃ got, Reached s bytes (writeAll s bytes) got := by
  fun_induction writeAll s bytes with
  | case1 s => exact ⟨[], .nil s⟩
  | case2 s bytes hne t ho => exact ⟨[], .of_refusal hne ho rfl⟩
  | case3 s bytes hne t n ho ih =>
    obtain ⟨got, hgot⟩ := ih
    have hall := hgot.of_taken (.of_offer ho) (taken_of_offer_took ho)
    rw [List.take_append_drop] at hall
    exact ⟨_, hall⟩
  | case4 s bytes hne t ho ih =>
    obtain ⟨got, hgot⟩ := ih
    have ht : taken t = taken s ++ [] := by rw [taken_of_offer_interrupted ho, List.append_nil]
    exact ⟨got, hgot.of_taken (.of_offer ho) ht⟩
  | case5 s bytes hne t cause ho => exact ⟨[], .of_refusal hne ho rfl⟩

theorem reached_writeTimes (s : σ) (bytes : List UInt8) (n : Nat) :
    ∃ got, Reached s (List.replicate n bytes).flatten (writeTimes s bytes n) got := by
  induction n generalizing s with
  | zero => exact ⟨[], .nil s⟩
  | succ n ih =>
    obtain ⟨got, hgot⟩ := reached_writeAll s bytes
    rw [List.replicate_succ, List.flatten_cons, writeTimes]
    split <;> rename_i t ho <;> rw [ho] at hgot
    · obtain ⟨more, hmore⟩ := ih t
      exact ⟨_, hgot.append hmore⟩
    · exact ⟨got, hgot.append_of_failed _⟩

/-! ## Delivery -/

/-- The outcome `r` of writing `bytes` to a sink in the state `s`. -/
structure Delivered (L : Option Nat) (s : σ) (bytes : List UInt8) (r : σ × Option (SinkError ε)) :
    Prop where
  offered : Offered s r.1
  taken_eq : taken r.1 = cut L (taken s ++ bytes)
  ok : Within L (taken s ++ bytes).length → r.2 = none
  refused : ¬ Within L (taken s ++ bytes).length → ∃ e, r.2 = some e ∧ Refused r.1 e

/-- **A sink that accepts up to a limit** takes as much as fits, and refuses only what does not. -/
theorem Reached.delivered (h : Reached s bs r got) (hs : Accepts L s) : Delivered L s bs r := by
  obtain ⟨t, outcome⟩ := r
  have hwithin := (hs.offered h.offered).within
  cases outcome with
  | none =>
    have htaken : taken t = taken s ++ bs := h.ok rfl ▸ h.taken_eq
    rw [htaken] at hwithin
    refine ⟨h.offered, ?_, fun _ => rfl, fun hn => absurd hwithin hn⟩
    rw [htaken, cut_of_within hwithin]
  | some e =>
    obtain ⟨hshort, hstop⟩ := h.failed e rfl
    have hfull := hstop.full hs
    have htaken : taken t = taken s ++ got := h.taken_eq
    obtain ⟨rest, rfl⟩ := h.isPrefix
    rw [htaken] at hwithin hfull
    refine ⟨h.offered, ?_, fun hw => absurd (hw.mono ?_) hfull, fun _ => ⟨e, rfl, hstop.refused⟩⟩
    · rw [htaken, ← List.append_assoc, cut_append_of_full hwithin hfull]
    · simp only [List.length_append] at hshort ⊢
      omega

end ByteSink

/-! ## Sinks of the library -/

theorem Buffer.accepts (s : Buffer) : ByteSink.Accepts none s := by
  intro t _
  refine ⟨nofun, fun bytes hne _ => Or.inl ⟨bytes.length - 1, ?_⟩⟩
  have hpos := List.length_pos_iff.2 hne
  show Reply.took bytes.length = .took (bytes.length - 1 + 1)
  rw [Nat.sub_add_cancel hpos]

namespace MeteredSink

open ByteSink (Within Offered)

variable {s t : MeteredSink}

theorem capacity_le_room {l : Nat} (hl : l ∈ s.limit) (count : Nat) :
    s.capacity count ≤ l - s.bytes.size := by
  rw [capacity, Option.mem_def.1 hl]
  exact Nat.le_trans (Nat.min_le_right ..) (Nat.min_le_right ..)

theorem capacity_pos (hportion : s.portion ≠ some 0) {count : Nat} (hcount : 0 < count)
    (hroom : Within s.limit (s.bytes.size + 1)) : 0 < s.capacity count := by
  have hp : 0 < s.portion.getD count := by
    cases h : s.portion with
    | none => exact hcount
    | some n => exact Nat.pos_of_ne_zero fun hn => hportion (h.trans (congrArg some hn))
  have hl : 0 < (s.limit.map (· - s.bytes.size)).getD count := by
    cases h : s.limit with
    | none => exact hcount
    | some l => exact Nat.sub_pos_of_lt (hroom l h)
  rw [capacity]
  omega

theorem limit_offer (s : MeteredSink) (bytes : List UInt8) :
    (s.offer bytes).1.limit = s.limit ∧ (s.offer bytes).1.portion = s.portion := by
  unfold offer
  split_ifs <;> exact ⟨rfl, rfl⟩

theorem within_offer (hs : Within s.limit s.bytes.size) (bytes : List UInt8) :
    Within s.limit (s.offer bytes).1.bytes.size := by
  unfold offer
  split_ifs
  · exact hs
  · exact hs
  · intro l hl
    have hle := hs l hl
    have hcap := capacity_le_room hl bytes.length
    rw [← Array.length_toList, Array.toList_appendList, List.length_append, List.length_take,
      Array.length_toList]
    omega

theorem limit_offered (h : Offered s t) (hs : Within s.limit s.bytes.size) :
    t.limit = s.limit ∧ t.portion = s.portion ∧ Within t.limit t.bytes.size := by
  induction h with
  | refl => exact ⟨rfl, rfl, hs⟩
  | @step t bytes _ ih =>
    obtain ⟨hlimit, hportion⟩ := limit_offer t bytes
    have hw := within_offer ih.2.2 bytes
    rw [← hlimit] at hw
    exact ⟨hlimit.trans ih.1, hportion.trans ih.2.1, hw⟩
  | flush _ ih => exact ih

/-- A metered sink accepts up to its limit, unless it takes its bytes in empty portions. -/
theorem accepts (hportion : s.portion ≠ some 0) (hs : Within s.limit s.bytes.size) :
    ByteSink.Accepts s.limit s := by
  intro t ht
  obtain ⟨hlimit, hp, hw⟩ := limit_offered ht hs
  rw [← hlimit]
  refine ⟨hw, fun bytes hne hroom => ?_⟩
  have hpos := capacity_pos (hp ▸ hportion) (List.length_pos_iff.2 hne) hroom
  show (∃ n, (t.offer bytes).2 = _) ∨ (t.offer bytes).2 = _
  unfold offer
  split_ifs with hi hcap
  · exact Or.inr rfl
  · omega
  · exact Or.inl ⟨t.capacity bytes.length - 1, by rw [Nat.sub_add_cancel hpos]⟩

end MeteredSink

end ScalarStubs
