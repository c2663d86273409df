import EntitySearch.Resolver.Recording

namespace EntitySearch.Recorded

variable {κ ε α β γ : Type}

-- What comes of a computation, and the record, if some calls were made before.
def after (x : Recorded κ ε α) (calls : List κ) : Except ε α × List κ :=
  x.run.run calls

section After

variable {x : Recorded κ ε α} {f : α → Recorded κ ε β} {calls calls' : List κ}

theorem after_pure (a : α) (calls : List κ) :
    (pure a : Recorded κ ε α).after calls = (.ok a, calls) := rfl

theorem after_throw (e : ε) (calls : List κ) :
    (throw e : Recorded κ ε α).after calls = (.error e, calls) := rfl

theorem after_call (c : κ) (answer : Nat → Except ε α) (calls : List κ) :
    (call c answer).after calls = (answer calls.length, calls ++ [c]) := rfl

theorem after_bind :
    (x >>= f).after calls =
      match x.after calls with
      | (.ok a, calls')    => (f a).after calls'
      | (.error e, calls') => (.error e, calls') := by
  simp only [after, ExceptT.run_bind, StateT.run_bind]
  rcases StateT.run (ExceptT.run x) calls with ⟨_ | _, _⟩ <;> rfl

theorem after_bind_of_ok {a : α} (h : x.after calls = (.ok a, calls')) :
    (x >>= f).after calls = (f a).after calls' := by
  rw [after_bind, h]

theorem after_bind_of_error {e : ε} (h : x.after calls = (.error e, calls')) :
    (x >>= f).after calls = (.error e, calls') := by
  rw [after_bind, h]

end After

-- Computations that only add to the record.
def Keeps (x : Recorded κ ε α) : Prop :=
  ∀ calls, calls <+: (x.after calls).2

namespace Keeps

variable {x : Recorded κ ε α} {f : α → Recorded κ ε β} {calls : List κ} {n : Nat}

theorem pure (a : α) : Keeps (Pure.pure a : Recorded κ ε α) :=
  fun calls => List.prefix_refl calls

theorem call (c : κ) (answer : Nat → Except ε α) : Keeps (Recorded.call c answer) :=
  fun calls => List.prefix_append calls [c]

theorem record_prefix_bind (hf : ∀ a, Keeps (f a)) (calls : List κ) :
    (x.after calls).2 <+: ((x >>= f).after calls).2 := by
  rcases hr : x.after calls with ⟨e | a, calls'⟩
  case error => simp only [after_bind_of_error hr, List.prefix_refl]
  case ok =>
    rw [after_bind_of_ok hr]
    exact hf a calls'

theorem bind (hx : Keeps x) (hf : ∀ a, Keeps (f a)) : Keeps (x >>= f) :=
  fun calls => (hx calls).trans (record_prefix_bind hf calls)

theorem take_record_bind (hf : ∀ a, Keeps (f a)) (h : n ≤ (x.after calls).2.length) :
    ((x >>= f).after calls).2.take n = (x.after calls).2.take n := by
  obtain ⟨behind, hb⟩ := record_prefix_bind hf calls (x := x)
  rw [← hb, List.take_append_of_le_length h]

end Keeps

-- Computations that end with the first call that fails, and with its error.
def Aborts (answer : κ → Nat → Except ε γ) (x : Recorded κ ε α) : Prop :=
  ∀ calls n c e, calls.length ≤ n → (x.after calls).2[n]? = some c → answer c n = .error e →
    (x.after calls).1 = .error e ∧ (x.after calls).2.length = n + 1

namespace Aborts

variable {answer : κ → Nat → Except ε γ} {x : Recorded κ ε α} {f : α → Recorded κ ε β}

theorem pure (a : α) : Aborts answer (Pure.pure a : Recorded κ ε α) := by
  intro calls n c e hn hc _
  rw [after_pure, List.getElem?_eq_none hn] at hc
  cases hc

theorem call {answer : κ → Nat → Except ε α} (c : κ) :
    Aborts answer (Recorded.call c (answer c)) := by
  intro calls n d e hn hd he
  simp only [after_call, List.length_append, List.length_singleton] at hd ⊢
  have hl : n = calls.length := by
    obtain ⟨hl, -⟩ := List.getElem?_eq_some_iff.1 hd
    rw [List.length_append, List.length_singleton] at hl
    omega
  subst hl
  cases List.getElem?_concat_length.symm.trans hd
  exact ⟨he, rfl⟩

theorem bind (hx : Aborts answer x) (hk : ∀ a, Keeps (f a)) (hf : ∀ a, Aborts answer (f a)) :
    Aborts answer (x >>= f) := by
  intro calls n c e hn hc he
  rcases hr : x.after calls with ⟨e' | a, calls'⟩
  case error =>
    rw [after_bind_of_error hr] at hc ⊢
    have h := hx calls n c e hn (hr ▸ hc) he
    rw [hr] at h
    exact ⟨congrArg _ (Except.error.inj h.1), h.2⟩
  case ok =>
    rw [after_bind_of_ok hr] at hc ⊢
    -- The call cannot be one of those that `x` makes, as `x` goes on.
    have hn' : calls'.length ≤ n := by
      refine Nat.le_of_not_lt fun hlt => ?_
      obtain ⟨behind, hb⟩ := hk a calls'
      rw [← hb, List.getElem?_append_left hlt] at hc
      have h := hx calls n c e hn (hr ▸ hc) he
      rw [hr] at h
      cases h.1
    exact hf a calls' n c e hn' hc he

end Aborts

-- Holds if two computations make the same calls up to number `n`, and give the same unless there is
-- a call with this number.
structure AgreeTo (n : Nat) (x y : Recorded κ ε α) : Prop where
  calls : ∀ calls, calls.length ≤ n →
    (y.after calls).2.take (n + 1) = (x.after calls).2.take (n + 1)
  same  : ∀ calls, (x.after calls).2.length ≤ n → y.after calls = x.after calls

namespace AgreeTo

variable {n : Nat} {x y : Recorded κ ε α} {f g : α → Recorded κ ε β}

theorem refl (x : Recorded κ ε α) : AgreeTo n x x :=
  ⟨fun _ _ => rfl, fun _ _ => rfl⟩

theorem call {answer answer' : Nat → Except ε α} (h : ∀ i < n, answer' i = answer i) (c : κ) :
    AgreeTo n (Recorded.call c answer) (Recorded.call c answer') where
  calls _ _     := rfl
  same calls hn := by
    have hl : calls.length < n := by simpa [after_call, Nat.succ_le_iff] using hn
    rw [after_call, after_call, h _ hl]

theorem bind (hx : AgreeTo n x y) (hkf : ∀ a, Keeps (f a)) (hkg : ∀ a, Keeps (g a))
    (hf : ∀ a, AgreeTo n (f a) (g a)) : AgreeTo n (x >>= f) (y >>= g) where
  calls calls hn := by
    -- Unless `x` makes call `n`, both go on with the same value behind the same record. If it does,
    -- what comes behind is cut off.
    by_cases hl : (x.after calls).2.length ≤ n
    case pos =>
      have hs := hx.same calls hl
      rcases hr : x.after calls with ⟨e | a, calls'⟩ <;> rw [hr] at hs hl
      case error => rw [after_bind_of_error hr, after_bind_of_error hs]
      case ok    => rw [after_bind_of_ok hr, after_bind_of_ok hs, (hf a).calls calls' hl]
    case neg =>
      have ht := hx.calls calls hn
      have hl : n + 1 ≤ (x.after calls).2.length := Nat.lt_of_not_le hl
      have hl' : n + 1 ≤ (y.after calls).2.length := by
        have hl' := congrArg List.length ht
        rw [List.length_take, List.length_take] at hl'
        omega
      rw [Keeps.take_record_bind hkf hl, Keeps.take_record_bind hkg hl', ht]
  same calls hn := by
    have hs := hx.same calls (Nat.le_trans (Keeps.record_prefix_bind hkf calls).length_le hn)
    rcases hr : x.after calls with ⟨e | a, calls'⟩ <;> rw [hr] at hs
    case error => rw [after_bind_of_error hr, after_bind_of_error hs]
    case ok    =>
      rw [after_bind_of_ok hr] at hn ⊢
      rw [after_bind_of_ok hs, (hf a).same calls' hn]

end AgreeTo

end EntitySearch.Recorded
