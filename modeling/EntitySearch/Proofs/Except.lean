namespace EntitySearch

variable {ε α β : Type}

theorem bind_eq_ok_iff {x : Except ε α} {f : α → Except ε β} {b : β} :
    x >>= f = .ok b ↔ ∃ a, x = .ok a ∧ f a = .ok b := by
  cases x
  case error => exact ⟨nofun, nofun⟩
  case ok a  => exact ⟨fun h => ⟨a, rfl, h⟩, fun ⟨_, ha, h⟩ => Except.ok.inj ha ▸ h⟩

-- Holds if `y` gives what `x` gives, unless it fails with an error for which `P` holds.
def Unless (P : ε → Prop) (x y : Except ε α) : Prop :=
  y = x ∨ ∃ e, P e ∧ y = .error e

namespace Unless

variable {P Q : ε → Prop} {x y : Except ε α}

theorem refl (x : Except ε α) : Unless P x x :=
  .inl rfl

theorem mono (h : Unless P x y) (hPQ : ∀ e, P e → Q e) : Unless Q x y :=
  h.imp_right fun ⟨e, he, hy⟩ => ⟨e, hPQ e he, hy⟩

theorem bind {f g : α → Except ε β} (h : Unless P x y) (hf : ∀ a, Unless P (f a) (g a)) :
    Unless P (x >>= f) (y >>= g) := by
  cases h
  case inl h =>
    subst h
    cases y
    case error e => exact refl (.error e)
    case ok a    => exact hf a
  case inr h =>
    obtain ⟨e, he, rfl⟩ := h
    exact .inr ⟨e, he, rfl⟩

end Unless

section Lifts

variable {α' β' ε' : Type} {S : α → α' → Prop}

-- Holds if two computations fail with the same error, or give related values.
inductive Alike (S : α → α' → Prop) : Except ε α → Except ε α' → Prop
  | error (e : ε) : Alike S (.error e) (.error e)
  | ok {a : α} {a' : α'} (h : S a a') : Alike S (.ok a) (.ok a')

-- Holds if `y` gives a related value wherever `x` gives a value.
def Covers (S : α → α' → Prop) (x : Except ε α) (y : Except ε α') : Prop :=
  ∀ a, x = .ok a → ∃ a', y = .ok a' ∧ S a a'

-- Ways to take relations between values to computations that may fail.
structure Lifts (R : ∀ α α' : Type, (α → α' → Prop) → Except ε α → Except ε α' → Prop) : Prop where
  error : ∀ {α α' : Type} {S : α → α' → Prop} (e : ε), R α α' S (.error e) (.error e)
  ok    : ∀ {α α' : Type} {S : α → α' → Prop} {a : α} {a' : α'}, S a a' → R α α' S (.ok a) (.ok a')
  bind  : ∀ {α α' β β' : Type} {S : α → α' → Prop} {T : β → β' → Prop} {x : Except ε α}
    {y : Except ε α'} {f : α → Except ε β} {g : α' → Except ε β'}, R α α' S x y →
    (∀ a a', S a a' → R β β' T (f a) (g a')) → R β β' T (x >>= f) (y >>= g)

namespace Alike

variable {x : Except ε α} {y : Except ε α'}

theorem lifts : @Lifts ε (fun _ _ => Alike) where
  error := .error
  ok    := .ok
  bind h hf := by
    cases h
    case error e => exact .error e
    case ok h    => exact hf _ _ h

theorem mono {T : α → α' → Prop} (h : Alike S x y) (hST : ∀ a a', S a a' → T a a') :
    Alike T x y := by
  cases h
  case error e => exact .error e
  case ok h    => exact .ok (hST _ _ h)

theorem mapError (h : Alike S x y) (f : ε → ε') : Alike S (x.mapError f) (y.mapError f) := by
  cases h
  case error e => exact .error (f e)
  case ok h    => exact .ok h

end Alike

namespace Covers

variable {x : Except ε α} {y : Except ε α'}

-- Nothing is asked where there is no value.
theorem of_error (e : ε) (y : Except ε α') : Covers S (.error e) y :=
  nofun

theorem lifts : @Lifts ε (fun _ _ => Covers) where
  error e := of_error e _
  ok h _ ha := Except.ok.inj ha ▸ ⟨_, rfl, h⟩
  bind h hf b hb := by
    obtain ⟨a, hx, hb⟩ := bind_eq_ok_iff.1 hb
    obtain ⟨a', hy, hS⟩ := h a hx
    obtain ⟨b', hb', hT⟩ := hf a a' hS b hb
    exact ⟨b', bind_eq_ok_iff.2 ⟨a', hy, hb'⟩, hT⟩

end Covers

end Lifts

end EntitySearch
