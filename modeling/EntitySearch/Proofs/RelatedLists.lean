import Mathlib.Data.List.Forall2

namespace EntitySearch

section Forall₂

variable {α β γ : Type} {R : α → β → Prop} {as : List α} {bs : List β}

theorem forall_mem_of_forall₂ {P : α → Prop} {Q : β → Prop} (h : List.Forall₂ R as bs)
    (hR : ∀ a b, R a b → P a → Q b) (hP : ∀ a ∈ as, P a) : ∀ b ∈ bs, Q b := by
  induction h
  case nil => nofun
  case cons hab _ ih =>
    rw [List.forall_mem_cons] at hP ⊢
    exact ⟨hR _ _ hab hP.1, ih hP.2⟩

theorem forall_mem_iff_of_forall₂ {P : α → Prop} {Q : β → Prop} (h : List.Forall₂ R as bs)
    (hR : ∀ a b, R a b → (Q b ↔ P a)) : (∀ b ∈ bs, Q b) ↔ ∀ a ∈ as, P a :=
  ⟨forall_mem_of_forall₂ h.flip fun b a hab => (hR a b hab).1,
    forall_mem_of_forall₂ h fun a b hab => (hR a b hab).2⟩

theorem exists_mem_iff_of_forall₂ {P : α → Prop} {Q : β → Prop} (h : List.Forall₂ R as bs)
    (hR : ∀ a b, R a b → (Q b ↔ P a)) : (∃ b ∈ bs, Q b) ↔ ∃ a ∈ as, P a := by
  induction h
  case nil          => simp
  case cons hab _ ih => simp [hR _ _ hab, ih]

theorem forall₂_of_mem {S : α → β → Prop} (h : List.Forall₂ R as bs)
    (hR : ∀ a b, a ∈ as → R a b → S a b) : List.Forall₂ S as bs := by
  induction h
  case nil => exact .nil
  case cons hab _ ih =>
    have ht := ih fun a b hm => hR a b (List.mem_cons_of_mem _ hm)
    exact .cons (hR _ _ List.mem_cons_self hab) ht

theorem map_eq_of_forall₂ {f : α → γ} {g : β → γ} (h : List.Forall₂ R as bs)
    (hR : ∀ a b, R a b → b ∈ bs → g b = f a) : bs.map g = as.map f := by
  induction h
  case nil => rfl
  case cons hab _ ih =>
    rw [List.map_cons, List.map_cons, hR _ _ hab List.mem_cons_self,
      ih fun a b h hb => hR a b h (List.mem_cons_of_mem _ hb)]

theorem exists_append_of_forall₂ {as' : List α} (h : List.Forall₂ R (as ++ as') bs) :
    ∃ cs cs', (bs = cs ++ cs') ∧ List.Forall₂ R as cs ∧ List.Forall₂ R as' cs' := by
  induction as generalizing bs
  case nil => exact ⟨[], bs, rfl, .nil, h⟩
  case cons a as ih =>
    obtain ⟨b, bs, hab, hbs, rfl⟩ := List.forall₂_cons_left_iff.1 h
    obtain ⟨cs, cs', rfl, hc, hc'⟩ := ih hbs
    exact ⟨b :: cs, cs', rfl, .cons hab hc, hc'⟩

theorem exists_concat_of_forall₂ {b : β} (h : List.Forall₂ R as (bs ++ [b])) :
    ∃ cs c, as = cs ++ [c] ∧ List.Forall₂ R cs bs ∧ R c b := by
  have hd := List.forall₂_drop_append as bs [b] h
  obtain ⟨c, _, hc, hn, hd⟩ := List.forall₂_cons_right_iff.1 hd
  cases hn
  refine ⟨as.take bs.length, c, ?_, List.forall₂_take_append as bs [b] h, hc⟩
  rw [← hd, List.take_append_drop]

end Forall₂

section Sublist

variable {α β : Type} {R : α → β → Prop} {as as' : List α} {bs bs' : List β}

theorem sublistForall₂_append (h : List.SublistForall₂ R as bs)
    (h' : List.SublistForall₂ R as' bs') : List.SublistForall₂ R (as ++ as') (bs ++ bs') := by
  induction h
  case nil bs =>
    induction bs
    case nil        => exact h'
    case cons _ ih  => exact .cons_right ih
  case cons hab _ ih      => exact .cons hab ih
  case cons_right _ ih    => exact .cons_right ih

theorem sublistForall₂_of_forall₂ (h : List.Forall₂ R as bs) : List.SublistForall₂ R as bs :=
  List.sublistForall₂_iff.2 ⟨bs, h, .refl bs⟩

theorem exists_mem_of_sublistForall₂ {a : α} (h : List.SublistForall₂ R as bs) (hm : a ∈ as) :
    ∃ b ∈ bs, R a b := by
  induction h
  case nil => cases hm
  case cons hab _ ih =>
    cases hm
    case head    => exact ⟨_, List.mem_cons_self, hab⟩
    case tail hm =>
      obtain ⟨b, hb, hr⟩ := ih hm
      exact ⟨b, List.mem_cons_of_mem _ hb, hr⟩
  case cons_right _ ih =>
    obtain ⟨b, hb, hr⟩ := ih hm
    exact ⟨b, List.mem_cons_of_mem _ hb, hr⟩

end Sublist

end EntitySearch
