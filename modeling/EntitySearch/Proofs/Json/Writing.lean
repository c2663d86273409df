import EntitySearch.Json.Writer
import EntitySearch.Proofs.Json.Spelling

namespace EntitySearch.Json

theorem forall₂_map_self {α β : Type} {R : β → α → Prop} {f : α → β} {as : List α}
    (h : ∀ a ∈ as, R (f a) a) : List.Forall₂ R (as.map f) as :=
  List.forall₂_map_left_iff.2 (List.forall₂_same.2 h)

section Strings

-- A control character is below a space, so that its number has two digits.
theorem hexUnit_control {c : Char} (h : c < ' ') :
    HexUnit ['0', '0', Nat.digitChar (c.toNat / 16), Nat.digitChar (c.toNat % 16)] c.toNat := by
  have hc : c.toNat < 32 := h
  have hz : HexDigit '0' 0 := .lower (n := 0) (by decide)
  have hn : ((0 * 16 + 0) * 16 + c.toNat / 16) * 16 + c.toNat % 16 = c.toNat := by omega
  have hu : HexUnit _ _ := .intro hz hz (.lower (n := c.toNat / 16) (by omega))
    (.lower (n := c.toNat % 16) (by omega))
  rwa [hn] at hu

theorem spellsChar_spell (c : Char) : SpellsChar (spellChar c) c := by
  unfold spellChar
  split
  all_goals try exact .short (by decide)
  case h_8 c hq hb _ _ _ _ _ =>
    split
    case isTrue hc  => exact .unit (hexUnit_control hc)
    case isFalse hc => exact .plain ⟨Char.not_lt.1 hc, hq, hb⟩

theorem spellsString_spell (s : String) : SpellsString (spellString s) s := by
  rw [spellString, List.flatMap_def]
  exact .intro (forall₂_map_self fun c _ => spellsChar_spell c)

end Strings

section Lists

variable {α : Type} {Spells : List Char → α → Prop}

theorem spaced_of_spells {text : List Char} {a : α} (h : Spells text a) : Spaced Spells text a := by
  have hs : Spaced Spells ([] ++ (text ++ [])) a := .intro (nofun) h (nofun)
  simpa using hs

theorem separated_of_forall₂ {text : List Char} {a : α} {texts : List (List Char)} {as : List α}
    (h : Spells text a) (hs : List.Forall₂ Spells texts as) :
    Separated Spells (separated [','] (text :: texts)) (a :: as) := by
  induction hs generalizing text a
  case nil => exact .one (spaced_of_spells h)
  case cons hb _ ih =>
    rw [separated, List.append_assoc]
    · exact .cons (spaced_of_spells h) (ih hb)
    · simp

theorem enclosed_of_forall₂ (opening closing : Char) {texts : List (List Char)} {as : List α}
    (h : List.Forall₂ Spells texts as) :
    Enclosed opening closing Spells (opening :: (separated [','] texts ++ [closing])) as := by
  cases h
  case nil       => exact .empty (nofun)
  case cons h hs => exact .full (separated_of_forall₂ h hs)

end Lists

section Values

variable {α : Type}

theorem spellsString_value (s : String) : SpellsString (Value.string s).spell s :=
  spellsString_spell s

theorem spellItems_eq (vs : List Value) : Value.spellItems vs = vs.map Value.spell := by
  induction vs
  case nil           => rfl
  case cons v vs ih => rw [Value.spellItems, ih, List.map_cons]

theorem spellEntries_eq (es : List (String × Value)) :
    Value.spellEntries es = es.map fun e => spellString e.1 ++ ':' :: e.2.spell := by
  induction es
  case nil           => rfl
  case cons e es ih => rw [Value.spellEntries, ih, List.map_cons]

theorem enclosed_array {Spells : List Char → α → Prop} {vs : List Value} {as : List α}
    (h : List.Forall₂ (fun v a => Spells v.spell a) vs as) :
    Enclosed '[' ']' Spells (Value.array vs).spell as := by
  rw [Value.spell, spellItems_eq]
  exact enclosed_of_forall₂ _ _ (List.forall₂_map_left_iff.2 h)

theorem enclosed_object {Spells : String → List Char → α → Prop} {vs : List (String × Value)}
    {es : List (String × α)}
    (h : List.Forall₂ (fun v e => v.1 = e.1 ∧ Spells e.1 v.2.spell e.2) vs es) :
    Enclosed '\x7b' '\x7d' (SpellsEntry Spells) (Value.object vs).spell es := by
  rw [Value.spell, spellEntries_eq]
  refine enclosed_of_forall₂ _ _ (List.forall₂_map_left_iff.2 (h.imp ?_))
  rintro ⟨key, v⟩ ⟨_, a⟩ ⟨rfl, hs⟩
  have hg : IsGap [] := nofun
  exact .intro (spellsString_spell key) hg hg hs

-- Written records name each field once.
theorem spellsRecord_object {fields : List FieldSpelling} {vs : List (String × Value)}
    (h : ∀ v ∈ vs, SpellsField fields v.1 v.2.spell ())
    (hc : ∀ f ∈ fields, (vs.map Prod.fst).count f.name = 1) :
    SpellsRecord fields (Value.object vs).spell := by
  have he : List.Forall₂ (fun v (e : String × Unit) => v.1 = e.1 ∧
      SpellsField fields e.1 v.2.spell e.2) vs (vs.map fun v => (v.1, ())) :=
    List.forall₂_map_right_iff.2 (List.forall₂_same.2 fun v hv => ⟨rfl, h v hv⟩)
  refine .object (enclosed_object he) fun f hf => .inl ?_
  rw [List.map_map]
  exact hc f hf

end Values

end EntitySearch.Json
