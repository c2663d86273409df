import EntitySearch.Text.Position

namespace EntitySearch.Position

variable (p : Position) (cs ds : List Char)

theorem offset_next (c : Char) : (p.next c).offset = p.offset + c.utf8Size := by
  unfold next
  split <;> rfl

theorem offset_advance : (p.advance cs).offset = p.offset + (String.ofList cs).utf8ByteSize := by
  induction cs generalizing p
  case nil         => simp
  case cons c cs ih => simp [ih, offset_next, Nat.add_assoc]

theorem within_zero : within 0 cs = [] := by
  cases cs
  case nil       => rfl
  case cons c cs => simp [within, Nat.ne_of_gt c.utf8Size_pos]

theorem within_append : within (String.ofList cs).utf8ByteSize (cs ++ ds) = cs := by
  induction cs
  case nil          => exact within_zero ds
  case cons c cs ih => simp [within, ih]

theorem locate_append (a b : String) :
    locate (a ++ b) a.utf8ByteSize = start.advance a.toList := by
  have := within_append a.toList b.toList
  rw [String.ofList_toList] at this
  rw [locate, String.toList_append, this]

theorem locate_utf8ByteSize (source : String) :
    locate source source.utf8ByteSize = endOf source := by
  simpa [endOf] using locate_append source ""

theorem offset_start_advance :
    (start.advance cs).offset = (String.ofList cs).utf8ByteSize := by
  rw [offset_advance]
  exact Nat.zero_add _

theorem locate_offset_advance {source : String} (h : source.toList = cs ++ ds) :
    locate source (start.advance cs).offset = start.advance cs := by
  rw [locate, h, offset_start_advance, within_append]

section Order

variable {p q r : Position} {source : String} {a b : Nat}

-- Holds of two places of a text of which the first comes before the second.
structure Precedes (p q : Position) : Prop where
  offset  : p.offset < q.offset
  reading : p.row < q.row ∨ (p.row = q.row ∧ p.column < q.column)

theorem Precedes.trans (h : p.Precedes q) (h' : q.Precedes r) : p.Precedes r where
  offset  := Nat.lt_trans h.offset h'.offset
  reading := by
    have := h.reading
    have := h'.reading
    omega

theorem precedes_next (p : Position) (c : Char) : p.Precedes (p.next c) where
  offset := by
    rw [offset_next]
    exact Nat.lt_add_of_pos_right c.utf8Size_pos
  reading := by
    unfold next
    split
    case isTrue  => exact .inl (Nat.lt_succ_self _)
    case isFalse => exact .inr ⟨rfl, Nat.lt_succ_self _⟩

theorem precedes_advance (p : Position) {cs : List Char} (h : cs ≠ []) :
    p.Precedes (p.advance cs) := by
  induction cs generalizing p
  case nil => contradiction
  case cons c cs ih =>
    rw [advance_cons]
    cases cs
    case nil       => exact precedes_next p c
    case cons d ds => exact (precedes_next p c).trans (ih (p.next c) (List.cons_ne_nil d ds))

-- Holds of the offsets between the characters of a text, and of those of its start and its end.
def IsBoundary (source : String) (offset : Nat) : Prop :=
  ∃ before behind, (source = before ++ behind) ∧ (before.utf8ByteSize = offset)

theorem isBoundary_iff :
    IsBoundary source a ↔
      ∃ cs ds, (source.toList = cs ++ ds) ∧ ((String.ofList cs).utf8ByteSize = a) := by
  constructor
  case mp =>
    rintro ⟨before, behind, rfl, rfl⟩
    exact ⟨before.toList, behind.toList, by simp, by simp⟩
  case mpr =>
    rintro ⟨cs, ds, hs, rfl⟩
    exact ⟨String.ofList cs, String.ofList ds, String.toList_inj.1 (by simp [hs]), rfl⟩

theorem precedes_locate (ha : IsBoundary source a) (hb : IsBoundary source b) (h : a < b) :
    (locate source a).Precedes (locate source b) := by
  obtain ⟨as, as', hs, rfl⟩ := isBoundary_iff.1 ha
  obtain ⟨bs, bs', hs', rfl⟩ := isBoundary_iff.1 hb
  rw [locate, locate, hs, within_append, ← hs, hs', within_append]
  -- Of two beginnings of the text, the larger one goes on where the other one ends.
  rcases List.append_eq_append_iff.1 (hs.symm.trans hs') with ⟨mid, rfl, -⟩ | ⟨mid, rfl, -⟩
  case inl =>
    rw [advance_append]
    refine precedes_advance _ ?_
    rintro rfl
    simp at h
  case inr =>
    rw [String.ofList_append, String.utf8ByteSize_append] at h
    omega

-- The last offset between characters that is not beyond another one.
structure BoundaryBelow (source : String) (offset n : Nat) : Prop where
  isBoundary : IsBoundary source n
  le         : n ≤ offset
  greatest   : ∀ m, IsBoundary source m → m ≤ offset → m ≤ n

theorem within_isPrefix (n : Nat) (cs : List Char) : within n cs <+: cs := by
  induction cs generalizing n
  case nil => exact List.nil_prefix
  case cons c cs ih =>
    rw [within]
    split
    case isTrue  => exact List.prefix_cons_inj c |>.2 (ih _)
    case isFalse => exact List.nil_prefix

theorem size_within_le (n : Nat) (cs : List Char) :
    (String.ofList (within n cs)).utf8ByteSize ≤ n := by
  induction cs generalizing n
  case nil => simp [within]
  case cons c cs ih =>
    rw [within]
    split
    case isTrue h =>
      have := ih (n - c.utf8Size)
      rw [String.ofList_cons, String.utf8ByteSize_append, String.utf8ByteSize_singleton]
      omega
    case isFalse => simp

-- A beginning that takes at most `n` bytes is one of the longest.
theorem isPrefix_within {n : Nat} {cs ds : List Char}
    (h : (String.ofList cs).utf8ByteSize ≤ n) : cs <+: within n (cs ++ ds) := by
  induction cs generalizing n
  case nil => exact List.nil_prefix
  case cons c cs ih =>
    rw [String.ofList_cons, String.utf8ByteSize_append, String.utf8ByteSize_singleton] at h
    rw [List.cons_append, within, if_pos (by omega), List.prefix_cons_inj]
    exact ih (by omega)

theorem size_le_of_isPrefix {cs ds : List Char} (h : cs <+: ds) :
    (String.ofList cs).utf8ByteSize ≤ (String.ofList ds).utf8ByteSize := by
  obtain ⟨es, rfl⟩ := h
  rw [String.ofList_append, String.utf8ByteSize_append]
  exact Nat.le_add_right _ _

theorem boundaryBelow_locate (source : String) (offset : Nat) :
    BoundaryBelow source offset (locate source offset).offset := by
  rw [locate, offset_start_advance]
  refine ⟨?isBoundary, size_within_le _ _, ?greatest⟩
  case isBoundary =>
    obtain ⟨ds, hs⟩ := within_isPrefix offset source.toList
    exact isBoundary_iff.2 ⟨_, ds, hs.symm, rfl⟩
  case greatest =>
    intro m hm hle
    obtain ⟨cs, ds, hs, rfl⟩ := isBoundary_iff.1 hm
    rw [hs]
    exact size_le_of_isPrefix (isPrefix_within hle)

theorem locate_offset_locate (source : String) (offset : Nat) :
    locate source (locate source offset).offset = locate source offset := by
  obtain ⟨ds, hs⟩ := within_isPrefix offset source.toList
  exact locate_offset_advance _ ds hs.symm

end Order

end EntitySearch.Position
