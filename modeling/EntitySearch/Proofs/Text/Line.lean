import EntitySearch.Proofs.Text.Position
import EntitySearch.Proofs.Text.Run
import EntitySearch.Text.Line
import Mathlib.Data.List.Induction

namespace EntitySearch

namespace Position

variable (p : Position) {cs above left : List Char}

theorem row_advance (cs : List Char) : (p.advance cs).row = p.row + cs.count '\n' := by
  induction cs generalizing p
  case nil => simp
  case cons c cs ih =>
    rw [advance_cons, ih, next]
    split
    case isTrue hc  => simp [hc, Nat.add_right_comm, Nat.add_assoc]
    case isFalse hc => simp [hc]

theorem column_advance (h : '\n' ∉ cs) : (p.advance cs).column = p.column + cs.length := by
  induction cs generalizing p
  case nil => rfl
  case cons c cs ih =>
    rw [List.mem_cons, not_or] at h
    rw [advance_cons, ih _ h.2, next, if_neg (Ne.symm h.1)]
    simp [Nat.add_right_comm, Nat.add_assoc]

-- A line begins at the first column.
theorem column_start_advance (h : ∀ c ∈ above.getLast?, c = '\n') :
    (start.advance above).column = 1 := by
  cases ha : above.getLast?
  case none =>
    rw [List.getLast?_eq_none_iff.1 ha]
    rfl
  case some c =>
    obtain ⟨before, rfl⟩ := List.getLast?_eq_some_iff.1 ha
    simp [advance_append, next, h c ha]

end Position

-- A text cut at a place: what stands above the line of the place, what stands in the line left and
-- right of the place, and what stands below from the line feed on.
structure LineParts (text above left right below : List Char) : Prop where
  parts : text = above ++ (left ++ (right ++ below))
  above : ∀ c ∈ above.getLast?, c = '\n'
  left  : '\n' ∉ left
  right : '\n' ∉ right
  below : ∀ c ∈ below.head?, c = '\n'

-- The last line of a text and what stands above it.
theorem exists_last_line (cs : List Char) :
    ∃ above left, cs = above ++ left ∧ (∀ c ∈ above.getLast?, c = '\n') ∧ '\n' ∉ left := by
  induction cs using List.reverseRecOn
  case nil => exact ⟨[], [], by simp⟩
  case append_singleton cs c ih =>
    obtain ⟨above, left, rfl, ha, hl⟩ := ih
    by_cases hc : c = '\n'
    case pos => exact ⟨above ++ left ++ [c], [], by simp [hc]⟩
    case neg => exact ⟨above, left ++ [c], by simp, ha, by simp [hl, Ne.symm hc]⟩

theorem exists_lineParts (before after : List Char) :
    ∃ above left right below, before = above ++ left ∧ after = right ++ below ∧
      LineParts (before ++ after) above left right below := by
  obtain ⟨above, left, rfl, ha, hl⟩ := exists_last_line before
  obtain ⟨right, below, rfl, hr⟩ := LongestRun.exists_append (· ≠ '\n') after
  refine ⟨above, left, right, below, rfl, rfl, by simp, ha, hl, fun h => ?_, fun c hc => ?_⟩
  · simpa using hr.all _ h
  · simpa using hr.stops c hc

theorem belowLines_append {above : List Char} (h : ∀ c ∈ above.getLast?, c = '\n')
    (cs : List Char) : belowLines (above.count '\n') (above ++ cs) = cs := by
  induction above
  case nil => cases cs <;> rfl
  case cons c above ih =>
    have ha : ∀ d ∈ above.getLast?, d = '\n' := by
      intro d hd
      exact h d (by simp [List.getLast?_cons, Option.mem_def.1 hd])
    by_cases hc : c = '\n'
    case pos =>
      rw [hc, List.count_cons_self, List.cons_append, belowLines, if_pos rfl]
      exact ih ha
    case neg =>
      -- There is a line feed further on, as there is one at the end.
      have hn : above.getLast? ≠ none := fun hn => hc (h c (by simp [List.getLast?_cons, hn]))
      obtain ⟨d, hd⟩ := Option.ne_none_iff_exists'.1 hn
      have hm : '\n' ∈ above := ha d hd ▸ List.mem_of_getLast? hd
      obtain ⟨n, hk⟩ := Nat.exists_eq_add_of_lt (List.count_pos_iff.2 hm)
      rw [Nat.zero_add] at hk
      rw [List.count_cons_of_ne hc, hk, List.cons_append, belowLines, if_neg hc, ← hk]
      exact ih ha

-- A line as it is shown, without a carriage return right before the line feed that ends it.
inductive Shows (below : List Char) : List Char → List Char → Prop
  | whole {line : List Char} :
    (below ≠ [] → line.getLast? ≠ some '\r') → Shows below line line
  | cut {line : List Char} :
    (below ≠ []) → Shows below (line ++ ['\r']) line

theorem shows_firstLine {line below : List Char} (h : LongestRun (· ≠ '\n') line below) :
    Shows below line (firstLine (line ++ below)) := by
  rw [firstLine, h.takeWhile_append, h.dropWhile_append]
  split
  case h_1 hr =>
    obtain ⟨line, rfl⟩ := List.getLast?_eq_some_iff.1 hr
    rw [List.dropLast_concat]
    exact .cut (List.cons_ne_nil _ _)
  case h_2 hn =>
    refine .whole fun hb hr => ?_
    obtain ⟨c, below, rfl⟩ := List.exists_cons_of_ne_nil hb
    exact hn _ _ rfl hr

theorem Shows.take_left {left right below shown : List Char} (h : Shows below (left ++ right) shown)
    (hr : right = [] → below = []) : shown.take left.length = left := by
  generalize hline : left ++ right = line at h
  cases h
  case whole => rw [← hline, List.take_left]
  case cut hb =>
    have hp := List.length_pos_iff.2 (mt hr hb)
    have hl := congrArg List.length hline
    simp only [List.length_append, List.length_singleton] at hl
    rw [← List.take_append_of_le_length (by omega), ← hline, List.take_left]

namespace LineParts

variable {text above left right below : List Char}

theorem longestRun (h : LineParts text above left right below) :
    LongestRun (· ≠ '\n') (left ++ right) below where
  all c hc := by
    have hn : '\n' ∉ left ++ right := by simp [h.left, h.right]
    simpa using ne_of_mem_of_not_mem hc hn
  stops c hc := by simpa using h.below c hc

theorem row_advance (h : LineParts text above left right below) :
    (Position.start.advance (above ++ left)).row = above.count '\n' + 1 := by
  rw [Position.row_advance, List.count_append, List.count_eq_zero.2 h.left, Nat.add_comm]
  rfl

theorem column_advance (h : LineParts text above left right below) :
    (Position.start.advance (above ++ left)).column = left.length + 1 := by
  rw [Position.advance_append, Position.column_advance _ h.left,
    Position.column_start_advance h.above, Nat.add_comm]

theorem shows_lineAt (h : LineParts text above left right below) :
    Shows below (left ++ right) (lineAt (Position.start.advance (above ++ left)).row text) := by
  have hb := belowLines_append h.above (left ++ (right ++ below))
  rw [← h.parts] at hb
  rw [lineAt, h.row_advance, Nat.add_sub_cancel, hb, ← List.append_assoc]
  exact shows_firstLine h.longestRun

end LineParts

end EntitySearch
