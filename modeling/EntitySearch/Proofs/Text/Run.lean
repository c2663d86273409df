namespace EntitySearch

-- A run of characters of one class that does not go on in the text behind it.
structure LongestRun (p : Char → Bool) (run rest : List Char) : Prop where
  all   : ∀ c ∈ run, p c
  stops : ∀ c ∈ rest.head?, ¬p c

namespace LongestRun

variable {p : Char → Bool} {run rest : List Char}

theorem takeWhile_append (h : LongestRun p run rest) : (run ++ rest).takeWhile p = run := by
  rw [List.takeWhile_append_of_pos h.all]
  cases rest
  case nil         => simp
  case cons c rest => simp [h.stops c rfl]

theorem dropWhile_append (h : LongestRun p run rest) : (run ++ rest).dropWhile p = rest := by
  rw [List.dropWhile_append_of_pos h.all]
  cases rest
  case nil         => rfl
  case cons c rest => simp [h.stops c rfl]

theorem of_takeWhile (p : Char → Bool) (cs : List Char) :
    LongestRun p (cs.takeWhile p) (cs.dropWhile p) where
  all c hc := by simpa using List.all_eq_true.1 List.all_takeWhile c hc
  stops c hc := by
    have := List.head?_dropWhile_not p cs
    simp_all

theorem exists_append (p : Char → Bool) (cs : List Char) :
    ∃ run rest, cs = run ++ rest ∧ LongestRun p run rest :=
  ⟨_, _, List.takeWhile_append_dropWhile.symm, of_takeWhile p cs⟩

theorem cons {c : Char} (hc : p c) (h : LongestRun p run rest) : LongestRun p (c :: run) rest where
  all d hd := by
    cases List.mem_cons.1 hd
    case inl hd => exact hd ▸ hc
    case inr hd => exact h.all d hd
  stops := h.stops

theorem tail {c : Char} (h : LongestRun p (c :: run) rest) : LongestRun p run rest where
  all d hd := h.all d (List.mem_cons_of_mem c hd)
  stops := h.stops

end LongestRun

end EntitySearch
