import EntitySearch.Proofs.Text.Run
import EntitySearch.Text.Words

namespace EntitySearch

-- The longest runs of characters of a class in a text, in their order. What stands between them is
-- not of the class.
inductive LongestRuns (p : Char → Bool) : List (List Char) → List Char → Prop
  | nil :
    LongestRuns p [] []
  | other {c : Char} {cs : List Char} {runs : List (List Char)} :
    (¬p c) → (LongestRuns p runs cs) → LongestRuns p runs (c :: cs)
  | run {run rest : List Char} {runs : List (List Char)} :
    (run ≠ []) → (LongestRun p run rest) → (LongestRuns p runs rest) →
    LongestRuns p (run :: runs) (run ++ rest)

namespace LongestRuns

variable {p : Char → Bool} {runs : List (List Char)} {run cs : List Char}

theorem ne_nil_and_all (h : LongestRuns p runs cs) : ∀ run ∈ runs, run ≠ [] ∧ ∀ c ∈ run, p c := by
  induction h
  case nil           => simp
  case other ih      => exact ih
  case run hn h _ ih => exact List.forall_mem_cons.2 ⟨⟨hn, h.all⟩, ih⟩

-- The characters of the class are those of the runs.
theorem exists_mem_iff {c : Char} (h : LongestRuns p runs cs) :
    (∃ run ∈ runs, c ∈ run) ↔ (c ∈ cs) ∧ p c := by
  induction h
  case nil => simp
  case other d cs runs hd _ ih =>
    rw [ih, List.mem_cons]
    constructor
    case mp  => exact fun ⟨hc, hp⟩ => ⟨.inr hc, hp⟩
    case mpr =>
      rintro ⟨rfl | hc, hp⟩
      case inl => exact absurd hp hd
      case inr => exact ⟨hc, hp⟩
  case run run rest runs _ hr _ ih =>
    rw [List.mem_append, or_and_right, ← ih]
    simp only [List.mem_cons, exists_eq_or_imp]
    exact or_congr_left ⟨fun hc => ⟨hc, hr.all c hc⟩, And.left⟩

theorem singleton (hn : run ≠ []) (h : ∀ c ∈ run, p c) : LongestRuns p [run] run := by
  have := LongestRuns.run hn ⟨h, by simp⟩ .nil
  rwa [List.append_nil] at this

-- A character before a text makes a new run, or the first run longer.
theorem exists_cons {c : Char} (hc : p c) (h : LongestRuns p runs cs) :
    ∃ runs', LongestRuns p runs' (c :: cs) := by
  cases h
  case nil => exact ⟨[[c]], singleton (List.cons_ne_nil _ _) (by simpa using hc)⟩
  case other d cs hd h =>
    exact ⟨[c] :: runs, .run (List.cons_ne_nil _ _) ⟨by simpa using hc, by simpa using hd⟩
      (.other hd h)⟩
  case run run rest runs _ hr h =>
    exact ⟨(c :: run) :: runs, .run (List.cons_ne_nil _ _) (hr.cons hc) h⟩

theorem exists_runs (p : Char → Bool) (cs : List Char) : ∃ runs, LongestRuns p runs cs := by
  induction cs
  case nil => exact ⟨[], .nil⟩
  case cons c cs ih =>
    obtain ⟨runs, h⟩ := ih
    by_cases hc : p c
    case pos => exact h.exists_cons hc
    case neg => exact ⟨runs, .other hc h⟩

end LongestRuns

section Split

variable {sep : Char → Bool} {run rest first : List Char} {more : List (List Char)}

theorem splitWhere_append (hr : ∀ c ∈ run, ¬sep c) (h : splitWhere sep rest = first :: more) :
    splitWhere sep (run ++ rest) = (run ++ first) :: more := by
  induction run
  case nil => exact h
  case cons c run ih =>
    rw [List.forall_mem_cons] at hr
    rw [List.cons_append, splitWhere, if_neg hr.1, ih hr.2]
    rfl

-- Nothing stands before a first separator, nor in an empty text.
theorem splitWhere_of_head? (h : ∀ c ∈ rest.head?, sep c) :
    ∃ more, splitWhere sep rest = [] :: more := by
  cases rest
  case nil         => exact ⟨[], rfl⟩
  case cons c rest => exact ⟨splitWhere sep rest, if_pos (h c rfl)⟩

end Split

theorem pieces_of_longestRuns {runs : List (List Char)} {cs : List Char}
    (h : LongestRuns isAlphanumeric runs cs) : pieces cs = runs := by
  induction h
  case nil => rfl
  case other c cs runs hc _ ih =>
    have hs : splitWhere (!isAlphanumeric ·) (c :: cs) = [] :: splitWhere (!isAlphanumeric ·) cs :=
      if_pos (by simpa using hc)
    rw [pieces, hs, List.filter_cons_of_neg (by simp)]
    exact ih
  case run run rest runs hn hr _ ih =>
    have hstop : ∀ c ∈ rest.head?, !isAlphanumeric c := by simpa using hr.stops
    obtain ⟨more, hm⟩ := splitWhere_of_head? hstop
    have hs := splitWhere_append (by simpa using hr.all) hm
    rw [pieces, hm, List.filter_cons_of_neg (by simp)] at ih
    rw [pieces, hs, List.append_nil, List.filter_cons_of_pos (by simpa using hn), ih]

theorem pieces_eq_iff {runs : List (List Char)} {cs : List Char} :
    pieces cs = runs ↔ LongestRuns isAlphanumeric runs cs := by
  constructor
  case mp =>
    rintro rfl
    obtain ⟨runs, h⟩ := LongestRuns.exists_runs isAlphanumeric cs
    rwa [pieces_of_longestRuns h]
  case mpr => exact pieces_of_longestRuns

-- A run of letters and digits is a single word.
theorem words_run {run : List Char} (hn : run ≠ []) (h : ∀ c ∈ run, isAlphanumeric c) :
    words (String.ofList run) = [String.ofList (lowercase run)] := by
  rw [words, String.toList_ofList, pieces_of_longestRuns (.singleton hn h)]
  rfl

end EntitySearch
