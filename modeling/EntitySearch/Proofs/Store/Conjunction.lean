import EntitySearch.Proofs.Store.Steps
import EntitySearch.Proofs.Text.Words

namespace EntitySearch.Store

variable {c : Contents} {term : String} {ps : List (List Char)}

-- A search for a single word finds all ids for which the word was counted.
theorem textQuery_run {s : Store} {run : List Char} (hn : run ≠ [])
    (h : ∀ c ∈ run, isAlphanumeric c) :
    s.textQuery (String.ofList run) =
      Hit.ofTally (s.occurrences.getD (String.ofList (lowercase run)) ∅) := by
  rw [textQuery, words_run hn h, List.map_singleton, Hit.meet, Hit.ofTally,
    ← List.filterMap_eq_map]
  rfl

-- Counts are sums from zero on, so that they stay as they are when they are added to nothing.
theorem tally_occurrences (c : Contents) (word : String) :
    Hit.tally (Hit.ofTally ((ofContents c).occurrences.getD word ∅)) =
      (ofContents c).occurrences.getD word ∅ := by
  rw [getD_occurrences]
  exact Hit.tally_ofTally (Hit.zero_add_of_mem_tally Double.zeroAddsNothing)

theorem textQuery_eq_intersection (hp : LongestRuns isAlphanumeric ps term.toList) :
    (ofContents c).textQuery term =
      Hit.intersection (ps.map fun p => (ofContents c).textQuery (String.ofList p)) := by
  have hw : words term = ps.map fun p => String.ofList (lowercase p) := by
    rw [words, pieces_eq_iff.2 hp]
  rw [textQuery, Hit.intersection, hw, List.map_map, List.map_map]
  refine congrArg Hit.meet (List.map_congr_left fun p hm => ?_)
  obtain ⟨hn, ha⟩ := hp.ne_nil_and_all p hm
  rw [Function.comp_apply, Function.comp_apply, textQuery_run hn ha, tally_occurrences]

-- A search finds what the searches for the pieces of its term have in common, in the same order,
-- and with what they weigh together. Both add the same counts in the same order, so that it does
-- not matter whether sums are rounded.
theorem fullText_pieces (c : Contents) (hp : LongestRuns isAlphanumeric ps term.toList) :
    ∃ operands,
      (List.Forall₂ (fun p found => (ofContents c).backend.fullText (String.ofList p) = .ok found)
        ps operands) ∧
      ((ofContents c).backend.fullText term = .ok (Hit.intersection operands)) := by
  refine ⟨ps.map fun p => (ofContents c).textQuery (String.ofList p), ?_, ?_⟩
  · rw [List.forall₂_map_right_iff, List.forall₂_same]
    exact fun _ _ => rfl
  · exact congrArg Except.ok (textQuery_eq_intersection hp)

-- A word that comes twice, and an id that two entities share.
theorem fullText_pieces_repeated :
    let c : Contents := {
      entities := [⟨"a", "note", "parser notes", ∅⟩, ⟨"a", "person", "rust", ∅⟩,
        ⟨"b", "note", "a parser", ∅⟩]
      links := [] }
    let ps := ["Parser".toList, "rust".toList, "parser".toList]
    (LongestRuns isAlphanumeric ps "Parser, rust-parser".toList) ∧
    ((ofContents c).backend.fullText "Parser, rust-parser" = .ok [⟨"a", .ofNat 3⟩]) ∧
    ∃ operands,
      (List.Forall₂ (fun p found => (ofContents c).backend.fullText (String.ofList p) = .ok found)
        ps operands) ∧
      ((ofContents c).backend.fullText "Parser, rust-parser" =
        .ok (Hit.intersection operands)) := by
  intro c ps
  have hp : LongestRuns isAlphanumeric ps "Parser, rust-parser".toList :=
    pieces_eq_iff.1 (by decide +kernel)
  have hf : (ofContents c).backend.fullText "Parser, rust-parser" = .ok [⟨"a", .ofNat 3⟩] :=
    fullText_of_scanText (by decide +kernel)
  exact ⟨hp, hf, fullText_pieces c hp⟩

end EntitySearch.Store
