import EntitySearch.Proofs.Query.Reading
import EntitySearch.Proofs.Store.Growth

namespace EntitySearch

variable {c c' : Store.Contents} {source : String} {hits : List (Hit String Double)}
variable {q : Query Quantifier Connective Relation}

-- With more contents, a search finds what it found before with at least the weight it had, if it
-- excludes nothing.
theorem search_grows (hg : Relation.ReflTransGen Store.Contents.Grows c c')
    (hq : compile .standard source = .ok q) (hx : .exclude ∉ q.connectives)
    (hs : (Store.ofContents c).search source = .ok hits) :
    ∃ hits', ((Store.ofContents c').search source = .ok hits') ∧ ∀ id ∈ Hit.ids hits,
      (id ∈ Hit.ids hits') ∧ ((Hit.weightIn id hits).AtMost (Hit.weightIn id hits')) := by
  have hc := Query.resolve_relatedBy Covers.lifts Hit.keptByMerges_grows (absurd · hx)
    (Store.backend_grows (Store.Contents.within_of_grows hg))
  obtain ⟨q', hq', hr⟩ := search_eq_ok_iff.1 hs
  cases hq.symm.trans hq'
  obtain ⟨hits', hr', hh⟩ := hc hits hr
  exact ⟨hits', search_eq_ok_iff.2 ⟨q, hq, hr'⟩, fun id hm => ⟨hh.mem_ids hm, hh.weightIn id⟩⟩

-- A note that is found by its text alone, and later by a tag as well.
theorem search_grows_tag :
    let c : Store.Contents := { entities := [⟨"a", "note", "parser", ∅⟩], links := [] }
    let c' : Store.Contents :=
      { entities := [Store.Entity.withTag ⟨"a", "note", "parser", ∅⟩ "/tag" "x",
          ⟨"b", "note", "rust parser", ∅⟩]
        links := [⟨⟨"note", "a"⟩, ⟨"note", "b"⟩⟩] }
    let q : Query Quantifier Connective Relation :=
      .aggregate .every [.joined .or (.property "/note/tag" "x") (.fullText "parser")]
    (Relation.ReflTransGen Store.Contents.Grows c c') ∧
    (compile .standard "/note/tag=x -or parser" = .ok q) ∧ (.exclude ∉ q.connectives) ∧
    ((Store.ofContents c).search "/note/tag=x -or parser" = .ok [⟨"a", 1⟩]) ∧
    ∃ hits', ((Store.ofContents c').search "/note/tag=x -or parser" = .ok hits') ∧
      ∀ id ∈ Hit.ids [(⟨"a", 1⟩ : Hit String Double)], (id ∈ Hit.ids hits') ∧
        ((Hit.weightIn id [(⟨"a", 1⟩ : Hit String Double)]).AtMost (Hit.weightIn id hits')) := by
  intro c c' q
  have hg : Relation.ReflTransGen Store.Contents.Grows c c' :=
    .tail (.tail (.single (.entity c ⟨"b", "note", "rust parser", ∅⟩))
      (.tag [] [⟨"b", "note", "rust parser", ∅⟩] _ [] "/tag" "x"))
      (.link _ ⟨⟨"note", "a"⟩, ⟨"note", "b"⟩⟩)
  have hq : compile .standard "/note/tag=x -or parser" = .ok q := by
    have hor : Vocabulary.standard.connective? "or" = some .or := rfl
    have hr := (readAsTerm_property "/note/tag" "x").chain.joined (readAsTerm_fullText "parser") hor
    exact compile_of_readAsChain (by decide +kernel) hr
  have hx : .exclude ∉ q.connectives := by
    simp [q, Query.connectives, Query.connectivesAll]
  have hp : (Query.property "/note/tag" "x").resolve (Store.ofContents c).backend.resolver =
      .ok [] := by
    have hs : Store.scanTagged (c.entities.map Store.Entity.profile) "note" "/tag" "x" = [] := by
      decide +kernel
    have ht := (Store.answersAs_ofContents c).tagged "note" "/tag" "x" ⟨_, List.mem_cons_self, rfl⟩
    rw [hs] at ht
    exact ht
  have hf : (Query.fullText "parser").resolve (Store.ofContents c).backend.resolver =
      .ok [⟨"a", 1⟩] := by
    have hs : (Store.ofContents c).backend.fullText "parser" = .ok [⟨"a", 1⟩] :=
      Store.fullText_of_scanText (by decide +kernel)
    exact hs
  have hs : (Store.ofContents c).search "/note/tag=x -or parser" = .ok [⟨"a", 1⟩] := by
    have hu : Hit.union [[], [(⟨"a", 1⟩ : Hit String Double)]] = [⟨"a", 1⟩] := by decide +kernel
    have hj : (Store.ofContents c).backend.resolver.joined .or [] [⟨"a", 1⟩] = .ok [⟨"a", 1⟩] :=
      congrArg Except.ok hu
    refine search_eq_ok_iff.2 ⟨q, hq, ?_⟩
    rw [Query.resolve_aggregate_singleton]
    exact Query.resolve_joined_eq_ok_iff.2 ⟨_, _, hp, hf, hj⟩
  exact ⟨hg, hq, hx, hs, search_grows hg hq hx hs⟩

end EntitySearch
