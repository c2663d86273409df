import EntitySearch.Proofs.Text.Run
import EntitySearch.Resolver.PropertyPath

namespace EntitySearch

theorem isNameChar_iff {c : Char} : isNameChar c ↔ c.isAlphanum ∨ c = '_' := by
  simp [isNameChar]

namespace PropertyPath

-- Holds if a path is made up of a slash and the parts of `p`: a name, and what is not empty and has
-- no line feed behind another slash.
structure Splits (p : PropertyPath) (path : String) : Prop where
  append   : path = "/" ++ p.collection ++ p.subpath
  nonempty : p.collection ≠ ""
  name     : ∀ c ∈ p.collection.toList, c.isAlphanum ∨ c = '_'
  subpath  : ∃ behind, (p.subpath = "/" ++ behind) ∧ (behind ≠ "") ∧ '\n' ∉ behind.toList

variable {path : String} {p p' : PropertyPath}

namespace Splits

theorem toList_path (h : p.Splits path) :
    path.toList = '/' :: (p.collection.toList ++ p.subpath.toList) := by
  simp [h.append]

theorem toList_subpath (h : p.Splits path) :
    ∃ c rest, p.subpath.toList = '/' :: c :: rest ∧ '\n' ∉ c :: rest := by
  obtain ⟨behind, hs, hn, hl⟩ := h.subpath
  rcases hb : behind.toList with _ | ⟨c, rest⟩
  case nil  => exact absurd (String.toList_eq_nil_iff.1 hb) hn
  case cons => exact ⟨c, rest, by simp [hs, hb], hb ▸ hl⟩

-- The slash of the subpath ends the name.
theorem longestRun (h : p.Splits path) :
    LongestRun isNameChar p.collection.toList p.subpath.toList where
  all c hc := isNameChar_iff.2 (h.name c hc)
  stops c hc := by
    obtain ⟨d, rest, hs, -⟩ := h.toList_subpath
    rw [hs] at hc
    cases hc
    decide

end Splits

theorem ofString?_of_splits (h : p.Splits path) : ofString? path = some p := by
  obtain ⟨c, rest, hs, hl⟩ := h.toList_subpath
  have hr := h.longestRun
  have hn : p.collection.toList ≠ [] := mt String.toList_eq_nil_iff.1 h.nonempty
  simp only [ofString?, h.toList_path, hr.takeWhile_append, hr.dropWhile_append]
  rw [hs]
  split
  case h_1 => contradiction
  case h_2 hd _ =>
    cases hd
    rw [if_neg hl, ← hs, String.ofList_toList, String.ofList_toList]
  case h_3 hd => exact (hd c rest rfl).elim

theorem splits_of_ofString? (h : ofString? path = some p) : p.Splits path := by
  unfold ofString? at h
  split at h
  case h_2 => cases h
  case h_1 cs hp =>
    have hr := LongestRun.of_takeWhile isNameChar cs
    have ha := List.takeWhile_append_dropWhile (p := isNameChar) (l := cs)
    split at h
    case h_1 => cases h
    case h_3 => cases h
    case h_2 c rest hd hn =>
      split at h
      case isTrue => cases h
      case isFalse hl =>
        cases h
        rw [hd] at ha
        exact
          { append    := String.toList_inj.1 (by simp [hp, ha])
            nonempty  := mt String.toList_eq_nil_iff.2 (by rwa [String.toList_ofList])
            name c hc := isNameChar_iff.1 (hr.all c (by rwa [String.toList_ofList] at hc))
            subpath   := ⟨String.ofList (c :: rest), String.ofList_cons, by simp,
              by rwa [String.toList_ofList]⟩ }

theorem ofString?_eq_some_iff : ofString? path = some p ↔ p.Splits path :=
  ⟨splits_of_ofString?, ofString?_of_splits⟩

theorem Splits.unique (h : p.Splits path) (h' : p'.Splits path) : p = p' :=
  Option.some.inj ((ofString?_of_splits h).symm.trans (ofString?_of_splits h'))

theorem ofString?_eq_none_iff : ofString? path = none ↔ ∀ p : PropertyPath, ¬p.Splits path := by
  simp only [Option.eq_none_iff_forall_ne_some, ne_eq, ofString?_eq_some_iff]

end PropertyPath

end EntitySearch
