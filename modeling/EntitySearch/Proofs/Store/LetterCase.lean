import EntitySearch.Proofs.Store.Steps
import EntitySearch.Proofs.Text.Lowercase

namespace EntitySearch.Store

variable {s : Store} {term term' : String}

-- Searches are answered by words alone.
theorem fullText_congr (h : words term' = words term) :
    s.backend.fullText term' = s.backend.fullText term := by
  simp only [backend, textQuery, h]

-- Lower-casing a term keeps what every store answers, if it keeps the words of the term.
theorem fullText_lowercase (term : String) :
    (KeepsWords term.toList ↔ words (String.ofList (lowercase term.toList)) = words term) ∧
    (KeepsWords term.toList → ∀ s : Store,
      s.backend.fullText (String.ofList (lowercase term.toList)) = s.backend.fullText term) :=
  ⟨(words_lowercase_iff term).symm, fun h _ => fullText_congr ((words_lowercase_iff term).2 h)⟩

-- Sigmas of both small forms, and a sigma that ends a word by itself and in the term.
theorem fullText_lowercase_sigmas :
    let s := ofContents {
      entities := [⟨"a", "note", "Οδυσσεύς", ∅⟩, ⟨"b", "note", "ο δρόμος του Οδυσσέως", ∅⟩]
      links := [] }
    KeepsWords "ΟΔΥΣΣΕΎΣ, ΔΡΌΜΟΣ".toList ∧
    s.backend.fullText (String.ofList (lowercase "ΟΔΥΣΣΕΎΣ, ΔΡΌΜΟΣ".toList)) =
      s.backend.fullText "ΟΔΥΣΣΕΎΣ, ΔΡΌΜΟΣ" := by
  intro s
  have h : KeepsWords "ΟΔΥΣΣΕΎΣ, ΔΡΌΜΟΣ".toList := (fullText_lowercase _).1.2 (by decide +kernel)
  exact ⟨h, (fullText_lowercase _).2 h s⟩

-- The dot of a capital I in small letters is no letter. A sigma before an apostrophe ends its word,
-- but not what is lower-cased with it.
theorem fullText_lowercase_ne :
    let s := ofContents { entities := [⟨"a", "note", "İ ας α", ∅⟩], links := [] }
    (s.backend.fullText (String.ofList (lowercase "İ".toList)) ≠ s.backend.fullText "İ") ∧
    (s.backend.fullText (String.ofList (lowercase "ΑΣ'Α".toList)) ≠ s.backend.fullText "ΑΣ'Α") := by
  intro s
  let ps := [Entity.profile ⟨"a", "note", "İ ας α", ∅⟩]
  have hs : ∀ term, s.backend.fullText term = .ok (scanText ps (words term)) :=
    (answersAs_ofContents _).fullText
  have hi : scanText ps (words "İ") = [⟨"a", .ofNat 1⟩] ∧
      scanText ps (words (String.ofList (lowercase "İ".toList))) = [] := by
    decide +kernel
  have hσ : scanText ps (words "ΑΣ'Α") = [⟨"a", .ofNat 2⟩] ∧
      scanText ps (words (String.ofList (lowercase "ΑΣ'Α".toList))) = [] := by
    decide +kernel
  constructor
  · rw [hs, hs, hi.1, hi.2]
    simp
  · rw [hs, hs, hσ.1, hσ.2]
    simp

end EntitySearch.Store
