import EntitySearch.Proofs.Text.Words

namespace EntitySearch

section Tables

variable {s : CharSet} {lo hi : Nat} {c : Char} {r r' : CaseRun}

-- Holds if a set has all code points between two of them in one of its ranges.
def CharSet.covers (s : CharSet) (lo hi : Nat) : Bool :=
  s.ranges.any fun range => Nat.ble hi range.2 && Nat.ble range.1 lo

theorem CharSet.contains_of_covers (h : s.covers lo hi) (hl : lo ≤ c.toNat) (hh : c.toNat ≤ hi) :
    s.contains c := by
  obtain ⟨range, hr, hb⟩ := List.any_eq_true.1 h
  rw [Bool.and_eq_true, Nat.ble_eq, Nat.ble_eq] at hb
  exact contains_iff.2 ⟨range, hr, Nat.le_trans hb.2 hl, Nat.le_trans hh hb.1⟩

namespace CaseRun

theorem contains_iff :
    r.contains c ↔ (r.first ≤ c.toNat) ∧ (c.toNat ≤ r.last) ∧ (c.toNat - r.first) % r.step = 0 := by
  simp [contains, and_assoc]

-- The greatest code point of the small forms of a run.
def smallLast (r : CaseRun) : Nat :=
  r.small + (r.last - r.first)

-- Holds if a set has all characters of a run.
def within (r : CaseRun) (s : CharSet) : Bool :=
  s.covers r.first r.last ||
    (List.range (r.last - r.first + 1)).all fun k =>
      !Nat.beq (k % r.step) 0 || s.covers (r.first + k) (r.first + k)

-- Holds if no small form of one run is in another, since they are apart or take turns.
def apart (r r' : CaseRun) : Bool :=
  Nat.blt r.smallLast r'.first || Nat.blt r'.last r.small ||
    (Nat.beq r'.step 2 && (Nat.beq r.step 2 || Nat.beq r.first r.last) &&
      Nat.beq ((r.small + r'.first) % 2) 1)

-- What is to be looked up of a run in the tables. The dotted capital I is in no run, and no small
-- form is a surrogate.
def Sound (r : CaseRun) : Bool :=
  r.within .alphanumeric && CharSet.alphanumeric.covers r.small r.smallLast &&
    (Nat.blt r.smallLast 0xd800 || (Nat.blt 0xdfff r.small && Nat.blt r.smallLast 0x110000)) &&
    (Nat.blt r.smallLast 0x130 || Nat.blt 0x130 r.small) && all.all r.apart

theorem all_sound : all.all Sound = true := by decide +kernel

structure IsSound (r : CaseRun) : Prop where
  within : r.within .alphanumeric
  covers : CharSet.alphanumeric.covers r.small r.smallLast
  valid  : r.smallLast < 0xd800 ∨ 0xdfff < r.small ∧ r.smallLast < 0x110000
  dotted : r.smallLast < 0x130 ∨ 0x130 < r.small
  apart  : ∀ r' ∈ all, r.apart r'

theorem isSound (h : r ∈ all) : r.IsSound := by
  have hs := List.all_eq_true.1 all_sound r h
  simp only [Sound, Bool.and_eq_true, Bool.or_eq_true, Nat.blt_eq] at hs
  obtain ⟨⟨⟨⟨hw, hc⟩, hv⟩, hd⟩, ha⟩ := hs
  exact ⟨hw, hc, hv, hd, List.all_eq_true.1 ha⟩

theorem contains_of_within (h : r.within s) (hc : r.contains c) : s.contains c := by
  obtain ⟨hl, hh, hk⟩ := contains_iff.1 hc
  rw [within, Bool.or_eq_true] at h
  rcases h with h | h
  case inl => exact CharSet.contains_of_covers h hl hh
  case inr =>
    have hr := List.all_eq_true.1 h (c.toNat - r.first) (List.mem_range.2 (by omega))
    rw [hk] at hr
    exact CharSet.contains_of_covers (by simpa using hr) (by omega) (by omega)

theorem toNat_lower (hr : r ∈ all) (hc : r.contains c) :
    (r.lower c).toNat = r.small + (c.toNat - r.first) := by
  obtain ⟨hl, hh, -⟩ := contains_iff.1 hc
  have hv := (isSound hr).valid
  rw [smallLast] at hv
  have hn : (r.small + (c.toNat - r.first)).isValidChar := by
    unfold Nat.isValidChar
    omega
  rw [lower, Char.ofNat, dif_pos hn]
  rfl

theorem toNat_lower_le (hr : r ∈ all) (hc : r.contains c) :
    (r.small ≤ (r.lower c).toNat) ∧ (r.lower c).toNat ≤ r.smallLast := by
  obtain ⟨hl, hh, -⟩ := contains_iff.1 hc
  rw [toNat_lower hr hc, smallLast]
  omega

theorem isAlphanumeric_lower (hr : r ∈ all) (hc : r.contains c) : isAlphanumeric (r.lower c) :=
  have ⟨hl, hh⟩ := toNat_lower_le hr hc
  CharSet.contains_of_covers (isSound hr).covers hl hh

-- A small form is in no run.
theorem not_contains_lower (hr : r ∈ all) (hc : r.contains c) (hr' : r' ∈ all) :
    ¬r'.contains (r.lower c) := by
  intro hc'
  have ha := (isSound hr).apart r' hr'
  have hb := toNat_lower_le hr hc
  obtain ⟨hl', hh', hk'⟩ := contains_iff.1 hc'
  obtain ⟨hl, hh, hk⟩ := contains_iff.1 hc
  rw [toNat_lower hr hc] at hb hl' hh' hk'
  simp only [apart, Bool.or_eq_true, Bool.and_eq_true, Nat.blt_eq, Nat.beq_eq] at ha
  rcases ha with (ha | ha) | ⟨⟨hs', hs⟩, hp⟩
  case inl.inl => omega
  case inl.inr => omega
  case inr =>
    -- Both are at even distances from the first of theirs, which are at an odd distance.
    rw [hs'] at hk'
    rcases hs with hs | hs
    case inl =>
      rw [hs] at hk
      omega
    case inr => omega

end CaseRun

end Tables

section SmallForm

variable {c d : Char} {cs before after : List Char}

-- The small form of a character that has just one, apart from what stands around it.
def smallForm (c : Char) : Char :=
  match CaseRun.all.find? (·.contains c) with
  | some r => r.lower c
  | none => c

-- Holds of the characters that are not their own small forms.
def isCapital (c : Char) : Bool :=
  c = '\u0130' || CaseRun.all.any (·.contains c)

theorem isCapital_eq_false_iff :
    isCapital c = false ↔ (c ≠ '\u0130') ∧ ∀ r ∈ CaseRun.all, ¬r.contains c := by
  simp [isCapital]

theorem lowerChar_eq (h : c ≠ '\u0130') : lowerChar c = [smallForm c] := by
  rw [lowerChar, if_neg h, smallForm]
  cases CaseRun.all.find? (·.contains c) <;> rfl

theorem smallForm_cases (c : Char) :
    (∃ r ∈ CaseRun.all, r.contains c ∧ smallForm c = r.lower c) ∨
    ((∀ r ∈ CaseRun.all, ¬r.contains c) ∧ smallForm c = c) := by
  cases h : CaseRun.all.find? (·.contains c)
  case none => exact .inr ⟨by simpa using h, by rw [smallForm, h]⟩
  case some r =>
    exact .inl ⟨r, List.mem_of_find?_eq_some h, by simpa using List.find?_some h,
      by rw [smallForm, h]⟩

theorem isAlphanumeric_smallForm (c : Char) : isAlphanumeric (smallForm c) = isAlphanumeric c := by
  rcases smallForm_cases c with ⟨r, hr, hc, hs⟩ | ⟨-, hs⟩
  case inl =>
    rw [hs, CaseRun.isAlphanumeric_lower hr hc]
    exact (CaseRun.contains_of_within (CaseRun.isSound hr).within hc).symm
  case inr => rw [hs]

theorem isCapital_smallForm (h : c ≠ '\u0130') : isCapital (smallForm c) = false := by
  rw [isCapital_eq_false_iff]
  rcases smallForm_cases c with ⟨r, hr, hc, hs⟩ | ⟨hn, hs⟩
  case inl =>
    rw [hs]
    refine ⟨fun hd => ?_, fun r' hr' => CaseRun.not_contains_lower hr hc hr'⟩
    have hb := CaseRun.toNat_lower_le hr hc
    have := (CaseRun.isSound hr).dotted
    have ht : '\u0130'.toNat = 0x130 := rfl
    rw [hd, ht] at hb
    omega
  case inr => exact hs.symm ▸ ⟨h, hn⟩

theorem lowerSigma_cases (before after : List Char) :
    lowerSigma before after = 'ς' ∨ lowerSigma before after = 'σ' := by
  unfold lowerSigma
  split
  case isTrue  => exact .inl rfl
  case isFalse => exact .inr rfl

theorem isAlphanumeric_dotted : isAlphanumeric '\u0130' ∧ ¬isAlphanumeric '\u0307' := by
  decide +kernel

theorem isAlphanumeric_sigma : isAlphanumeric 'Σ' ∧ isAlphanumeric 'ς' ∧ isAlphanumeric 'σ' := by
  decide +kernel

theorem isCapital_of_mem_lowerChar (h : d ∈ lowerChar c) : isCapital d = false := by
  by_cases hc : c = '\u0130'
  case pos =>
    rw [lowerChar, if_pos hc] at h
    have hs : isCapital 'i' = false ∧ isCapital '\u0307' = false := by decide +kernel
    simp only [List.mem_cons, List.not_mem_nil, or_false] at h
    rcases h with rfl | rfl
    case inl => exact hs.1
    case inr => exact hs.2
  case neg =>
    rw [lowerChar_eq hc, List.mem_singleton] at h
    exact h ▸ isCapital_smallForm hc

-- Lower-casing gives small forms.
theorem isCapital_of_mem_lowercaseAfter (h : d ∈ lowercaseAfter before cs) :
    isCapital d = false := by
  induction cs generalizing before
  case nil => simp [lowercaseAfter] at h
  case cons c cs ih =>
    rw [lowercaseAfter, List.mem_append] at h
    rcases h with h | h
    case inr => exact ih h
    case inl =>
      split at h
      case isFalse => exact isCapital_of_mem_lowerChar h
      case isTrue =>
        have hs : isCapital 'ς' = false ∧ isCapital 'σ' = false := by decide +kernel
        rw [List.mem_singleton.1 h]
        rcases lowerSigma_cases before cs with he | he
        case inl => exact he ▸ hs.1
        case inr => exact he ▸ hs.2

theorem lowercaseAfter_of_small (h : ∀ c ∈ cs, isCapital c = false) :
    lowercaseAfter before cs = cs := by
  induction cs generalizing before
  case nil => rfl
  case cons c cs ih =>
    rw [List.forall_mem_cons] at h
    have hs : isCapital 'Σ' = true := by decide +kernel
    have hn : c ≠ 'Σ' := by
      rintro rfl
      exact absurd hs (by simp [h.1])
    obtain ⟨hd, hr⟩ := isCapital_eq_false_iff.1 h.1
    rcases smallForm_cases c with ⟨r, hm, hc, -⟩ | ⟨-, he⟩
    case inl => exact absurd hc (hr r hm)
    case inr =>
      rw [lowercaseAfter, if_neg hn, lowerChar_eq hd, he, ih h.2]
      rfl

end SmallForm

section Words

variable {c : Char} {run rest cs before behind : List Char} {runs : List (List Char)}

-- Lower-cases a text that stands between two others, of which the first is given backwards.
def lowercaseBetween (before behind : List Char) : List Char → List Char
  | [] => []
  | c :: cs =>
    (if c = 'Σ' then [lowerSigma before (cs ++ behind)] else lowerChar c) ++
      lowercaseBetween (c :: before) behind cs

-- Holds if each capital sigma of a text has the small form that it has in its word by itself. The
-- text stands after another, which is given backwards.
def SigmasAgree (before cs : List Char) : Prop :=
  ∀ front after, cs = front ++ 'Σ' :: after →
    lowerSigma (front.reverse ++ before) after =
      lowerSigma ((front.reverse ++ before).takeWhile isAlphanumeric)
        (after.takeWhile isAlphanumeric)

-- Holds if lower-casing a text keeps its words. It has no dotted capital I, whose dot is a
-- character of its own in the small form, and each capital sigma has one small form, in its word by
-- itself and in the text.
structure KeepsWords (cs : List Char) : Prop where
  dotless : '\u0130' ∉ cs
  sigmas  : SigmasAgree [] cs

theorem lowercaseAfter_append :
    lowercaseAfter before (run ++ rest) =
      lowercaseBetween before rest run ++ lowercaseAfter (run.reverse ++ before) rest := by
  induction run generalizing before
  case nil => rfl
  case cons c run ih =>
    rw [List.cons_append, lowercaseAfter, ih, lowercaseBetween, List.append_assoc,
      List.reverse_cons,
      List.append_assoc]
    rfl

theorem sigmasAgree_cons :
    SigmasAgree before (c :: cs) ↔
      (c = 'Σ' → lowerSigma before cs =
        lowerSigma (before.takeWhile isAlphanumeric) (cs.takeWhile isAlphanumeric)) ∧
      SigmasAgree (c :: before) cs := by
  constructor
  case mp =>
    intro h
    refine ⟨fun hc => h [] cs (by rw [hc, List.nil_append]), fun front after he => ?_⟩
    have := h (c :: front) after (by rw [he, List.cons_append])
    rwa [List.reverse_cons, List.append_assoc] at this
  case mpr =>
    rintro ⟨hc, hcs⟩ front after he
    cases front
    case nil =>
      obtain ⟨rfl, rfl⟩ := List.cons.inj he
      exact hc rfl
    case cons d front =>
      obtain ⟨rfl, hs⟩ := List.cons.inj he
      rw [List.reverse_cons, List.append_assoc]
      exact hcs front after hs

theorem ne_sigma_of_not_isAlphanumeric (h : ¬isAlphanumeric c) : c ≠ 'Σ' := by
  rintro rfl
  exact h isAlphanumeric_sigma.1

theorem lowercaseAfter_of_not_isAlphanumeric (h : ¬isAlphanumeric c) :
    lowercaseAfter before (c :: cs) = smallForm c :: lowercaseAfter (c :: before) cs := by
  have hs : c ≠ 'Σ' := ne_sigma_of_not_isAlphanumeric h
  have hd : c ≠ '\u0130' := by
    rintro rfl
    exact h isAlphanumeric_dotted.1
  rw [lowercaseAfter, if_neg hs, lowerChar_eq hd, List.singleton_append]

-- A run of letters and digits is lower-cased as it is by itself just if its sigmas agree.
theorem sigmasAgree_run (h : LongestRun isAlphanumeric run rest) :
    SigmasAgree before (run ++ rest) ↔
      (lowercaseBetween before rest run =
        lowercaseAfter (before.takeWhile isAlphanumeric) run) ∧
      SigmasAgree (run.reverse ++ before) rest := by
  induction run generalizing before
  case nil => simp [lowercaseBetween, lowercaseAfter]
  case cons c run ih =>
    have hc : isAlphanumeric c := h.all c List.mem_cons_self
    rw [List.cons_append, sigmasAgree_cons, ih h.tail, h.tail.takeWhile_append,
      List.takeWhile_cons_of_pos hc, lowercaseBetween, lowercaseAfter, List.reverse_cons,
      List.append_assoc, List.singleton_append, ← and_assoc, and_congr_left_iff]
    intro _
    by_cases hs : c = 'Σ'
    case pos => simp [hs]
    case neg => simp [hs]

theorem not_isAlphanumeric_lowercaseAfter (h : ∀ c ∈ cs.head?, ¬isAlphanumeric c) :
    ∀ c ∈ (lowercaseAfter before cs).head?, ¬isAlphanumeric c := by
  cases cs
  case nil => exact h
  case cons c cs =>
    have hc : ¬isAlphanumeric c := h c rfl
    rw [lowercaseAfter_of_not_isAlphanumeric hc]
    simpa [isAlphanumeric_smallForm] using hc

theorem isAlphanumeric_lowercaseBetween (hd : '\u0130' ∉ run) (h : ∀ c ∈ run, isAlphanumeric c) :
    ∀ c ∈ lowercaseBetween before behind run, isAlphanumeric c := by
  induction run generalizing before
  case nil => simp [lowercaseBetween]
  case cons c run ih =>
    rw [List.forall_mem_cons] at h
    rw [List.mem_cons, not_or] at hd
    rw [lowercaseBetween, List.forall_mem_append]
    refine ⟨?_, ih hd.2 h.2⟩
    split
    case isTrue =>
      obtain ⟨-, hf, hm⟩ := isAlphanumeric_sigma
      rw [List.forall_mem_singleton]
      rcases lowerSigma_cases before (run ++ behind) with he | he
      case inl => exact he ▸ hf
      case inr => exact he ▸ hm
    case isFalse =>
      rw [lowerChar_eq (Ne.symm hd.1), List.forall_mem_singleton, isAlphanumeric_smallForm]
      exact h.1

theorem lowercaseBetween_ne_nil (hd : '\u0130' ∉ run) (hn : run ≠ []) :
    lowercaseBetween before behind run ≠ [] := by
  cases run
  case nil => exact absurd rfl hn
  case cons c run =>
    rw [List.mem_cons, not_or] at hd
    rw [lowercaseBetween, lowerChar_eq (Ne.symm hd.1)]
    split <;> exact List.cons_ne_nil _ _

-- The runs of a text are lower-cased to the runs of its small form, which are those of the runs by
-- themselves just if the sigmas agree. There is no letter or digit right before the text, or none
-- at its beginning.
theorem longestRuns_lowercaseAfter (h : LongestRuns isAlphanumeric runs cs) (hd : '\u0130' ∉ cs)
    (hb : (∀ c ∈ before.head?, ¬isAlphanumeric c) ∨ ∀ c ∈ cs.head?, ¬isAlphanumeric c) :
    ∃ forms, LongestRuns isAlphanumeric forms (lowercaseAfter before cs) ∧
      (forms = runs.map lowercase ↔ SigmasAgree before cs) := by
  induction h generalizing before
  case nil => exact ⟨[], .nil, by simp [SigmasAgree]⟩
  case other c cs runs hc _ ih =>
    rw [List.mem_cons, not_or] at hd
    have hb' : ∀ d ∈ (c :: before).head?, ¬isAlphanumeric d := by simpa using hc
    obtain ⟨forms, hf, he⟩ := ih hd.2 (.inl hb')
    rw [lowercaseAfter_of_not_isAlphanumeric hc]
    refine ⟨forms, .other (by rwa [isAlphanumeric_smallForm]) hf, ?_⟩
    rw [he, sigmasAgree_cons]
    simp [ne_sigma_of_not_isAlphanumeric hc]
  case run run rest runs hn hr _ ih =>
    rw [List.mem_append, not_or] at hd
    obtain ⟨forms, hf, he⟩ := ih hd.2 (.inr hr.stops)
    have ht : before.takeWhile isAlphanumeric = [] := by
      rcases hb with hb | hb
      case inl =>
        have hl : LongestRun isAlphanumeric [] before := ⟨by simp, hb⟩
        exact hl.takeWhile_append
      case inr =>
        obtain ⟨c, run, rfl⟩ := List.exists_cons_of_ne_nil hn
        exact absurd (hr.all c List.mem_cons_self) (hb c rfl)
    have hl : LongestRun isAlphanumeric (lowercaseBetween before rest run)
        (lowercaseAfter (run.reverse ++ before) rest) :=
      ⟨isAlphanumeric_lowercaseBetween hd.1 hr.all, not_isAlphanumeric_lowercaseAfter hr.stops⟩
    rw [lowercaseAfter_append]
    refine ⟨_, .run (lowercaseBetween_ne_nil hd.1 hn) hl hf, ?_⟩
    rw [List.map_cons, List.cons.injEq, he, sigmasAgree_run hr, ht, lowercase]

theorem mem_lowercaseAfter_of_dotted (h : '\u0130' ∈ cs) : '\u0307' ∈ lowercaseAfter before cs := by
  induction cs generalizing before
  case nil => simp at h
  case cons c cs ih =>
    rw [lowercaseAfter, List.mem_append]
    rcases List.mem_cons.1 h with rfl | h
    case inl => exact .inl (List.mem_of_elem_eq_true rfl)
    case inr => exact .inr (ih h)

-- The words of a small form are cut out of it as they stand.
theorem words_lowercase (h : LongestRuns isAlphanumeric runs (lowercase cs)) :
    words (String.ofList (lowercase cs)) = runs.map String.ofList := by
  have hs : ∀ c ∈ lowercase cs, isCapital c = false := fun _ => isCapital_of_mem_lowercaseAfter
  rw [words, String.toList_ofList, pieces_of_longestRuns h]
  refine List.map_congr_left fun run hr => ?_
  rw [lowercase, lowercaseAfter_of_small fun c hc => hs c (h.exists_mem_iff.1 ⟨run, hr, hc⟩).1]

-- A text has the words of its small form just if lower-casing keeps its words.
theorem words_lowercase_iff (text : String) :
    words (String.ofList (lowercase text.toList)) = words text ↔ KeepsWords text.toList := by
  obtain ⟨runs, h⟩ := LongestRuns.exists_runs isAlphanumeric text.toList
  by_cases hd : '\u0130' ∈ text.toList
  case neg =>
    have hb : ∀ c ∈ ([] : List Char).head?, ¬isAlphanumeric c := by simp
    obtain ⟨forms, hf, he⟩ := longestRuns_lowercaseAfter h hd (.inl hb)
    have hi : runs.map (fun run => String.ofList (lowercase run)) =
        (runs.map lowercase).map String.ofList := by
      rw [List.map_map]
      rfl
    rw [words_lowercase hf, words, pieces_of_longestRuns h, hi,
      List.map_inj_right fun _ _ => String.ofList_injective, he]
    exact ⟨.mk hd, KeepsWords.sigmas⟩
  case pos =>
    refine ⟨fun hw => ?_, fun hk => absurd hd hk.dotless⟩
    -- A word has the dot, but the dot is no letter.
    obtain ⟨run, hr, hc⟩ := h.exists_mem_iff.2 ⟨hd, isAlphanumeric_dotted.1⟩
    have hm : String.ofList (lowercase run) ∈ words text := by
      rw [words, pieces_of_longestRuns h]
      exact List.mem_map.2 ⟨run, hr, rfl⟩
    obtain ⟨forms, hf⟩ := LongestRuns.exists_runs isAlphanumeric (lowercase text.toList)
    rw [← hw, words_lowercase hf] at hm
    obtain ⟨form, hform, he⟩ := List.mem_map.1 hm
    have hdot : '\u0307' ∈ lowercase run := mem_lowercaseAfter_of_dotted hc
    rw [← String.ofList_injective he] at hdot
    exact absurd ((hf.ne_nil_and_all form hform).2 _ hdot) isAlphanumeric_dotted.2

end Words

end EntitySearch
