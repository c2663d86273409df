import EntitySearch.Proofs.Expression.Unplaced
import EntitySearch.Proofs.Query.Compile
import EntitySearch.Proofs.Token.Outline

namespace EntitySearch

-- Holds of outcomes that are the same, errors being so if they are of one kind and have one text.
inductive SameOutcome {α : Type} : Except SyntaxError α → Except SyntaxError α → Prop
  | ok (a : α) :
    SameOutcome (.ok a) (.ok a)
  | error {e e' : SyntaxError} :
    (e.kind = e'.kind) → (e.text = e'.text) → SameOutcome (.error e) (.error e')

-- Holds of the source texts that are cut into tokens of the same kinds and contents, apart from
-- blanks and quote marks.
def SameOutline (s t : String) : Prop :=
  ∃ ts us, (tokenize s = .ok ts) ∧ (tokenize t = .ok us) ∧ (outline ts = outline us)

section Unplaced

def RejectedName.unplaced (e : RejectedName) : RejectedName :=
  { e with word := e.word.unplaced }

theorem mapError_bind {ε ε' α β : Type} (g : ε → ε') (x : Except ε α) (f : α → Except ε β) :
    (x >>= f).mapError g = x.mapError g >>= fun a => (f a).mapError g := by
  cases x <;> rfl

theorem Word.lookup_unplaced {α : Type} (role : NameRole) (meaning? : String → Option α)
    (w : Word) :
    w.unplaced.lookup role meaning? = (w.lookup role meaning?).mapError .unplaced := by
  cases h : meaning? w.content <;> simp [lookup, Word.unplaced, h] <;> rfl

theorem ofArguments_unplaced (args : List (Word × Word)) :
    Params.ofArguments (args.map fun a => (a.1.unplaced, a.2.unplaced)) =
      Params.ofArguments args := by
  rw [Params.ofArguments, List.map_map]
  rfl

variable {A C F : Type} (v : Vocabulary A C F)

mutual

theorem queryOfTerm_unplaced (t : Term) :
    v.queryOfTerm t.unplaced = (v.queryOfTerm t).mapError .unplaced := by
  cases t <;> rw [Term.unplaced, Vocabulary.queryOfTerm, Vocabulary.queryOfTerm]
  case group p inner => exact queryOfChain_unplaced inner
  case fullText      => rfl
  case property      => rfl
  case function p name args =>
    rw [mapError_bind, Word.lookup_unplaced, ofArguments_unplaced]
    rfl
  case aggregate p name contents =>
    rw [mapError_bind, Word.lookup_unplaced, queriesOfChains_unplaced contents]
    simp only [mapError_bind]
    rfl

theorem queryOfChain_unplaced (c : Chain) :
    v.queryOfChain c.unplaced = (v.queryOfChain c).mapError .unplaced := by
  cases c <;> rw [Chain.unplaced, Vocabulary.queryOfChain, Vocabulary.queryOfChain]
  case operand t => exact queryOfTerm_unplaced t
  case joined before connective t =>
    rw [queryOfChain_unplaced before, Word.lookup_unplaced, queryOfTerm_unplaced t]
    simp only [mapError_bind]
    rfl

theorem queriesOfChains_unplaced (cs : List Chain) :
    v.queriesOfChains (Chain.unplacedAll cs) = (v.queriesOfChains cs).mapError .unplaced := by
  cases cs <;> simp only [Chain.unplacedAll, Vocabulary.queriesOfChains]
  case nil => rfl
  case cons c cs =>
    rw [queryOfChain_unplaced c, queriesOfChains_unplaced cs]
    simp only [mapError_bind]
    rfl

end

theorem query_unplaced (cs : List Chain) :
    v.query (Chain.unplacedAll cs) = (v.query cs).mapError .unplaced := by
  rw [Vocabulary.query, queriesOfChains_unplaced, Vocabulary.query, mapError_bind]
  rfl

end Unplaced

section Compile

variable {A C F : Type} {v : Vocabulary A C F} {s t : String}

-- Expressions that differ in places alone stand for the same query, or have the same unknown name.
theorem query_of_unplacedAll {cs cs' : List Chain}
    (h : Chain.unplacedAll cs = Chain.unplacedAll cs') :
    (∃ q, (v.query cs = .ok q) ∧ (v.query cs' = .ok q)) ∨
    ∃ e e', (v.query cs = .error e) ∧ (v.query cs' = .error e') ∧ (e.role = e'.role) ∧
      (e.word.content = e'.word.content) := by
  have hq : (v.query cs).mapError RejectedName.unplaced =
      (v.query cs').mapError RejectedName.unplaced := by
    rw [← query_unplaced, h, query_unplaced]
  cases hc : v.query cs <;> cases hc' : v.query cs' <;> rw [hc, hc'] at hq
  case ok.ok       => exact .inl ⟨_, rfl, congrArg _ (Except.ok.inj hq).symm⟩
  case error.error e e' =>
    have hu : e.unplaced = e'.unplaced := Except.error.inj hq
    simp only [RejectedName.unplaced, Word.unplaced, RejectedName.mk.injEq, Word.mk.injEq] at hu
    exact .inr ⟨e, e', rfl, rfl, hu.1, hu.2.1⟩
  all_goals cases hq

-- Atoms that differ in places alone are read as such expressions, or have the same fault.
theorem ofAtoms_of_map_kind {as bs : List Atom} (h : as.map Atom.kind = bs.map Atom.kind) :
    (∃ cs ds, (Expression.ofAtoms as = .ok cs) ∧ (Expression.ofAtoms bs = .ok ds) ∧
      (Chain.unplacedAll cs = Chain.unplacedAll ds)) ∨
    ∃ f g, (Expression.ofAtoms as = .error f) ∧ (Expression.ofAtoms bs = .error g) ∧
      (f.fault = g.fault) := by
  have ha := Expression.ofAtoms_unplaced as
  rw [map_unplaced_eq_iff.2 h, Expression.ofAtoms_unplaced bs] at ha
  cases hc : Expression.ofAtoms as <;> cases hd : Expression.ofAtoms bs <;> rw [hc, hd] at ha
  case ok.ok cs ds => exact .inl ⟨cs, ds, rfl, rfl, (Except.ok.inj ha).symm⟩
  case error.error f g =>
    have hu : g.unplaced = f.unplaced := Except.error.inj ha
    refine .inr ⟨f, g, rfl, rfl, ?_⟩
    rw [← f.fault_unplaced, ← hu, g.fault_unplaced]
  all_goals cases ha

-- Where a fault is makes no difference to its kind and text.
theorem sameOutcome_ofFault {α : Type} {f g : SyntaxFault} {p q : Position} (h : f = g) :
    @SameOutcome α (.error (.ofFault f s p)) (.error (.ofFault g t q)) := by
  subst h
  exact .error rfl rfl

theorem sameOutcome_of_outline (v : Vocabulary A C F) (h : SameOutline s t) :
    SameOutcome (compile v s) (compile v t) := by
  obtain ⟨ts, us, hs, ht, ho⟩ := h
  rw [← map_kind_atoms, ← map_kind_atoms] at ho
  have hps := parse_of_tokenize hs
  have hpt := parse_of_tokenize ht
  cases ofAtoms_of_map_kind ho
  case inr h =>
    obtain ⟨f, g, hf, hg, he⟩ := h
    rw [hf] at hps
    rw [hg] at hpt
    rw [compile_of_parse_error hps, compile_of_parse_error hpt]
    exact sameOutcome_ofFault he
  case inl h =>
    obtain ⟨cs, ds, hc, hd, hu⟩ := h
    rw [hc] at hps
    rw [hd] at hpt
    rw [compile_of_parse hps, compile_of_parse hpt]
    cases query_of_unplacedAll (v := v) hu
    case inl h =>
      obtain ⟨q, hq, hq'⟩ := h
      rw [hq, hq']
      exact .ok q
    case inr h =>
      obtain ⟨e, e', he, he', hr, hw⟩ := h
      rw [he, he']
      exact sameOutcome_ofFault (by rw [hr, hw])

theorem sameOutline_of_blanks {source blanks : String} {before after : List Token}
    (h : tokenize source = .ok (before ++ after)) (hn : blanks ≠ "")
    (hb : ∀ c ∈ blanks.toList, isBlank c) (hu : after = [] → ¬EndsUnclosed source) :
    SameOutline source (String.join (before.map Token.text) ++ blanks ++
      String.join (after.map Token.text)) := by
  have hne : blanks.toList ≠ [] := fun he => hn (String.toList_inj.1 he)
  have ho : Outlines (String.join (before.map Token.text) ++ blanks ++
      String.join (after.map Token.text)).toList (outline (before ++ after)) := by
    have := outlines_blanks_between h hne hb hu
    simpa [String.toList_join, List.flatMap_map] using this
  obtain ⟨us, hus, ho⟩ := outlines_iff.1 ho
  exact ⟨_, us, h, hus, ho.symm⟩

-- Neither blanks nor quote marks matter: source texts with the same outline compile to the same
-- query, or both fail with the same kind and text; and blanks at a boundary between tokens, at the
-- start or at the end give a text with the same outline, but for the end of an unclosed quote.
theorem compile_layout (v : Vocabulary A C F) :
    (∀ s t, SameOutline s t → SameOutcome (compile v s) (compile v t)) ∧
    ∀ source before after blanks, tokenize source = .ok (before ++ after) →
      (blanks ≠ "") → (∀ c ∈ blanks.toList, isBlank c) → (after = [] → ¬EndsUnclosed source) →
      SameOutline source (String.join (before.map Token.text) ++ blanks ++
        String.join (after.map Token.text)) :=
  ⟨fun _ _ h => sameOutcome_of_outline v h,
    fun _ _ _ _ h hn hb hu => sameOutline_of_blanks h hn hb hu⟩

-- Quotes of either kind before a connective without an operand.
theorem compile_layout_quotes :
    let v : Vocabulary String String String := .ofNames "every" [] ["and"] []
    let before : List Token := [
      { kind := .value "a" (some .single), start := ⟨1, 1, 0⟩, stop := ⟨1, 4, 3⟩, text := "'a'" }]
    let after : List Token := [
      { kind := .symbol .minus, start := ⟨1, 4, 3⟩, stop := ⟨1, 5, 4⟩, text := "-" },
      { kind := .value "and" none, start := ⟨1, 5, 4⟩, stop := ⟨1, 8, 7⟩, text := "and" }]
    (SameOutline "'a'-and" "\"a\"-and") ∧
    (SameOutcome (compile v "'a'-and") (compile v "\"a\"-and")) ∧
    (tokenize "'a'-and" = .ok (before ++ after)) ∧
    (SameOutline "'a'-and" (String.join (before.map Token.text) ++ "\n\t" ++
      String.join (after.map Token.text))) := by
  intro v before after
  have hs : tokenize "'a'-and" = .ok (before ++ after) := by decide +kernel
  let first : Token :=
    { kind := .value "a" (some .double), start := ⟨1, 1, 0⟩, stop := ⟨1, 4, 3⟩, text := "\"a\"" }
  have ht : tokenize "\"a\"-and" = .ok (first :: after) := by decide +kernel
  have ho : SameOutline "'a'-and" "\"a\"-and" := ⟨_, _, hs, ht, rfl⟩
  refine ⟨ho, (compile_layout v).1 _ _ ho, hs, ?_⟩
  exact (compile_layout v).2 _ before after "\n\t" hs (by decide)
    (List.all_eq_true.1 (by decide)) (by simp [after])

end Compile

end EntitySearch
