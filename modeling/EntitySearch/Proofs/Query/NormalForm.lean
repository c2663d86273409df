import EntitySearch.Proofs.Text.Quoted
import EntitySearch.Query.Printer

namespace EntitySearch

-- A word that is read as the value that it is.
structure IsBareWord (cs : List Char) : Prop where
  nonempty : cs ≠ []
  bare     : ∀ c ∈ cs, isBareChar c
  head     : ∀ c ∈ cs.head?, c ≠ '/' ∧ ∀ q : QuoteMark, c ≠ q.toChar

theorem needsQuotes_eq_false_iff {cs : List Char} : needsQuotes cs = false ↔ IsBareWord cs := by
  have hq (c : Char) : QuoteMark.ofChar? c = none ↔ ∀ q : QuoteMark, c ≠ q.toChar := by
    simp only [Option.eq_none_iff_forall_ne_some, ne_eq, QuoteMark.ofChar?_eq_some_iff,
      eq_comm (a := c)]
  cases cs
  case nil =>
    simp only [needsQuotes, Bool.true_eq_false, false_iff]
    exact fun h => h.nonempty rfl
  case cons c cs =>
    simp only [needsQuotes, Bool.or_eq_false_iff, decide_eq_false_iff_not,
      Option.isSome_eq_false_iff, Option.isNone_iff_eq_none, hq, List.any_eq_false,
      Bool.not_eq_true, Bool.not_eq_false']
    constructor
    case mp =>
      rintro ⟨⟨hn, hm⟩, hb⟩
      exact ⟨List.cons_ne_nil _ _, hb, by rintro _ ⟨rfl⟩; exact ⟨hn, hm⟩⟩
    case mpr =>
      intro h
      exact ⟨h.head c rfl, h.bare⟩

-- The value that is read where a value was spelled. Between quote marks, every odd run of
-- backslashes before such a mark or at the end has become longer by one.
def normValue (value : String) : String :=
  if needsQuotes value.toList then
    String.ofList (Quoted.pad (quoteFor value.toList).toChar value.toList)
  else value

-- `x \`
example : normValue "x \\" = "x \\\\" := by
  decide

section Value

variable {q : Char} {cs : List Char}

theorem mem_padAfter {c : Char} (odd : Bool) (h : c ∈ cs) : c ∈ Quoted.padAfter q odd cs := by
  fun_induction Quoted.padAfter q odd cs <;> simp_all
  case case3 ih => exact h.imp_right ih
  case case4 ih => exact .inr (h.imp_right ih)
  case case5 ih => exact h.imp_right ih

-- Padding leaves the first character in its place and adds backslashes only.
theorem needsQuotes_pad (h : needsQuotes cs) : needsQuotes (Quoted.pad q cs) := by
  cases cs
  case nil => exact h
  case cons c cs =>
    have hp : ∃ ds, Quoted.pad q (c :: cs) = c :: ds := by
      by_cases hc : c = '\\' <;> simp [Quoted.pad, Quoted.padAfter, hc]
    have ha (hb : (c :: cs).any (!isBareChar ·)) :
        (Quoted.pad q (c :: cs)).any (!isBareChar ·) := by
      obtain ⟨d, hd, hb⟩ := List.any_eq_true.1 hb
      exact List.any_eq_true.2 ⟨d, mem_padAfter false hd, hb⟩
    obtain ⟨ds, hp⟩ := hp
    simp only [hp, needsQuotes, Bool.or_eq_true] at h ha ⊢
    exact h.imp_right ha

-- A padded value gets the marks for which it was padded.
theorem quoteFor_pad (cs : List Char) :
    quoteFor (Quoted.pad (quoteFor cs).toChar cs) = quoteFor cs := by
  cases hq : quoteFor cs
  case single =>
    simp only [quoteFor, Bool.and_eq_true, Bool.not_eq_true', ite_eq_left_iff, reduceCtorEq,
      imp_false, not_not] at hq
    have hp : Quoted.pad '\'' cs = cs ++ if Quoted.EndsOdd cs then ['\\'] else [] :=
      Quoted.pad_eq_of_not_hasOddRun hq.2
    have hr (q : Char) : Quoted.hasOddRun q (Quoted.pad '\'' cs) = Quoted.hasOddRun q cs := by
      rw [hp]
      split
      case isTrue  => exact Quoted.hasOddRunAfter_append_singleton false cs
      case isFalse => rw [List.append_nil]
    simp [quoteFor, QuoteMark.toChar, hr, hq]
  case double =>
    have := Quoted.hasOddRunAfter_padAfter (q := '"') false cs
    simp [quoteFor, QuoteMark.toChar, Quoted.hasOddRun, Quoted.pad, this]

-- A value is spelled as the one that is read there.
theorem spellValue_normValue (value : String) :
    spellValue (normValue value) = spellValue value := by
  cases hn : needsQuotes value.toList
  case false => simp [normValue, hn]
  case true =>
    have hn' := needsQuotes_pad (q := (quoteFor value.toList).toChar) hn
    simp [normValue, spellValue, hn, hn', quoteFor_pad, Quoted.encode_pad]

end Value

-- Parameters without a value go, and the others come in their order. Of a key that is repeated
-- now, the first place and the last value stay.
def Params.norm (ps : Params) : Params :=
  .ofList ((ps.entries.filter (·.2 ≠ "")).map fun p => (normValue p.1, normValue p.2))

-- Holds of the things that a vocabulary means by their own names, if these can be read.
structure Accepted {α : Type} [Named α] (meaning? : String → Option α) (a : α) : Prop where
  bare  : IsBareWord (Named.name a).toList
  means : meaning? (Named.name a) = some a

-- A path as it is read: a slash before ASCII letters, digits, underscores and slashes.
def IsPath (path : String) : Prop :=
  ∃ names, (path.toList = '/' :: names) ∧ (∀ c ∈ names, isPathChar c)

namespace Query

variable {A C F : Type}

mutual

-- A query with its values and its parameters changed.
def map (f : String → String) (g : Params → Params) : Query A C F → Query A C F
  | fullText term           => fullText (f term)
  | property path value     => property path (f value)
  | aggregate kind children => aggregate kind (mapAll f g children)
  | joined kind left right  => joined kind (left.map f g) (right.map f g)
  | function name params    => function name (g params)

def mapAll (f : String → String) (g : Params → Params) : List (Query A C F) → List (Query A C F)
  | []      => []
  | q :: qs => q.map f g :: mapAll f g qs

end

theorem mapAll_eq_map (f : String → String) (g : Params → Params) (qs : List (Query A C F)) :
    mapAll f g qs = qs.map (map f g) := by
  induction qs
  case nil          => rfl
  case cons q qs ih => simp [mapAll, ih]

theorem map_aggregate (f : String → String) (g : Params → Params) (kind : A)
    (children : List (Query A C F)) :
    (aggregate kind children).map f g = aggregate kind (children.map (map f g)) :=
  congrArg (aggregate kind) (mapAll_eq_map f g children)

def norm (q : Query A C F) : Query A C F :=
  q.map normValue Params.norm

theorem norm_fullText (term : String) :
    (fullText term : Query A C F).norm = fullText (normValue term) := rfl

theorem norm_property (path value : String) :
    (property path value : Query A C F).norm = property path (normValue value) := rfl

theorem norm_aggregate (kind : A) (children : List (Query A C F)) :
    (aggregate kind children).norm = aggregate kind (children.map norm) :=
  map_aggregate normValue Params.norm kind children

theorem norm_joined (kind : C) (left right : Query A C F) :
    (joined kind left right).norm = joined kind left.norm right.norm := rfl

theorem norm_function (name : F) (params : Params) :
    (function name params : Query A C F).norm = function name params.norm := rfl

variable [Named A] [Named C] [Named F]

-- Holds of the queries whose names a vocabulary accepts, and whose paths can be read.
inductive Spellable (v : Vocabulary A C F) : Query A C F → Prop
  | fullText {term : String} :
    Spellable v (.fullText term)
  | property {path value : String} :
    (IsPath path) → Spellable v (.property path value)
  | aggregate {kind : A} {children : List (Query A C F)} :
    (Accepted v.aggregate? kind) → (∀ q ∈ children, Spellable v q) →
    Spellable v (.aggregate kind children)
  | joined {kind : C} {left right : Query A C F} :
    (Accepted v.connective? kind) → (Spellable v left) → (Spellable v right) →
    Spellable v (.joined kind left right)
  | function {name : F} {params : Params} :
    (Accepted v.function? name) → Spellable v (.function name params)

-- The queries that are spelled when that around them is not.
def contents : Query A C F → List (Query A C F)
  | aggregate _ children => children
  | q                    => [q]

end Query

end EntitySearch
