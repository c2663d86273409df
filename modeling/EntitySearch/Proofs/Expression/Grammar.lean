import EntitySearch.Expression.Atom
import Mathlib.Data.List.Forall2

namespace EntitySearch

-- What the grammar tells tokens apart by.
inductive Terminal
  | symbol (symbol : Symbol)
  | path
  | value
  deriving DecidableEq

def TokenKind.terminal? : TokenKind → Option Terminal
  | .symbol s => some (.symbol s)
  | .path _   => some .path
  | .space    => none
  | .value .. => some .value

inductive Nonterminal
  | chains
  | chain
  | links
  | term
  | arguments

-- The productions of the grammar:
--
--   chains    → chain*
--   chain     → term links
--   links     → ('-' value term)*
--   term      → '(' chain ')' | '$' value '(' chains ')' | '%' value '(' arguments ')'
--             | path '=' value | value
--   arguments → (value '=' value)*
inductive Derives : Nonterminal → List Terminal → Prop
  | noChains :
    Derives .chains []
  | chains {u w : List Terminal} :
    (Derives .chain u) → (Derives .chains w) → Derives .chains (u ++ w)
  | chain {u w : List Terminal} :
    (Derives .term u) → (Derives .links w) → Derives .chain (u ++ w)
  | noLinks :
    Derives .links []
  | links {u w : List Terminal} :
    (Derives .term u) → (Derives .links w) →
    Derives .links (.symbol .minus :: .value :: (u ++ w))
  | group {u : List Terminal} :
    (Derives .chain u) → Derives .term (.symbol .opening :: (u ++ [.symbol .closing]))
  | aggregate {u : List Terminal} :
    (Derives .chains u) →
    Derives .term (.symbol .dollar :: .value :: .symbol .opening :: (u ++ [.symbol .closing]))
  | function {u : List Terminal} :
    (Derives .arguments u) →
    Derives .term (.symbol .percent :: .value :: .symbol .opening :: (u ++ [.symbol .closing]))
  | property :
    Derives .term [.path, .symbol .equals, .value]
  | fullText :
    Derives .term [.value]
  | noArguments :
    Derives .arguments []
  | arguments {u : List Terminal} :
    (Derives .arguments u) →
    Derives .arguments (.value :: .symbol .equals :: .value :: u)

theorem Word.eq_iff {v w : Word} : v = w ↔ v.content = w.content ∧ v.position = w.position := by
  cases v
  cases w
  simp

-- What an expression knows of a token that it is made of. The places of some symbols are not kept.
structure Piece where
  kind   : TokenKind
  place? : Option Position

namespace Piece

def path (w : Word) : Piece where
  kind   := .path w.content
  place? := some w.position

def value (w : Word) : Piece where
  kind   := .value w.content none
  place? := some w.position

-- A symbol whose place is kept.
def symbolAt (s : Symbol) (p : Position) : Piece where
  kind   := .symbol s
  place? := some p

-- A symbol whose place is not kept.
def symbol (s : Symbol) : Piece where
  kind   := .symbol s
  place? := none

-- Holds if an atom is what is known of it.
def Fits (p : Piece) (a : Atom) : Prop :=
  (a.kind = p.kind) ∧ ∀ q ∈ p.place?, a.position = q

theorem fits_path {w : Word} {a : Atom} : (path w).Fits a ↔ a = .path w := by
  cases a <;> simp [Fits, path, Atom.kind, Atom.position, Word.eq_iff]

theorem fits_value {w : Word} {a : Atom} : (value w).Fits a ↔ a = .value w := by
  cases a <;> simp [Fits, value, Atom.kind, Atom.position, Word.eq_iff]

theorem fits_symbolAt {s : Symbol} {p : Position} {a : Atom} :
    (symbolAt s p).Fits a ↔ a = .symbol s p := by
  cases a <;> simp [Fits, symbolAt, Atom.kind, Atom.position]

theorem fits_symbol {s : Symbol} {a : Atom} : (symbol s).Fits a ↔ ∃ p, a = .symbol s p := by
  cases a <;> simp [Fits, symbol, Atom.kind]

end Piece

-- Atoms that are what is known of them, one by one.
def Yields (ps : List Piece) (as : List Atom) : Prop :=
  List.Forall₂ Piece.Fits ps as

section Yields

variable {ps qs : List Piece} {as : List Atom}

@[simp]
theorem yields_nil : Yields [] as ↔ as = [] :=
  List.forall₂_nil_left_iff

theorem yields_cons {p : Piece} :
    Yields (p :: ps) as ↔ ∃ a bs, p.Fits a ∧ Yields ps bs ∧ as = a :: bs :=
  List.forall₂_cons_left_iff

@[simp]
theorem yields_path {w : Word} :
    Yields (.path w :: ps) as ↔ ∃ bs, Yields ps bs ∧ as = .path w :: bs := by
  simp [yields_cons, Piece.fits_path]

@[simp]
theorem yields_value {w : Word} :
    Yields (.value w :: ps) as ↔ ∃ bs, Yields ps bs ∧ as = .value w :: bs := by
  simp [yields_cons, Piece.fits_value]

@[simp]
theorem yields_symbolAt {s : Symbol} {p : Position} :
    Yields (.symbolAt s p :: ps) as ↔ ∃ bs, Yields ps bs ∧ as = .symbol s p :: bs := by
  simp [yields_cons, Piece.fits_symbolAt]

@[simp]
theorem yields_symbol {s : Symbol} :
    Yields (.symbol s :: ps) as ↔ ∃ p bs, Yields ps bs ∧ as = .symbol s p :: bs := by
  simp only [yields_cons, Piece.fits_symbol]
  constructor
  case mp  => rintro ⟨_, bs, ⟨p, rfl⟩, h⟩; exact ⟨p, bs, h⟩
  case mpr => rintro ⟨p, bs, h⟩; exact ⟨_, bs, ⟨p, rfl⟩, h⟩

@[simp]
theorem yields_append :
    Yields (ps ++ qs) as ↔ ∃ bs cs, Yields ps bs ∧ Yields qs cs ∧ as = bs ++ cs := by
  induction ps generalizing as
  case nil => simp
  case cons p ps ih =>
    simp only [List.cons_append, yields_cons, ih]
    constructor
    case mp =>
      rintro ⟨a, _, ha, ⟨bs, cs, hb, hc, rfl⟩, rfl⟩
      exact ⟨a :: bs, cs, ⟨a, bs, ha, hb, rfl⟩, hc, rfl⟩
    case mpr =>
      rintro ⟨_, cs, ⟨a, bs, ha, hb, rfl⟩, hc, rfl⟩
      exact ⟨a, bs ++ cs, ha, ⟨bs, cs, hb, hc, rfl⟩, rfl⟩

theorem yields_closed (h : Yields ps as) (p : Position) :
    Yields (ps ++ [.symbol .closing]) (as ++ [.symbol .closing p]) :=
  yields_append.2 ⟨as, _, h, by simp, rfl⟩

-- The same behind a first symbol and a name.
theorem yields_bracketed (h : Yields ps as) (s : Symbol) (name : Word) (p q r : Position) :
    Yields (.symbolAt s p :: .value name :: .symbol .opening :: (ps ++ [.symbol .closing]))
      (.symbol s p :: .value name :: .symbol .opening q :: (as ++ [.symbol .closing r])) := by
  rw [yields_symbolAt]
  refine ⟨_, yields_value.2 ⟨_, yields_symbol.2 ⟨q, _, yields_closed h r, rfl⟩, rfl⟩, rfl⟩

end Yields

-- The tokens of arguments in order.
def yieldArguments : List (Word × Word) → List Piece
  | []              => []
  | (k, v) :: arguments =>
    .value k :: .symbol .equals :: .value v :: yieldArguments arguments

mutual

-- The tokens that a term is made of, in the order of the text.
def Term.yield : Term → List Piece
  | .group p inner => .symbolAt .opening p :: (inner.yield ++ [.symbol .closing])
  | .fullText term => [.value term]
  | .property path value => [.path path, .symbol .equals, .value value]
  | .function p name arguments =>
    .symbolAt .percent p :: .value name :: .symbol .opening ::
      (yieldArguments arguments ++ [.symbol .closing])
  | .aggregate p name contents =>
    .symbolAt .dollar p :: .value name :: .symbol .opening ::
      (Chain.yieldAll contents ++ [.symbol .closing])

def Chain.yield : Chain → List Piece
  | .operand t => t.yield
  | .joined before connective t =>
    before.yield ++ .symbol .minus :: .value connective :: t.yield

def Chain.yieldAll : List Chain → List Piece
  | []      => []
  | c :: cs => c.yield ++ Chain.yieldAll cs

end

theorem yieldArguments_append (left right : List (Word × Word)) :
    yieldArguments (left ++ right) = yieldArguments left ++ yieldArguments right := by
  induction left
  case nil         => rfl
  case cons a _ ih => simp [yieldArguments, ih]

theorem yieldAll_append (cs ds : List Chain) :
    Chain.yieldAll (cs ++ ds) = Chain.yieldAll cs ++ Chain.yieldAll ds := by
  induction cs
  case nil          => rfl
  case cons c cs ih => simp [Chain.yieldAll, ih]

section Tokens

def TokenKind.unquoted : TokenKind → TokenKind
  | .value content _ => .value content none
  | kind             => kind

-- Holds if a token is what is known of it. Whether a value was quoted is not known.
def Piece.Describes (p : Piece) (t : Token) : Prop :=
  (t.kind.unquoted = p.kind) ∧ ∀ q ∈ p.place?, t.start = q

-- Holds if the tokens that are no blanks are those that some expressions are made of, each once and
-- in the same order.
def MadeOf (cs : List Chain) (ts : List Token) : Prop :=
  List.Forall₂ Piece.Describes (Chain.yieldAll cs) (ts.filter (!·.isSpace))

theorem Token.position_of_atom? {t : Token} {a : Atom} (h : t.atom? = some a) :
    a.position = t.start := by
  unfold atom? at h
  split at h <;> cases h <;> rfl

theorem Token.atom?_cases (t : Token) :
    (t.isSpace ∧ t.atom? = none) ∨
    ∃ a, ¬t.isSpace ∧ t.atom? = some a ∧ ∀ p : Piece, p.Describes t ↔ p.Fits a := by
  obtain ⟨kind, start, stop, text⟩ := t
  cases kind <;> simp [Token.isSpace, Token.atom?, Piece.Describes, Piece.Fits, Atom.kind,
    Atom.position, TokenKind.unquoted]

theorem forall₂_describes_iff {ps : List Piece} {ts : List Token} :
    List.Forall₂ Piece.Describes ps (ts.filter (!·.isSpace)) ↔
      Yields ps (ts.filterMap Token.atom?) := by
  induction ts generalizing ps
  case nil => simp [Yields]
  case cons t ts ih =>
    cases t.atom?_cases
    case inl h =>
      obtain ⟨hs, ha⟩ := h
      simpa [hs, ha] using ih
    case inr h =>
      obtain ⟨a, hs, ha, hf⟩ := h
      rw [List.filter_cons_of_pos (by simpa using hs), List.filterMap_cons_some ha, Yields]
      simp only [List.forall₂_cons_right_iff, hf, ih, Yields]

theorem madeOf_iff {cs : List Chain} {ts : List Token} :
    MadeOf cs ts ↔ Yields (Chain.yieldAll cs) (ts.filterMap Token.atom?) :=
  forall₂_describes_iff

end Tokens

section Derivation

-- The terminals of the tokens that something is made of.
def terminals (ps : List Piece) : List Terminal :=
  ps.filterMap (·.kind.terminal?)

@[simp]
theorem terminals_nil : terminals [] = [] := rfl

@[simp]
theorem terminals_append (ps qs : List Piece) :
    terminals (ps ++ qs) = terminals ps ++ terminals qs := by
  simp [terminals]

@[simp]
theorem terminals_path (w : Word) (ps : List Piece) :
    terminals (.path w :: ps) = .path :: terminals ps := rfl

@[simp]
theorem terminals_value (w : Word) (ps : List Piece) :
    terminals (.value w :: ps) = .value :: terminals ps := rfl

@[simp]
theorem terminals_symbolAt (s : Symbol) (p : Position) (ps : List Piece) :
    terminals (.symbolAt s p :: ps) = .symbol s :: terminals ps := rfl

@[simp]
theorem terminals_symbol (s : Symbol) (ps : List Piece) :
    terminals (.symbol s :: ps) = .symbol s :: terminals ps := rfl

namespace Derives

variable {u w : List Terminal}

theorem links_append (h : Derives .links u) (hw : Derives .links w) : Derives .links (u ++ w) := by
  generalize hn : Nonterminal.links = n at h
  induction h <;> cases hn
  case noLinks          => exact hw
  case links ht _ _ ih  => simpa using Derives.links ht (ih rfl)

theorem chain_append (h : Derives .chain u) (hw : Derives .links w) : Derives .chain (u ++ w) := by
  cases h
  case chain ht hu => simpa using Derives.chain ht (hu.links_append hw)

end Derives

theorem derives_yieldArguments (arguments : List (Word × Word)) :
    Derives .arguments (terminals (yieldArguments arguments)) := by
  induction arguments
  case nil         => exact .noArguments
  case cons a _ ih => exact .arguments ih

mutual

theorem Term.derives_yield (t : Term) : Derives .term (terminals t.yield) := by
  cases t <;> simp only [Term.yield, terminals_symbolAt, terminals_symbol, terminals_path,
    terminals_value, terminals_append, terminals_nil]
  case group p inner              => exact .group inner.derives_yield
  case fullText                   => exact .fullText
  case property                   => exact .property
  case function p name arguments  => exact .function (derives_yieldArguments arguments)
  case aggregate p name contents  => exact .aggregate (Chain.derives_yieldAll contents)

theorem Chain.derives_yield (c : Chain) : Derives .chain (terminals c.yield) := by
  cases c <;> simp only [Chain.yield, terminals_append, terminals_symbol, terminals_value]
  case operand t => simpa using Derives.chain t.derives_yield .noLinks
  case joined before connective t =>
    exact before.derives_yield.chain_append (by simpa using Derives.links t.derives_yield .noLinks)

theorem Chain.derives_yieldAll (cs : List Chain) :
    Derives .chains (terminals (Chain.yieldAll cs)) := by
  cases cs <;> simp only [Chain.yieldAll, terminals_append, terminals_nil]
  case nil       => exact .noChains
  case cons c cs => exact .chains c.derives_yield (Chain.derives_yieldAll cs)

end

end Derivation

section Realization

def Atom.terminal : Atom → Terminal
  | .symbol s _ => .symbol s
  | .path _     => .path
  | .value _    => .value

theorem map_terminal_atoms (ts : List Token) :
    (ts.filterMap Token.atom?).map Atom.terminal = ts.filterMap (·.kind.terminal?) := by
  rw [List.map_filterMap]
  congr 1
  funext t
  obtain ⟨kind, start, stop, text⟩ := t
  cases kind <;> rfl

theorem terminals_of_yields {ps : List Piece} {as : List Atom} (h : Yields ps as) :
    terminals ps = as.map Atom.terminal := by
  induction h
  case nil => rfl
  case cons p a _ _ hf _ ih =>
    have ha : p.kind.terminal? = some a.terminal := by
      rw [← hf.1]
      cases a <;> rfl
    simpa [terminals, ha] using ih

-- Holds of atoms that something is made of, which the grammar might derive. Links carry on whatever
-- chain stands before them.
def Realized : Nonterminal → List Atom → Prop
  | .chains, as    => ∃ cs, Yields (Chain.yieldAll cs) as
  | .chain, as     => ∃ c : Chain, Yields c.yield as
  | .links, as     =>
    ∀ (before : Chain) bs, Yields before.yield bs → ∃ c : Chain, Yields c.yield (bs ++ as)
  | .term, as      => ∃ t : Term, Yields t.yield as
  | .arguments, as => ∃ arguments, Yields (yieldArguments arguments) as

theorem Atom.exists_symbol {a : Atom} {s : Symbol} (h : a.terminal = .symbol s) :
    ∃ p, a = .symbol s p := by
  cases a <;> simp_all [terminal]

theorem Atom.exists_value {a : Atom} (h : a.terminal = .value) : ∃ w, a = .value w := by
  cases a <;> simp_all [terminal]

theorem Atom.exists_path {a : Atom} (h : a.terminal = .path) : ∃ w, a = .path w := by
  cases a <;> simp_all [terminal]

-- Atoms between a first symbol, a name and brackets.
theorem map_eq_bracketed {s : Symbol} {u : List Terminal} {as : List Atom}
    (h : as.map Atom.terminal =
      .symbol s :: .value :: .symbol .opening :: (u ++ [.symbol .closing])) :
    ∃ p name q bs r, bs.map Atom.terminal = u ∧
      as = .symbol s p :: .value name :: .symbol .opening q :: (bs ++ [.symbol .closing r]) := by
  simp only [List.map_eq_cons_iff, List.map_eq_append_iff, List.map_eq_nil_iff] at h
  obtain ⟨_, _, rfl, hs, _, _, rfl, hn, _, _, rfl, ho, bs, _, rfl, hb, _, _, rfl, hc, rfl⟩ := h
  obtain ⟨p, rfl⟩ := Atom.exists_symbol hs
  obtain ⟨name, rfl⟩ := Atom.exists_value hn
  obtain ⟨q, rfl⟩ := Atom.exists_symbol ho
  obtain ⟨r, rfl⟩ := Atom.exists_symbol hc
  exact ⟨p, name, q, bs, r, hb, rfl⟩

theorem Derives.realized {n : Nonterminal} {u : List Terminal} (h : Derives n u) :
    ∀ as, as.map Atom.terminal = u → Realized n as := by
  induction h <;> intro as ha
  case noChains =>
    rw [List.map_eq_nil_iff.1 ha]
    exact ⟨[], yields_nil.2 rfl⟩
  case chains ih₁ ih₂ =>
    obtain ⟨bs, cs, rfl, hb, hc⟩ := List.map_eq_append_iff.1 ha
    obtain ⟨d, hd⟩ := ih₁ bs hb
    obtain ⟨ds, hds⟩ := ih₂ cs hc
    exact ⟨d :: ds, yields_append.2 ⟨bs, cs, hd, hds, rfl⟩⟩
  case chain ih₁ ih₂ =>
    obtain ⟨bs, cs, rfl, hb, hc⟩ := List.map_eq_append_iff.1 ha
    obtain ⟨t, ht⟩ := ih₁ bs hb
    exact ih₂ cs hc (.operand t) bs ht
  case noLinks =>
    intro before bs hb
    exact ⟨before, by simpa [List.map_eq_nil_iff.1 ha] using hb⟩
  case links ih₁ ih₂ =>
    intro before bs hb
    simp only [List.map_eq_cons_iff, List.map_eq_append_iff] at ha
    obtain ⟨_, _, rfl, hm, _, _, rfl, hn, cs, ds, rfl, hc, hd⟩ := ha
    obtain ⟨p, rfl⟩ := Atom.exists_symbol hm
    obtain ⟨connective, rfl⟩ := Atom.exists_value hn
    obtain ⟨t, ht⟩ := ih₁ cs hc
    have hj : Yields (Chain.joined before connective t).yield
        (bs ++ .symbol .minus p :: .value connective :: cs) := by
      rw [Chain.yield]
      exact yields_append.2 ⟨bs, _, hb, by simpa using ht, rfl⟩
    simpa using ih₂ ds hd (.joined before connective t) _ hj
  case group ih =>
    simp only [List.map_eq_cons_iff, List.map_eq_append_iff, List.map_eq_nil_iff] at ha
    obtain ⟨_, _, rfl, ho, bs, _, rfl, hb, _, _, rfl, hc, rfl⟩ := ha
    obtain ⟨p, rfl⟩ := Atom.exists_symbol ho
    obtain ⟨q, rfl⟩ := Atom.exists_symbol hc
    obtain ⟨inner, hi⟩ := ih bs hb
    refine ⟨.group p inner, ?_⟩
    rw [Term.yield]
    exact yields_symbolAt.2 ⟨_, yields_closed hi q, rfl⟩
  case aggregate ih =>
    obtain ⟨p, name, q, bs, r, hb, rfl⟩ := map_eq_bracketed ha
    obtain ⟨contents, hc⟩ := ih bs hb
    refine ⟨.aggregate p name contents, ?_⟩
    rw [Term.yield]
    exact yields_bracketed hc ..
  case function ih =>
    obtain ⟨p, name, q, bs, r, hb, rfl⟩ := map_eq_bracketed ha
    obtain ⟨arguments, hc⟩ := ih bs hb
    refine ⟨.function p name arguments, ?_⟩
    rw [Term.yield]
    exact yields_bracketed hc ..
  case property =>
    simp only [List.map_eq_cons_iff, List.map_eq_nil_iff] at ha
    obtain ⟨_, _, rfl, hp, _, _, rfl, he, _, _, rfl, hv, rfl⟩ := ha
    obtain ⟨path, rfl⟩ := Atom.exists_path hp
    obtain ⟨q, rfl⟩ := Atom.exists_symbol he
    obtain ⟨value, rfl⟩ := Atom.exists_value hv
    exact ⟨.property path value, by simp [Term.yield]⟩
  case fullText =>
    simp only [List.map_eq_cons_iff, List.map_eq_nil_iff] at ha
    obtain ⟨_, _, rfl, hv, rfl⟩ := ha
    obtain ⟨term, rfl⟩ := Atom.exists_value hv
    exact ⟨.fullText term, by simp [Term.yield]⟩
  case noArguments =>
    rw [List.map_eq_nil_iff.1 ha]
    exact ⟨[], yields_nil.2 rfl⟩
  case arguments ih =>
    simp only [List.map_eq_cons_iff] at ha
    obtain ⟨_, _, rfl, hk, _, _, rfl, he, _, bs, rfl, hv, hb⟩ := ha
    obtain ⟨k, rfl⟩ := Atom.exists_value hk
    obtain ⟨p, rfl⟩ := Atom.exists_symbol he
    obtain ⟨v, rfl⟩ := Atom.exists_value hv
    obtain ⟨arguments, ha⟩ := ih bs hb
    exact ⟨(k, v) :: arguments, by simpa [yieldArguments] using ha⟩

end Realization

end EntitySearch
