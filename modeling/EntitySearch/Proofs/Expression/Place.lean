import EntitySearch.Proofs.Expression.Cursor
import EntitySearch.Proofs.RelatedLists
import EntitySearch.Proofs.Token.Tokenization

namespace EntitySearch

section Tokens

-- Holds of the tokens of a source that stand one behind another from its start to its end, where
-- both ends of a token are found from the sizes of the texts.
structure IsLocated (source : String) (ts : List Token) : Prop where
  start    : ∀ before t after, ts = before ++ t :: after →
    t.start = .locate source (String.join (before.map Token.text)).utf8ByteSize
  stop     : ∀ before t after, ts = before ++ t :: after →
    t.stop = .locate source (String.join ((before ++ [t]).map Token.text)).utf8ByteSize
  offsets  : ∀ before t after, ts = before ++ t :: after →
    (t.start.offset = (String.join (before.map Token.text)).utf8ByteSize) ∧
    (t.stop.offset = t.start.offset + t.text.utf8ByteSize)
  adjacent : ∀ before t u after, ts = before ++ t :: u :: after → t.stop = u.start
  first    : ∀ t ∈ ts.head?, t.start = ⟨1, 1, 0⟩
  last     : ∀ t ∈ ts.getLast?, t.stop.offset = source.utf8ByteSize

variable {source : String} {ts : List Token}

theorem isLocated_of_tokenize (h : tokenize source = .ok ts) : IsLocated source ts := by
  obtain ⟨rfl, -, hp⟩ := tokenize_eq_ok_iff_isTokenization.1 h
  have hj (before after : List Token) :
      String.join ((before ++ after).map Token.text) =
        String.join (before.map Token.text) ++ String.join (after.map Token.text) := by
    rw [List.map_append, String.join_append]
  have hstop {before t after} (ht : ts = before ++ t :: after) :
      t.stop = Position.start.advance (String.join ((before ++ [t]).map Token.text)).toList := by
    rw [hj, String.toList_append, Position.advance_append, (hp before t after ht).2,
      (hp before t after ht).1]
    simp
  constructor
  case start =>
    intro before t after ht
    rw [(hp before t after ht).1, ht, hj, Position.locate_append]
  case stop =>
    intro before t after ht
    rw [hstop ht, ht, List.append_cons before t after, hj (before ++ [t]) after,
      Position.locate_append]
  case offsets =>
    intro before t after ht
    obtain ⟨hs, he⟩ := hp before t after ht
    refine ⟨?_, ?_⟩
    · rw [hs, Position.offset_start_advance, String.ofList_toList]
    · rw [he, Position.offset_advance, String.ofList_toList]
  case adjacent =>
    intro before t u after ht
    have hu := hp (before ++ [t]) u after (by simp [ht])
    rw [hstop ht, hu.1]
  case first =>
    intro t ht
    obtain ⟨after, rfl⟩ := List.head?_eq_some_iff.1 ht
    exact (hp [] t after rfl).1
  case last =>
    intro t ht
    obtain ⟨before, rfl⟩ := List.getLast?_eq_some_iff.1 ht
    rw [hstop rfl, Position.offset_start_advance, String.ofList_toList]

end Tokens

section Nodes

-- A node of an expression, down to the words in it.
inductive Node
  | chain (c : Chain)
  | term (t : Term)
  | path (w : Word)
  | value (w : Word)

-- The symbol that a term begins with, if it is one that is told by a symbol.
def Term.sign? : Term → Option Symbol
  | .group ..     => some .opening
  | .fullText _   => none
  | .property ..  => none
  | .function ..  => some .percent
  | .aggregate .. => some .dollar

namespace Node

def position : Node → Position
  | chain c => c.position
  | term t  => t.position
  | path w  => w.position
  | value w => w.position

-- The tokens that a node is made of, in the order of the text.
def yield : Node → List Piece
  | chain c => c.yield
  | term t  => t.yield
  | path w  => [.path w]
  | value w => [.value w]

-- A chain begins as its first term does.
def sign? : Node → Option Symbol
  | chain c => c.head.sign?
  | term t  => t.sign?
  | path _  => none
  | value _ => none

-- `HasPart n before m behind` holds if `m` is right below `n`, and stands in it between the tokens
-- `before` and `behind`.
inductive HasPart : Node → List Piece → Node → List Piece → Prop
  | group (p : Position) (inner : Chain) :
    HasPart (.term (.group p inner)) [.symbolAt .opening p] (.chain inner) [.symbol .closing]
  | fullText (w : Word) :
    HasPart (.term (.fullText w)) [] (.value w) []
  | propertyPath (path w : Word) :
    HasPart (.term (.property path w)) [] (.path path) [.symbol .equals, .value w]
  | propertyValue (path w : Word) :
    HasPart (.term (.property path w)) [.path path, .symbol .equals] (.value w) []
  | functionName (p : Position) (name : Word) (arguments : List (Word × Word)) :
    HasPart (.term (.function p name arguments)) [.symbolAt .percent p] (.value name)
      (.symbol .opening :: (yieldArguments arguments ++ [.symbol .closing]))
  | argumentName (p : Position) (name k v : Word) (left right : List (Word × Word)) :
    HasPart (.term (.function p name (left ++ (k, v) :: right)))
      (.symbolAt .percent p :: .value name :: .symbol .opening :: yieldArguments left) (.value k)
      (.symbol .equals :: .value v :: (yieldArguments right ++ [.symbol .closing]))
  | argumentValue (p : Position) (name k v : Word) (left right : List (Word × Word)) :
    HasPart (.term (.function p name (left ++ (k, v) :: right)))
      (.symbolAt .percent p :: .value name :: .symbol .opening ::
        (yieldArguments left ++ [.value k, .symbol .equals])) (.value v)
      (yieldArguments right ++ [.symbol .closing])
  | aggregateName (p : Position) (name : Word) (contents : List Chain) :
    HasPart (.term (.aggregate p name contents)) [.symbolAt .dollar p] (.value name)
      (.symbol .opening :: (Chain.yieldAll contents ++ [.symbol .closing]))
  | aggregateChild (p : Position) (name : Word) (left : List Chain) (c : Chain)
      (right : List Chain) :
    HasPart (.term (.aggregate p name (left ++ c :: right)))
      (.symbolAt .dollar p :: .value name :: .symbol .opening :: Chain.yieldAll left) (.chain c)
      (Chain.yieldAll right ++ [.symbol .closing])
  | operand (t : Term) :
    HasPart (.chain (.operand t)) [] (.term t) []
  | before (c : Chain) (connective : Word) (t : Term) :
    HasPart (.chain (.joined c connective t)) [] (.chain c)
      (.symbol .minus :: .value connective :: t.yield)
  | connective (c : Chain) (connective : Word) (t : Term) :
    HasPart (.chain (.joined c connective t)) (c.yield ++ [.symbol .minus]) (.value connective)
      t.yield
  | right (c : Chain) (connective : Word) (t : Term) :
    HasPart (.chain (.joined c connective t)) (c.yield ++ [.symbol .minus, .value connective])
      (.term t) []

theorem HasPart.yield_eq {n m : Node} {before behind : List Piece}
    (h : HasPart n before m behind) : n.yield = before ++ (m.yield ++ behind) := by
  cases h <;>
    simp [yield, Term.yield, Chain.yield, yieldArguments, Chain.yieldAll, yieldArguments_append,
      yieldAll_append]

end Node

-- `Occurs cs before n behind` holds if `n` is a node of some chains, at whatever depth, and stands
-- in them between the tokens `before` and `behind`.
inductive Occurs (cs : List Chain) : List Piece → Node → List Piece → Prop
  | root {left : List Chain} {c : Chain} {right : List Chain} :
    (cs = left ++ c :: right) → Occurs cs (Chain.yieldAll left) (.chain c) (Chain.yieldAll right)
  | part {before front back behind : List Piece} {n m : Node} :
    (Occurs cs before n behind) → (n.HasPart front m back) →
    Occurs cs (before ++ front) m (back ++ behind)

-- Holds of a node that is made of tokens in a row, and whose place is the start of the first one.
structure StandsAt (ts : List Token) (before : List Piece) (n : Node) (behind : List Piece)
    (left : List Token) (t : Token) (others right : List Token) : Prop where
  tokens   : ts = left ++ (t :: others) ++ right
  left     : List.Forall₂ Piece.Describes before left
  yield    : List.Forall₂ Piece.Describes n.yield (t :: others)
  right    : List.Forall₂ Piece.Describes behind right
  position : n.position = t.start
  sign     : ∀ s ∈ n.sign?, t.kind = .symbol s

variable {cs : List Chain} {before behind : List Piece} {n : Node}

theorem Occurs.yield_eq (h : Occurs cs before n behind) :
    Chain.yieldAll cs = before ++ (n.yield ++ behind) := by
  induction h
  case root hc => simp [hc, yieldAll_append, Chain.yieldAll, Node.yield]
  case part hp ih =>
    rw [ih, hp.yield_eq]
    simp

-- The first token of a node has the node's place, and its symbol if it has one.
theorem Term.yield_eq_cons (t : Term) :
    ∃ p ps, (t.yield = p :: ps) ∧ (p.place? = some t.position) ∧
      ∀ s ∈ t.sign?, p.kind = .symbol s := by
  cases t <;> exact ⟨_, _, rfl, rfl, by simp [sign?, Piece.symbolAt]⟩

theorem Chain.yield_eq_cons (c : Chain) :
    ∃ p ps, (c.yield = p :: ps) ∧ (p.place? = some c.position) ∧
      ∀ s ∈ c.head.sign?, p.kind = .symbol s := by
  match c with
  | .operand t =>
    rw [Chain.yield]
    exact t.yield_eq_cons
  | .joined before connective t =>
    obtain ⟨p, ps, hy, hp⟩ := before.yield_eq_cons
    rw [Chain.yield, hy]
    exact ⟨p, _, rfl, hp⟩

theorem Node.yield_eq_cons (n : Node) :
    ∃ p ps, (n.yield = p :: ps) ∧ (p.place? = some n.position) ∧
      ∀ s ∈ n.sign?, p.kind = .symbol s := by
  cases n
  case chain c => exact c.yield_eq_cons
  case term t  => exact t.yield_eq_cons
  case path w  => exact ⟨.path w, [], rfl, rfl, nofun⟩
  case value w => exact ⟨.value w, [], rfl, rfl, nofun⟩

theorem TokenKind.eq_symbol_of_unquoted {k : TokenKind} {s : Symbol}
    (h : k.unquoted = .symbol s) : k = .symbol s := by
  cases k <;> simp_all [unquoted]

theorem Occurs.standsAt {ts : List Token} (h : Occurs cs before n behind) (hm : MadeOf cs ts) :
    ∃ left t others right,
      StandsAt (ts.filter (!·.isSpace)) before n behind left t others right := by
  rw [MadeOf, h.yield_eq] at hm
  obtain ⟨left, rest, ht, hl, hm⟩ := exists_append_of_forall₂ hm
  obtain ⟨own, right, rfl, hn, hr⟩ := exists_append_of_forall₂ hm
  obtain ⟨p, ps, hy, hp, hs⟩ := n.yield_eq_cons
  rw [hy] at hn
  obtain ⟨t, others, hd, ho, rfl⟩ := List.forall₂_cons_left_iff.1 hn
  refine ⟨left, t, others, right, by simpa using ht, hl, hy ▸ .cons hd ho, hr, ?_, ?_⟩
  · exact (hd.2 _ hp).symm
  · exact fun s hs' => TokenKind.eq_symbol_of_unquoted (hd.1.trans (hs s hs'))

end Nodes

namespace Cursor

variable {α : Type} {atoms rest behind : List Atom} {ps : List Piece} {p : Production (Option α)}
variable {x : α} {n m : Nat}

-- The place of the atom at the cursor, if there is one.
def position? (atoms : List Atom) (cursor : Nat) : Option Position :=
  (atoms.drop cursor).head?.map Atom.position

-- What a production finds at a cursor is what one finds that reads the atoms behind the cursor.
theorem Agrees?.found {r : Option (Expression.Parsed α rest.length)} (h : Agrees? atoms rest p r)
    (hp : Comes p (cursorAt atoms rest) (.ok (some x, m))) :
    ∃ behind fewer, r = some (.found x behind fewer) := by
  have he := h.unique hp
  cases r
  case none => simp [located?] at he
  case some r =>
    cases r
    case failed f => simp [located?] at he
    case found y behind fewer =>
      simp only [located?, Except.ok.injEq, Prod.mk.injEq, Option.some.injEq] at he
      exact ⟨behind, fewer, by rw [he.1]⟩

theorem position?_of_takes {piece : Piece} {q : Position}
    (h : Expression.Takes (atoms.drop n) (piece :: ps) behind) (hq : piece.place? = some q) :
    position? atoms n = some q := by
  obtain ⟨as, hy, ha⟩ := h
  obtain ⟨a, bs, hf, -, rfl⟩ := yields_cons.1 hy
  rw [position?, ha, List.cons_append, List.head?_cons, Option.map_some, hf.2 q hq]

-- What a production reads as a term or a chain stands where the cursor was when it was called.
theorem position?_of_comes (h : n ≤ atoms.length) :
    (∀ t m, Comes (term? atoms) n (.ok (some t, m)) → position? atoms n = some t.position) ∧
    (∀ c m, Comes (chain? atoms) n (.ok (some c, m)) → position? atoms n = some c.position) := by
  have hn : cursorAt atoms (atoms.drop n) = n := cursorAt_drop h
  have ha := allAgree (List.drop_suffix n atoms)
  refine ⟨fun t m ht => ?_, fun c m hc => ?_⟩
  case refine_1 =>
    rw [← hn] at ht
    obtain ⟨behind, fewer, he⟩ := ha.term.found ht
    obtain ⟨piece, ps, hy, hq, -⟩ := t.yield_eq_cons
    exact position?_of_takes (hy ▸ Expression.takes_of_found.1 _ _ _ _ he) hq
  case refine_2 =>
    rw [← hn] at hc
    obtain ⟨behind, fewer, he⟩ := ha.chain.found hc
    obtain ⟨piece, ps, hy, hq, -⟩ := c.yield_eq_cons
    exact position?_of_takes (hy ▸ Expression.takes_of_found.2.2.1 _ _ _ _ he) hq

end Cursor

-- Places are exact. Tokens stand where `locate` finds the ends of their texts, from the start of
-- the source to its end. Each node of the expressions stands where the first of its tokens starts,
-- which is the opening bracket of a group and the sign of a function or an aggregate. Of two
-- offsets between characters, the greater one is further on in the order of reading, and any other
-- offset stands for the last of them before it.
theorem places_exact (source : String) :
    (∀ ts, tokenize source = .ok ts → IsLocated source ts) ∧
    (∀ cs, parse source = .ok cs →
      ∃ ts, (tokenize source = .ok ts) ∧ ∀ before n behind, Occurs cs before n behind →
        ∃ left t others right,
          StandsAt (ts.filter (!·.isSpace)) before n behind left t others right) ∧
    (∀ a b, Position.IsBoundary source a → Position.IsBoundary source b → a < b →
      (Position.locate source a).Precedes (.locate source b)) ∧
    (∀ offset,
      (Position.BoundaryBelow source offset (Position.locate source offset).offset) ∧
      (Position.locate source (Position.locate source offset).offset = .locate source offset)) := by
  refine ⟨fun ts => isLocated_of_tokenize, fun cs hp => ?_, fun a b => Position.precedes_locate,
    fun offset => ⟨Position.boundaryBelow_locate .., Position.locate_offset_locate ..⟩⟩
  obtain ⟨ts, ht, -⟩ := bind_eq_ok_iff.1 hp
  exact ⟨ts, ht, fun before n behind ho => ho.standsAt ((parse_eq_ok_iff ht).1 hp)⟩

-- A group on the second line, behind a character of two bytes on the first one.
theorem places_exact_group :
    let ts := Token.place .start [⟨.value "é" none, ['é']⟩, ⟨.space, [' ']⟩,
      ⟨.symbol .minus, ['-']⟩, ⟨.value "or" none, ['o', 'r']⟩, ⟨.space, ['\n']⟩,
      ⟨.symbol .opening, ['(']⟩, ⟨.value "b" none, ['b']⟩, ⟨.symbol .closing, [')']⟩]
    let group := Term.group ⟨2, 1, 7⟩ (.operand (.fullText ⟨"b", ⟨2, 2, 8⟩⟩))
    let chain := Chain.joined (.operand (.fullText ⟨"é", ⟨1, 1, 0⟩⟩)) ⟨"or", ⟨1, 4, 4⟩⟩ group
    let before : List Piece := [.value ⟨"é", ⟨1, 1, 0⟩⟩, .symbol .minus, .value ⟨"or", ⟨1, 4, 4⟩⟩]
    (tokenize "é -or\n(b)" = .ok ts) ∧ (IsLocated "é -or\n(b)" ts) ∧
    (parse "é -or\n(b)" = .ok [chain]) ∧ (Occurs [chain] before (.term group) []) ∧
    (∃ left t others right, StandsAt (ts.filter (!·.isSpace)) before (.term group) [] left t others
      right) ∧
    (Position.IsBoundary "é -or\n(b)" 2) ∧ (Position.IsBoundary "é -or\n(b)" 7) ∧
    ((Position.locate "é -or\n(b)" 2).Precedes (.locate "é -or\n(b)" 7)) := by
  intro ts group chain before
  have ht : tokenize "é -or\n(b)" = .ok ts := by decide +kernel
  have hp : parse "é -or\n(b)" = .ok [chain] := by
    let atoms : List Atom := [.value ⟨"é", ⟨1, 1, 0⟩⟩, .symbol .minus ⟨1, 3, 3⟩,
      .value ⟨"or", ⟨1, 4, 4⟩⟩, .symbol .opening ⟨2, 1, 7⟩, .value ⟨"b", ⟨2, 2, 8⟩⟩,
      .symbol .closing ⟨2, 3, 9⟩]
    have ha : (tokenize "é -or\n(b)").map (·.filterMap Token.atom?) = .ok atoms := by
      decide +kernel
    refine parse_of_yields ha ?_
    simp [chain, group, atoms, Chain.yieldAll, Chain.yield, Term.yield]
  have ho : Occurs [chain] before (.term group) [] := by
    have h := Occurs.part (@Occurs.root [chain] [] chain [] rfl)
      (Node.HasPart.right (.operand (.fullText ⟨"é", ⟨1, 1, 0⟩⟩)) ⟨"or", ⟨1, 4, 4⟩⟩ group)
    simpa [Chain.yieldAll, Chain.yield, Term.yield] using h
  have ha : Position.IsBoundary "é -or\n(b)" 2 := ⟨"é", " -or\n(b)", by decide +kernel, rfl⟩
  have hb : Position.IsBoundary "é -or\n(b)" 7 := ⟨"é -or\n", "(b)", by decide +kernel, rfl⟩
  obtain ⟨hts, hcs, hlt, -⟩ := places_exact "é -or\n(b)"
  obtain ⟨ts', ht', hs⟩ := hcs [chain] hp
  cases ht.symm.trans ht'
  exact ⟨ht, hts ts ht, hp, ho, hs _ _ _ ho, ha, hb, hlt 2 7 ha hb (by decide)⟩

end EntitySearch
