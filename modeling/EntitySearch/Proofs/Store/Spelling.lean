import EntitySearch.Proofs.Json.Records
import EntitySearch.Proofs.Json.Writing
import EntitySearch.Proofs.SortedMap
import EntitySearch.Store.Reader
import EntitySearch.Store.Writer

namespace EntitySearch.Store

open Json

section Spellings

inductive SpellsTagValue : List Char → TagValue → Prop
  | one {text : List Char} {value : String} :
    SpellsString text value → SpellsTagValue text (.one value)
  | many {text : List Char} {values : List String} :
    Enclosed '[' ']' SpellsString text values → SpellsTagValue text (.many values)

-- Tags are an object with their subpaths in any order. The last value of a subpath counts.
inductive SpellsTags : List Char → Tags → Prop
  | intro {text : List Char} {entries : List (String × TagValue)} {tags : Tags} :
    Enclosed '\x7b' '\x7d' (SpellsEntry fun _ => SpellsTagValue) text entries →
    (∀ k, tags.get? k = (entries.filter (·.1 = k)).getLast?.map Prod.snd) →
    SpellsTags text tags

variable (text : List Char)

def Entity.fields (e : Entity) : List FieldSpelling := [
  { name := "id",   Spells := (SpellsString · e.id),         Optional := False },
  { name := "type", Spells := (SpellsString · e.collection), Optional := False },
  { name := "text", Spells := (SpellsString · e.text),       Optional := e.text = "" },
  { name := "tags", Spells := (SpellsTags · e.tags),         Optional := e.tags = ∅ }]

def SpellsEntity (e : Entity) : Prop :=
  SpellsRecord e.fields text

def Reference.fields (r : Reference) : List FieldSpelling := [
  { name := "type", Spells := (SpellsString · r.collection), Optional := False },
  { name := "id",   Spells := (SpellsString · r.id),         Optional := False }]

def SpellsReference (r : Reference) : Prop :=
  SpellsRecord r.fields text

def Link.fields (l : Link) : List FieldSpelling := [
  { name := "from", Spells := (SpellsReference · l.source), Optional := False },
  { name := "to",   Spells := (SpellsReference · l.target), Optional := False }]

def SpellsLink (l : Link) : Prop :=
  SpellsRecord l.fields text

def Contents.fields (c : Contents) : List FieldSpelling := [
  { name     := "entities"
    Spells   := (Enclosed '[' ']' SpellsEntity · c.entities)
    Optional := c.entities = [] },
  { name     := "links"
    Spells   := (Enclosed '[' ']' SpellsLink · c.links)
    Optional := c.links = [] }]

-- Gaps may stand around contents.
def SpellsContents (c : Contents) : Prop :=
  Spaced (fun text (c : Contents) => SpellsRecord c.fields text) text c

end Spellings

section Tags

variable {text : List Char}

theorem ofValue?_strings (ss : List String) :
    TagValue.ofValue? (.array (ss.map .string)) = some (.many ss) := by
  have hm : (ss.map Value.string).mapM TagValue.ofValue?.stringOf? = some ss := by
    induction ss
    case nil          => rfl
    case cons s ss ih => simp [TagValue.ofValue?.stringOf?, ih]
  rw [TagValue.ofValue?, hm, Option.map_some]

theorem read_gives {depth : Nat} {ts rest : List Token} {v : Value} {t : TagValue}
    (h : (value depth ts).Gives v rest) (hv : TagValue.ofValue? v = some t) :
    (TagValue.read depth ts).Gives t rest := by
  obtain ⟨_, h⟩ := h
  simp only [TagValue.read, h, hv]
  exact ⟨_, rfl⟩

theorem readAs_tagValue (depth : Nat) {t : TagValue} (h : SpellsTagValue text t) :
    ReadAs (TagValue.read (depth + 1)) text t := by
  intro rest hr
  cases h
  case one s h => exact read_gives (readAs_value_string _ h rest hr) rfl
  case many ss h =>
    have hv := h.map Value.string fun _ _ h => readAs_value_string depth h
    exact read_gives (readAs_value_array depth hv rest hr) (ofValue?_strings ss)

-- How the value of a subpath is read into tags.
def Tags.readEntry : EntryReader Tags := fun subpath tags => .ok fun ts =>
  (TagValue.read (maxDepth - tagDepth) ts).map (tags.insert subpath)

theorem readAs_tag (before : List (String × TagValue)) (tag : String × TagValue) :
    ∀ text, SpellsEntry (fun _ => SpellsTagValue) text tag →
      ReadAs (entry Tags.readEntry (SortedMap.ofList before)) text
        (SortedMap.ofList (before ++ [tag])) := by
  rw [SortedMap.ofList_append_singleton]
  -- Of the depth that is left for tags, an array of strings takes one.
  exact readAs_entry rfl fun text ht rest hr => (readAs_tagValue 122 ht rest hr).map _

theorem readAs_tags {tags : Tags} (h : SpellsTags text tags) : ReadAs Tags.read text tags := by
  intro rest _
  cases h
  case intro entries he hk =>
    obtain ⟨ts, ht, hg⟩ := entries_of_enclosed (fun before tag _ _ => readAs_tag before tag) he rest
    rw [SortedMap.ofList_eq hk] at hg
    rw [ht]
    exact hg.weaken (Nat.le_succ _)

theorem refusesClosing_tags : RefusesClosing Tags.read :=
  refusesClosing_object _ _

end Tags

section Drafts

variable {σ α : Type}

-- What a draft has of a field, when some keys have been read.
def given (keys : List String) (name : String) (a : α) : Option α :=
  if name ∈ keys then some a else none

theorem given_of_mem {keys : List String} {name : String} (h : name ∈ keys) (a : α) :
    given keys name a = some a :=
  if_pos h

theorem getD_given {keys : List String} {name : String} {a b : α} (h : name ∈ keys ∨ a = b) :
    (given keys name a).getD b = a := by
  rw [given]
  split
  case isTrue        => rfl
  case isFalse hn => exact (h.resolve_left hn).symm

theorem given_concat_of_ne {keys : List String} {name key : String} (h : name ≠ key) (a : α) :
    given (keys ++ [key]) name a = given keys name a := by
  simp [given, h]

theorem readsField {draft : List String → σ} {name : String} {Spells : List Char → Prop}
    {Optional : Prop} {get : σ → Option α} {set : σ → α → σ} {reader : Reader α} {a : α}
    (hg : ∀ keys, get (draft keys) = given keys name a)
    (hs : ∀ keys, set (draft keys) a = draft (keys ++ [name])) (hc : RefusesClosing reader)
    (hr : ∀ text, Spells text → ReadAs reader text a) :
    ReadsField draft (Draft.field name get set reader) { name, Spells, Optional } where
  name := rfl
  isSet keys := by simp [Draft.field, hg, given]
  refuses keys := hc.map _
  read keys text h rest hrest := by
    rw [← hs]
    exact (hr text h rest hrest).map _

def Entity.draft (e : Entity) (keys : List String) : Entity.Draft where
  id := given keys "id" e.id
  collection := given keys "type" e.collection
  text := given keys "text" e.text
  tags := given keys "tags" e.tags

theorem Entity.builds (e : Entity) : Entity.record.Builds e.fields e.draft e where
  start := rfl
  reads := .cons (readsField (fun _ => rfl) (fun _ => by simp [draft, given]) refusesClosing_string
      fun _ => readAs_string) <|
    .cons (readsField (fun _ => rfl) (fun _ => by simp [draft, given]) refusesClosing_string
      fun _ => readAs_string) <|
    .cons (readsField (fun _ => rfl) (fun _ => by simp [draft, given]) refusesClosing_string
      fun _ => readAs_string) <|
    .cons (readsField (fun _ => rfl) (fun _ => by simp [draft, given]) refusesClosing_tags
      fun _ => readAs_tags) .nil
  other keys key h := by
    simp only [fields, List.forall_mem_cons] at h
    obtain ⟨hid, htype, htext, htags, -⟩ := h
    simp only [draft, given_concat_of_ne hid, given_concat_of_ne htype, given_concat_of_ne htext,
      given_concat_of_ne htags]
  build keys h := by
    simp only [fields, List.forall_mem_cons, or_false] at h
    obtain ⟨hid, htype, htext, htags, -⟩ := h
    simp only [record, draft, given_of_mem hid, given_of_mem htype, getD_given htext,
      getD_given htags]

def Reference.draft (r : Reference) (keys : List String) : Reference.Draft where
  collection := given keys "type" r.collection
  id := given keys "id" r.id

theorem Reference.builds (r : Reference) : Reference.record.Builds r.fields r.draft r where
  start := rfl
  reads := .cons (readsField (fun _ => rfl) (fun _ => by simp [draft, given]) refusesClosing_string
      fun _ => readAs_string) <|
    .cons (readsField (fun _ => rfl) (fun _ => by simp [draft, given]) refusesClosing_string
      fun _ => readAs_string) .nil
  other keys key h := by
    simp only [fields, List.forall_mem_cons] at h
    obtain ⟨htype, hid, -⟩ := h
    simp only [draft, given_concat_of_ne htype, given_concat_of_ne hid]
  build keys h := by
    simp only [fields, List.forall_mem_cons, or_false] at h
    obtain ⟨htype, hid, -⟩ := h
    simp only [record, draft, given_of_mem htype, given_of_mem hid]

theorem readAs_reference (r : Reference) (text : List Char) (h : SpellsReference text r) :
    ReadAs Reference.record.read text r :=
  r.builds.readAs h

def Link.draft (l : Link) (keys : List String) : Link.Draft where
  source := given keys "from" l.source
  target := given keys "to" l.target

theorem Link.builds (l : Link) : Link.record.Builds l.fields l.draft l where
  start := rfl
  reads := .cons (readsField (fun _ => rfl) (fun _ => by simp [draft, given])
      (refusesClosing_record _) (readAs_reference l.source)) <|
    .cons (readsField (fun _ => rfl) (fun _ => by simp [draft, given]) (refusesClosing_record _)
      (readAs_reference l.target)) .nil
  other keys key h := by
    simp only [fields, List.forall_mem_cons] at h
    obtain ⟨hfrom, hto, -⟩ := h
    simp only [draft, given_concat_of_ne hfrom, given_concat_of_ne hto]
  build keys h := by
    simp only [fields, List.forall_mem_cons, or_false] at h
    obtain ⟨hfrom, hto, -⟩ := h
    simp only [record, draft, given_of_mem hfrom, given_of_mem hto]

def Contents.draft (c : Contents) (keys : List String) : Contents.Draft where
  entities := given keys "entities" c.entities
  links := given keys "links" c.links

theorem Contents.builds (c : Contents) : Contents.record.Builds c.fields c.draft c where
  start := rfl
  reads := .cons (readsField (fun _ => rfl) (fun _ => by simp [draft, given])
      (refusesClosing_array _) fun _ => readAs_array (refusesClosing_record _)
      fun _ e h => e.builds.readAs h) <|
    .cons (readsField (fun _ => rfl) (fun _ => by simp [draft, given]) (refusesClosing_array _)
      fun _ => readAs_array (refusesClosing_record _) fun _ l h => l.builds.readAs h) .nil
  other keys key h := by
    simp only [fields, List.forall_mem_cons] at h
    obtain ⟨hentities, hlinks, -⟩ := h
    simp only [draft, given_concat_of_ne hentities, given_concat_of_ne hlinks]
  build keys h := by
    simp only [fields, List.forall_mem_cons] at h
    obtain ⟨hentities, hlinks, -⟩ := h
    simp only [record, draft, getD_given hentities, getD_given hlinks]

theorem ofText_of_spells {text : String} {c : Contents} (h : SpellsContents text.toList c) :
    Contents.ofText text = .ok c :=
  readText_eq_ok (readAs_spaced (fun _ h => c.builds.readAs h) h)

end Drafts

section Writing

theorem spellsTagValue_spell (t : TagValue) : SpellsTagValue t.toValue.spell t := by
  cases t
  case one s   => exact .one (spellsString_value s)
  case many ss => exact .many (enclosed_array (forall₂_map_self fun s _ => spellsString_value s))

theorem spellsTags_spell (tags : Tags) :
    SpellsTags (Value.object (tags.entries.map fun tag => (tag.1, tag.2.toValue))).spell tags := by
  refine .intro (enclosed_object ?_) tags.get?_eq_getLast?
  exact forall₂_map_self fun tag _ => ⟨rfl, spellsTagValue_spell tag.2⟩

theorem spellsEntity_spell (e : Entity) : SpellsEntity e.toValue.spell e := by
  refine spellsRecord_object ?_ (by simp [Entity.fields])
  simp [Entity.fields, SpellsField, spellsString_value, spellsTags_spell]

theorem spellsReference_spell (r : Reference) : SpellsReference r.toValue.spell r := by
  refine spellsRecord_object ?_ (by simp [Reference.fields])
  simp [Reference.fields, SpellsField, spellsString_value]

theorem spellsLink_spell (l : Link) : SpellsLink l.toValue.spell l := by
  refine spellsRecord_object ?_ (by simp [Link.fields])
  simp [Link.fields, SpellsField, spellsReference_spell]

theorem spellsContents_toText (c : Contents) : SpellsContents c.toText.toList c := by
  have he : Enclosed '[' ']' SpellsEntity (Value.array (c.entities.map Entity.toValue)).spell
      c.entities :=
    enclosed_array (forall₂_map_self fun e _ => spellsEntity_spell e)
  have hl : Enclosed '[' ']' SpellsLink (Value.array (c.links.map Link.toValue)).spell c.links :=
    enclosed_array (forall₂_map_self fun l _ => spellsLink_spell l)
  rw [Contents.toText, Value.compact, String.toList_ofList]
  refine spaced_of_spells (spellsRecord_object ?_ (by simp [Contents.fields]))
  simp [Contents.fields, SpellsField, he, hl]

end Writing

theorem Contents.ofText_toText (c : Contents) : Contents.ofText c.toText = .ok c :=
  ofText_of_spells (spellsContents_toText c)

-- Contents are read from each of their spellings. What is written for them is one, so that what is
-- written for contents that were read from a text stays as it is when it is read again.
theorem Contents.ofText_spelling :
    (∀ (text : String) (c : Contents), SpellsContents text.toList c → ofText text = .ok c) ∧
      (∀ c : Contents, ofText c.toText = .ok c) ∧
      (∀ text out : String, (ofText text).map toText = .ok out →
        (ofText out).map toText = .ok out) := by
  refine ⟨fun text c h => ofText_of_spells h, ofText_toText, fun text out h => ?_⟩
  cases ht : ofText text
  case error e => simp [ht, Except.map] at h
  case ok c    =>
    obtain rfl : c.toText = out := by simpa [ht, Except.map] using h
    rw [ofText_toText, Except.map]

section Note

-- A note without text, tags and links.
def note : Entity where
  id := "a"
  collection := "note"
  text := ""
  tags := ∅

def notes : Contents where
  entities := [note]
  links := []

-- An array for a record, an escape, fields left out, and a key of no field, whose value holds half
-- a surrogate pair.
def notesText : String :=
  "\x7b\"x\":\"\\ud800\",\"entities\":[[\"a\",\"not\\u0065\"]]\x7d"

theorem spellsContents_notes : SpellsContents notesText.toList notes := by
  have hnote : List.Forall₂ SpellsChar [['n'], ['o'], ['t'], ['\\', 'u', '0', '0', '6', '5']]
      "note".toList :=
    .cons (.plain ⟨by decide, by decide, by decide⟩) <|
    .cons (.plain ⟨by decide, by decide, by decide⟩) <|
    .cons (.plain ⟨by decide, by decide, by decide⟩) <|
    .cons (.unit (.intro (.lower (n := 0) (by decide)) (.lower (n := 0) (by decide))
      (.lower (n := 6) (by decide)) (.lower (n := 5) (by decide)))) .nil
  have hhalf : IsPiece ['\\', 'u', 'd', '8', '0', '0'] :=
    .unit (.intro (.lower (n := 13) (by decide)) (.lower (n := 8) (by decide))
      (.lower (n := 0) (by decide)) (.lower (n := 0) (by decide)))
  have hgiven : Enclosed '[' ']' (fun text (p : FieldSpelling) => p.Spells text) _
      (note.fields.take 2) :=
    enclosed_of_forall₂ _ _ (.cons (spellsString_spell "a") (.cons (.intro hnote) .nil))
  have hentity : SpellsEntity _ note := .array hgiven rfl (by simp [note])
  have hx : SpellsField notes.fields "x" _ () :=
    ⟨by simp [notes, Contents.fields],
      fun _ => .string (.intro (List.forall_mem_singleton.2 hhalf))⟩
  have hentities {text : List Char} (h : Enclosed '[' ']' SpellsEntity text [note]) :
      SpellsField notes.fields "entities" text () := by
    simp [SpellsField, notes, Contents.fields, h]
  have hg : IsGap [] := nofun
  have hall : SpellsContents _ notes := spaced_of_spells <|
    .object (enclosed_of_forall₂ _ _ <| .cons (.intro (spellsString_spell "x") hg hg hx) <|
      .cons (.intro (spellsString_spell "entities") hg hg
        (hentities (enclosed_of_forall₂ _ _ (.cons hentity .nil)))) .nil)
      (by simp [notes, Contents.fields])
  exact hall

theorem Contents.ofText_spelling_notes :
    SpellsContents notesText.toList notes ∧ ofText notesText = .ok notes ∧
      (ofText notes.toText).map toText = .ok notes.toText := by
  have hn : ofText notesText = .ok notes := ofText_spelling.1 notesText notes spellsContents_notes
  exact ⟨spellsContents_notes, hn, ofText_spelling.2.2 notesText notes.toText (by rw [hn]; rfl)⟩

end Note

end EntitySearch.Store
