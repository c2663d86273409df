import EntitySearch.Proofs.Number.Counting
import EntitySearch.Proofs.SortedMap
import EntitySearch.Store

namespace EntitySearch.Store

-- What scans read of an entity: its names and text, and at each subpath the values of a tag.
structure Profile where
  collection : String
  id         : String
  text       : String
  values     : String → List String

def Entity.profile (e : Entity) : Profile where
  collection := e.collection
  id         := e.id
  text       := e.text
  values subpath := ((e.tags.get? subpath).map TagValue.values).getD []

section Scans

variable (ps : List Profile)

-- The ids of a collection, each once for every time that its entity has a value at a subpath.
def scanTagged (collection subpath value : String) : List String :=
  ps.flatMap fun p =>
    if p.collection = collection then .replicate ((p.values subpath).count value) p.id else []

-- The ids at the other ends of the links of an entity. One that is linked to itself comes twice.
def scanLinked (links : List Link) (r : Reference) : List String :=
  links.flatMap fun l =>
    (if l.source = r then [l.target.id] else []) ++ (if l.target = r then [l.source.id] else [])

-- How often a word comes in all the texts of an id.
def occurrencesIn (id word : String) : Nat :=
  ((ps.filter (·.id = id)).flatMap (words ·.text)).count word

-- The ids that have all of some words in their texts, in the order of the first texts with the
-- first word, each with the number of times that it has them. A word that is repeated counts again.
def scanText (ws : List String) : List (Hit String Double) :=
  match ws with
  | [] => []
  | first :: _ =>
    let ids := ((ps.filter fun p => first ∈ words p.text).map Profile.id).eraseDups
    (ids.filter fun id => ∀ word ∈ ws, 0 < occurrencesIn ps id word).map fun id =>
      { id := id, weight := .totalOf (ws.map (occurrencesIn ps id)) }

end Scans

section Index

variable {κ α β τ : Type} [BEq κ] [Hashable κ]

-- Holds of a step in building an index that changes what is under a key by what is added there.
def Adds (op : τ → β → τ) (k : κ) (d : τ) (step : Std.HashMap κ τ → α → Std.HashMap κ τ)
    (added : α → List β) : Prop :=
  ∀ index a, (step index a).getD k d = (added a).foldl op (index.getD k d)

-- Steps one after another add what each of them adds.
theorem Adds.foldl {op : τ → β → τ} {k : κ} {d : τ} {step : Std.HashMap κ τ → α → Std.HashMap κ τ}
    {added : α → List β} (h : Adds op k d step added) (as : List α) (index : Std.HashMap κ τ) :
    (as.foldl step index).getD k d = (as.flatMap added).foldl op (index.getD k d) := by
  induction as generalizing index
  case nil          => rfl
  case cons a as ih => rw [List.foldl_cons, ih, h, List.flatMap_cons, List.foldl_append]

theorem foldl_concat (as bs : List α) : bs.foldl List.concat as = as ++ bs := by
  induction bs generalizing as
  case nil          => simp
  case cons b bs ih => simp [ih]

theorem flatMap_if_eq [DecidableEq α] (as : List α) (a : α) (b : β) :
    as.flatMap (fun a' => if a' = a then [b] else []) = .replicate (as.count a) b := by
  induction as
  case nil => rfl
  case cons a' as ih =>
    by_cases h : a' = a
    case pos => simp [ih, h, List.replicate_succ]
    case neg => simp [ih, h]

-- Both ends of a link are noted.
def noteLink (index : Std.HashMap (String × String) (List String)) (l : Link) :
    Std.HashMap (String × String) (List String) :=
  pushId (pushId index (l.source.collection, l.source.id) l.target.id)
    (l.target.collection, l.target.id) l.source.id

-- The words of an entity are counted.
def noteWords (index : Std.HashMap String (Hit.Tally String Double)) (e : Entity) :
    Std.HashMap String (Hit.Tally String Double) :=
  (words e.text).foldl (countWord e.id) index

def noteTags (index : Std.HashMap (String × String × String) (List String)) (e : Entity) :
    Std.HashMap (String × String × String) (List String) :=
  e.tags.entries.foldl (noteTag e) index

-- The indices of a store are built one beside the other.
theorem ofContents_eq (c : Contents) :
    ofContents c =
      { collections := c.entities.foldl (fun s e => s.insert e.collection ()) ∅
        occurrences := c.entities.foldl noteWords ∅
        tagged      := c.entities.foldl noteTags ∅
        linked      := c.links.foldl noteLink ∅ } := by
  have he (es : List Entity) (s : Store) :
      es.foldl addEntity s =
        { s with
          collections := es.foldl (fun s e => s.insert e.collection ()) s.collections
          occurrences := es.foldl noteWords s.occurrences
          tagged      := es.foldl noteTags s.tagged } := by
    induction es generalizing s
    case nil       => rfl
    case cons _ ih => exact ih _
  have hl (ls : List Link) (s : Store) :
      ls.foldl addLink s = { s with linked := ls.foldl noteLink s.linked } := by
    induction ls generalizing s
    case nil       => rfl
    case cons _ ih => exact ih _
  rw [ofContents, hl, he]
  rfl

theorem contains_collections (c : Contents) (collection : String) :
    (ofContents c).collections.contains collection ↔
      ∃ e ∈ c.entities, e.collection = collection := by
  have h (es : List Entity) (s : Std.HashMap String Unit) :
      (es.foldl (fun s e => s.insert e.collection ()) s).contains collection ↔
        s.contains collection ∨ ∃ e ∈ es, e.collection = collection := by
    induction es generalizing s
    case nil          => simp
    case cons e es ih => simp [ih, or_left_comm, or_assoc]
  simp [ofContents_eq, h]

end Index

section Ids

theorem getD_pushId {κ : Type} [DecidableEq κ] [BEq κ] [LawfulBEq κ] [Hashable κ]
    (index : Std.HashMap κ (List String)) (key k : κ) (id : String) :
    (pushId index key id).getD k [] =
      (if key = k then [id] else []).foldl List.concat (index.getD k []) := by
  rw [pushId, Std.HashMap.getD_insert]
  by_cases h : key = k <;> simp [h]

theorem adds_noteTag (e : Entity) (collection subpath value : String) :
    Adds List.concat (collection, subpath, value) [] (noteTag e) fun tag =>
      if tag.1 = subpath then
        if e.collection = collection then .replicate (tag.2.values.count value) e.id else []
      else [] := by
  intro index tag
  have h : Adds List.concat (collection, subpath, value) []
      (fun index value => pushId index (e.collection, tag.1, value) e.id)
      fun value' =>
        if (e.collection, tag.1, value') = (collection, subpath, value) then [e.id] else [] :=
    fun index _ => getD_pushId index _ _ _
  rw [noteTag, h.foldl]
  congr 1
  by_cases hs : tag.1 = subpath <;> by_cases hc : e.collection = collection <;>
    simp [hs, hc, flatMap_if_eq]

theorem adds_noteTags (collection subpath value : String) :
    Adds List.concat (collection, subpath, value) [] noteTags fun e =>
      if e.collection = collection then
        .replicate ((e.profile.values subpath).count value) e.id
      else [] := by
  intro index e
  rw [noteTags, (adds_noteTag e collection subpath value).foldl]
  congr 1
  rw [SortedMap.flatMap_entries e.tags subpath fun tag =>
    if e.collection = collection then .replicate (tag.values.count value) e.id else []]
  cases ht : e.tags.get? subpath <;> simp [Entity.profile, ht]

theorem getD_tagged (c : Contents) (collection subpath value : String) :
    (ofContents c).tagged.getD (collection, subpath, value) [] =
      scanTagged (c.entities.map Entity.profile) collection subpath value := by
  rw [ofContents_eq, scanTagged, List.flatMap_map]
  refine ((adds_noteTags collection subpath value).foldl _ _).trans ?_
  rw [Std.HashMap.getD_empty, foldl_concat, List.nil_append]
  rfl

theorem adds_noteLink (r : Reference) :
    Adds List.concat (r.collection, r.id) [] noteLink fun l =>
      (if l.source = r then [l.target.id] else []) ++
      (if l.target = r then [l.source.id] else []) := by
  intro index l
  have hr (r' : Reference) : (r'.collection, r'.id) = (r.collection, r.id) ↔ r' = r := by
    cases r
    cases r'
    simp
  rw [noteLink, getD_pushId, getD_pushId, ← List.foldl_append]
  simp only [hr]

theorem getD_linked (c : Contents) (r : Reference) :
    (ofContents c).linked.getD (r.collection, r.id) [] = scanLinked c.links r := by
  rw [ofContents_eq, scanLinked]
  refine ((adds_noteLink r).foldl _ _).trans ?_
  rw [Std.HashMap.getD_empty, foldl_concat, List.nil_append]

end Ids

section Words

-- A hit for each time that a word comes in the text of an entity.
def wordHits (ps : List Profile) (word : String) : List (Hit String Double) :=
  ps.flatMap fun p => .replicate ((words p.text).count word) { id := p.id, weight := 1 }

theorem adds_countWord (id word : String) :
    Adds Hit.Tally.count word ∅ (countWord id) fun word' =>
      if word' = word then [{ id := id, weight := 1 }] else [] := by
  intro index word'
  rw [countWord, Std.HashMap.getD_insert]
  by_cases h : word' = word
  case pos =>
    simp only [h, beq_self_eq_true, if_true, List.foldl_cons, List.foldl_nil]
  case neg => simp [h]

theorem adds_noteWords (word : String) :
    Adds Hit.Tally.count word ∅ noteWords fun e =>
      .replicate ((words e.text).count word) { id := e.id, weight := 1 } := by
  intro index e
  rw [noteWords, (adds_countWord e.id word).foldl, flatMap_if_eq]

theorem getD_occurrences (c : Contents) (word : String) :
    (ofContents c).occurrences.getD word ∅ =
      Hit.tally (wordHits (c.entities.map Entity.profile) word) := by
  rw [ofContents_eq, wordHits, List.flatMap_map]
  refine ((adds_noteWords word).foldl _ _).trans ?_
  rw [Std.HashMap.getD_empty]
  rfl

variable (ps : List Profile) (id word : String)

theorem occurrencesIn_cons (p : Profile) :
    occurrencesIn (p :: ps) id word =
      (if p.id = id then (words p.text).count word else 0) + occurrencesIn ps id word := by
  by_cases h : p.id = id <;> simp [occurrencesIn, h]

theorem weightsOf_wordHits :
    Hit.weightsOf id (wordHits ps word) = .replicate (occurrencesIn ps id word) 1 := by
  induction ps
  case nil => rfl
  case cons p ps ih =>
    rw [wordHits, List.flatMap_cons, Hit.weightsOf_append, occurrencesIn_cons,
      List.replicate_add, ← ih]
    congr 1
    by_cases h : p.id = id <;> simp [Hit.weightsOf, h]

theorem weightIn_wordHits :
    Hit.weightIn id (wordHits ps word) = .countTo (occurrencesIn ps id word) := by
  rw [Hit.weightIn, weightsOf_wordHits, Double.leftSum_ones]

theorem mem_ids_wordHits : id ∈ Hit.ids (wordHits ps word) ↔ 0 < occurrencesIn ps id word := by
  rw [← not_not (a := id ∈ _), ← Hit.weightsOf_eq_nil_iff, weightsOf_wordHits,
    List.replicate_eq_nil_iff, Nat.pos_iff_ne_zero]

-- What comes several times in a row comes once.
theorem eraseDups_flatMap_replicate {α κ : Type} [DecidableEq κ] (n : α → Nat) (key : α → κ)
    (as : List α) :
    (as.flatMap fun a => .replicate (n a) (key a)).eraseDups =
      ((as.filter fun a => 0 < n a).map key).eraseDups := by
  have hr (ks : List κ) (k : κ) (m : Nat) :
      (ks ++ .replicate (m + 1) k).eraseDups = (ks ++ [k]).eraseDups := by
    induction m
    case zero => rfl
    case succ m ih =>
      rw [List.replicate_succ', ← List.append_assoc, OrderedMap.eraseDups_concat, if_pos (by simp),
        ih]
  induction as using List.reverseRecOn
  case nil => rfl
  case append_singleton as a ih =>
    rw [List.flatMap_append, List.flatMap_singleton, List.filter_append, List.map_append]
    cases hn : n a
    case zero => simpa [hn] using ih
    case succ m =>
      have hm (k : κ) : k ∈ as.flatMap (fun a => .replicate (n a) (key a)) ↔
          k ∈ (as.filter fun a => 0 < n a).map key := by
        rw [← List.mem_eraseDups, ih, List.mem_eraseDups]
      have hf : [a].filter (fun a => 0 < n a) = [a] := by simp [hn]
      rw [hr, hf, List.map_singleton, OrderedMap.eraseDups_concat, OrderedMap.eraseDups_concat, ih]
      simp only [hm]

theorem ids_wordHits :
    (Hit.ids (wordHits ps word)).eraseDups =
      ((ps.filter fun p => word ∈ words p.text).map Profile.id).eraseDups := by
  have h : Hit.ids (wordHits ps word) =
      ps.flatMap fun p => .replicate ((words p.text).count word) p.id := by
    simp [Hit.ids, wordHits, List.map_flatMap]
  rw [h, eraseDups_flatMap_replicate]
  simp only [List.count_pos_iff]

-- Looking up words is merging their hits.
theorem intersection_wordHits (ws : List String) :
    Hit.intersection (ws.map (wordHits ps)) = scanText ps ws := by
  cases ws
  case nil => rfl
  case cons first rest =>
    rw [List.map_cons, Hit.intersection_eq, ids_wordHits, scanText]
    -- Only ids with the first word are looked at.
    have hfirst (id : String)
        (hid : id ∈ ((ps.filter fun p => first ∈ words p.text).map Profile.id).eraseDups) :
        0 < occurrencesIn ps id first := by
      rwa [← ids_wordHits, List.mem_eraseDups, mem_ids_wordHits] at hid
    have hall : ∀ id ∈ ((ps.filter fun p => first ∈ words p.text).map Profile.id).eraseDups,
        decide (∀ hits ∈ rest.map (wordHits ps), id ∈ Hit.ids hits) =
          decide (∀ word ∈ first :: rest, 0 < occurrencesIn ps id word) := by
      intro id hid
      simp [mem_ids_wordHits, hfirst id hid]
    have hsum (id : String) :
        ((rest.map (wordHits ps)).map (Hit.weightIn id)).foldl (· + ·)
            (Hit.weightIn id (wordHits ps first)) =
          .totalOf ((first :: rest).map (occurrencesIn ps id)) := by
      rw [List.map_cons, Double.totalOf_cons, List.map_map, List.map_map, weightIn_wordHits]
      simp only [Function.comp_def, weightIn_wordHits]
    rw [List.filter_congr hall]
    simp only [hsum]

variable {ps} {ws : List String}

theorem mem_scanText {h : Hit String Double} :
    h ∈ scanText ps ws ↔
      (ws ≠ []) ∧ (∀ word ∈ ws, 0 < occurrencesIn ps h.id word) ∧
        (h.weight = .totalOf (ws.map (occurrencesIn ps h.id))) := by
  cases ws
  case nil => simp [scanText]
  case cons first rest =>
    simp only [scanText, List.mem_map, List.mem_filter, decide_eq_true_eq, ← ids_wordHits,
      List.mem_eraseDups, mem_ids_wordHits]
    constructor
    case mp =>
      rintro ⟨id, ⟨-, hm⟩, rfl⟩
      exact ⟨List.cons_ne_nil _ _, hm, rfl⟩
    case mpr =>
      rintro ⟨-, hm, hw⟩
      exact ⟨h.id, ⟨hm first List.mem_cons_self, hm⟩, by rw [← hw]⟩

theorem nodup_ids_scanText : (Hit.ids (scanText ps ws)).Nodup := by
  rw [← intersection_wordHits]
  exact Hit.nodup_ids_intersection _

end Words

end EntitySearch.Store
