import EntitySearch.Proofs.Store.Scan

namespace EntitySearch.Store

section Steps

-- A step in building the contents of a store.
inductive Step
  | entity (collection id text : String)
  | tag (subpath value : String)
  | link (source target : Reference)

def Contents.step (c : Contents) : Step → Contents
  | .entity collection id text => c.addEntity collection id text
  | .tag subpath value         => c.tagLast subpath value
  | .link source target        => c.addLink source target

def Contents.build (steps : List Step) : Contents :=
  steps.foldl step ∅

-- An entity with further values, each at the end of the values at its subpath.
def Profile.withTags (p : Profile) (tags : List (String × String)) : Profile :=
  { p with values subpath := p.values subpath ++ (tags.filter (·.1 = subpath)).map Prod.snd }

def Profile.bare (collection id text : String) : Profile where
  collection := collection
  id         := id
  text       := text
  values _   := []

-- The tags that come before the next entity.
def tagsAhead : List Step → List (String × String)
  | []                          => []
  | .entity .. :: _             => []
  | .tag subpath value :: steps => (subpath, value) :: tagsAhead steps
  | .link .. :: steps           => tagsAhead steps

-- The entities that are added, each with the tags that come before the next one. Tags before all
-- entities belong to none.
def profilesOf : List Step → List Profile
  | []                                  => []
  | .entity collection id text :: steps =>
    (Profile.bare collection id text).withTags (tagsAhead steps) :: profilesOf steps
  | .tag .. :: steps                    => profilesOf steps
  | .link .. :: steps                   => profilesOf steps

def linksOf : List Step → List Link
  | []                           => []
  | .entity .. :: steps          => linksOf steps
  | .tag .. :: steps             => linksOf steps
  | .link source target :: steps => { source := source, target := target } :: linksOf steps

theorem withTags_nil (p : Profile) : p.withTags [] = p := by
  simp [Profile.withTags]

theorem withTags_append (p : Profile) (tags more : List (String × String)) :
    p.withTags (tags ++ more) = (p.withTags tags).withTags more := by
  simp [Profile.withTags]

theorem links_foldl_step (steps : List Step) (c : Contents) :
    (steps.foldl Contents.step c).links = c.links ++ linksOf steps := by
  induction steps generalizing c
  case nil => simp [linksOf]
  case cons s steps ih =>
    rw [List.foldl_cons, ih]
    cases s
    case entity => rfl
    case tag =>
      rw [Contents.step, Contents.tagLast]
      split <;> rfl
    case link => simp [Contents.step, Contents.addLink, linksOf]

-- An entity with a further value at the end of those at a subpath.
def Entity.withTag (e : Entity) (subpath value : String) : Entity :=
  { e with tags := e.tags.update subpath fun tag? => (tag?.getD (.many [])).add value }

theorem profile_withTag (e : Entity) (subpath value : String) :
    (e.withTag subpath value).profile = e.profile.withTags [(subpath, value)] := by
  simp only [Entity.profile, Entity.withTag, Profile.withTags, Profile.mk.injEq, true_and]
  funext subpath'
  rw [SortedMap.get?_update]
  by_cases hs : subpath = subpath'
  case neg => simp [hs]
  case pos =>
    subst hs
    cases e.tags.get? subpath <;> simp [TagValue.add, TagValue.values]

-- A value is added to the tags of the last entity.
theorem tagLast_eq {c : Contents} {es : List Entity} {e : Entity} (h : c.entities = es ++ [e])
    (subpath value : String) :
    (c.tagLast subpath value).entities = es ++ [e.withTag subpath value] := by
  have hl : c.entities.getLast? = some e := by rw [h, List.getLast?_concat]
  rw [Contents.tagLast, hl, h]
  simp [Entity.withTag]

theorem profile_bare (collection id text : String) :
    (Entity.mk id collection text ∅).profile = Profile.bare collection id text := rfl

-- With some entities there, tags go to the last of them until the next one is added.
theorem profiles_foldl_step (steps : List Step) {c : Contents} {es : List Entity} {e : Entity}
    (h : c.entities = es ++ [e]) :
    (steps.foldl Contents.step c).entities.map Entity.profile =
      es.map Entity.profile ++ e.profile.withTags (tagsAhead steps) :: profilesOf steps := by
  induction steps generalizing c es e
  case nil => simp [h, tagsAhead, profilesOf, withTags_nil]
  case cons s steps ih =>
    cases s
    case entity collection id text =>
      have hn : (c.step (.entity collection id text)).entities =
          c.entities ++ [Entity.mk id collection text ∅] := rfl
      rw [List.foldl_cons, ih hn, h, profile_bare]
      simp [tagsAhead, profilesOf, withTags_nil]
    case tag subpath value =>
      rw [List.foldl_cons, Contents.step, ih (tagLast_eq h subpath value), profile_withTag,
        ← withTags_append]
      rfl
    case link => exact ih h

theorem profiles_build (steps : List Step) :
    (Contents.build steps).entities.map Entity.profile = profilesOf steps := by
  have hn (steps : List Step) {c : Contents} (h : c.entities = []) :
      (steps.foldl Contents.step c).entities.map Entity.profile = profilesOf steps := by
    induction steps generalizing c
    case nil => simp [h, profilesOf]
    case cons s steps ih =>
      cases s
      case entity collection id text =>
        have he : (c.step (.entity collection id text)).entities =
            [] ++ [Entity.mk id collection text ∅] :=
          congrArg (· ++ _) h
        rw [List.foldl_cons, profiles_foldl_step steps he, profile_bare]
        rfl
      case tag subpath value =>
        have ht : c.tagLast subpath value = c := by rw [Contents.tagLast, h]; rfl
        rw [List.foldl_cons, Contents.step, ht]
        exact ih h
      case link => exact ih h
  exact hn steps rfl

theorem links_build (steps : List Step) : (Contents.build steps).links = linksOf steps :=
  links_foldl_step steps ∅

end Steps

section Lookups

-- Holds of a store that answers all lookups as scans of some entities and links would. What is
-- found by its texts weighs the number of occurrences of all the words.
structure AnswersAs (s : Store) (ps : List Profile) (links : List Link) : Prop where
  unknown  : ∀ collection subpath value, (¬∃ p ∈ ps, p.collection = collection) →
    s.backend.tagged collection subpath value = .error (.unknownCollection collection)
  tagged   : ∀ collection subpath value, (∃ p ∈ ps, p.collection = collection) →
    s.backend.tagged collection subpath value =
      .ok ((scanTagged ps collection subpath value).map fun id => { id := id, weight := 1 })
  linked   : ∀ r : Reference, s.backend.linked r.collection r.id = .ok (scanLinked links r)
  fullText : ∀ term, s.backend.fullText term = .ok (scanText ps (words term))
  weights  : ∀ term, ∀ h ∈ scanText ps (words term),
    h.weight.CountsAs ((words term).map (occurrencesIn ps h.id))

theorem tagQuery_eq (c : Contents) (collection subpath value : String) :
    (ofContents c).tagQuery collection subpath value =
      if ∃ e ∈ c.entities, e.collection = collection then
        .ok (scanTagged (c.entities.map Entity.profile) collection subpath value)
      else .error (.unknownCollection collection) := by
  simp only [tagQuery, getD_tagged, contains_collections]

theorem linkQuery_eq (c : Contents) (r : Reference) :
    (ofContents c).linkQuery r.collection r.id = scanLinked c.links r :=
  getD_linked c r

theorem textQuery_eq (c : Contents) (term : String) :
    (ofContents c).textQuery term = scanText (c.entities.map Entity.profile) (words term) := by
  rw [textQuery, ← intersection_wordHits, Hit.intersection, List.map_map]
  simp only [getD_occurrences]
  rfl

theorem answersAs_ofContents (c : Contents) :
    AnswersAs (ofContents c) (c.entities.map Entity.profile) c.links := by
  have hc (collection : String) :
      (∃ p ∈ c.entities.map Entity.profile, p.collection = collection) ↔
        ∃ e ∈ c.entities, e.collection = collection := by
    simp [Entity.profile]
  constructor
  case unknown =>
    intro collection subpath value h
    rw [hc] at h
    simp only [backend, tagQuery_eq, if_neg h]
    rfl
  case tagged =>
    intro collection subpath value h
    rw [hc] at h
    simp only [backend, tagQuery_eq, if_pos h]
    rfl
  case linked =>
    intro r
    rw [← linkQuery_eq]
    rfl
  case fullText =>
    intro term
    exact congrArg Except.ok (textQuery_eq c term)
  case weights =>
    intro term h hm
    rw [(mem_scanText.1 hm).2.2]
    exact Double.countsAs_totalOf _

theorem fullText_of_scanText {c : Contents} {term : String} {hits : List (Hit String Double)}
    (h : scanText (c.entities.map Entity.profile) (words term) = hits) :
    (ofContents c).backend.fullText term = .ok hits := by
  rw [(answersAs_ofContents c).fullText, h]

-- A store answers as scans of its contents, and one that is built step by step as scans of the
-- entities with the tags that were added to each while it was the last one.
theorem backend_scans :
    (∀ c : Contents, AnswersAs (ofContents c) (c.entities.map Entity.profile) c.links) ∧
    ∀ steps : List Step,
      AnswersAs (ofContents (Contents.build steps)) (profilesOf steps) (linksOf steps) := by
  refine ⟨answersAs_ofContents, fun steps => ?_⟩
  rw [← profiles_build, ← links_build]
  exact answersAs_ofContents _

-- An id that two entities share, with a repeated value and a link to itself.
theorem backend_scans_shared :
    let steps : List Step := [
      .tag "/tag" "lost",
      .entity "note" "n" "Parser notes, parser tricks", .tag "/tag" "x", .tag "/tag" "x",
      .link ⟨"note", "n"⟩ ⟨"note", "n"⟩,
      .entity "task" "n" "a parser", .entity "note" "m" "Garden notes"]
    let s := ofContents (.build steps)
    (s.backend.tagged "person" "/tag" "x" = .error (.unknownCollection "person")) ∧
    (s.backend.tagged "note" "/tag" "x" = .ok [⟨"n", 1⟩, ⟨"n", 1⟩]) ∧
    (s.backend.tagged "note" "/tag" "lost" = .ok []) ∧
    (s.backend.linked "note" "n" = .ok ["n", "n"]) ∧
    (s.backend.fullText "parser NOTES parser" = .ok [⟨"n", .ofNat 7⟩]) ∧
    ((Double.ofNat 7).CountsAs [3, 1, 3]) ∧
    (s.backend.fullText "--" = .ok []) := by
  intro steps s
  have h := backend_scans.2 steps
  have ht : scanText (profilesOf steps) (words "parser NOTES parser") = [⟨"n", .ofNat 7⟩] := by
    decide +kernel
  have hc : (words "parser NOTES parser").map (occurrencesIn (profilesOf steps) "n") =
      [3, 1, 3] := by
    decide +kernel
  refine ⟨h.unknown _ _ _ (by decide), ?_, ?_, h.linked ⟨"note", "n"⟩, ?_, ?_, ?_⟩
  · exact h.tagged "note" "/tag" "x" (by decide)
  · exact h.tagged "note" "/tag" "lost" (by decide)
  · rw [h.fullText, ht]
  · have hw := h.weights "parser NOTES parser"
    rw [ht, List.forall_mem_singleton] at hw
    -- The hit is taken apart first, or else the number would be unfolded.
    dsimp only at hw
    rwa [hc] at hw
  · have ht : scanText (profilesOf steps) (words "--") = [] := by decide +kernel
    rw [h.fullText, ht]

end Lookups

end EntitySearch.Store
