namespace EntitySearch

-- Values by key, in the order in which the keys came. A key that comes again keeps its place.
structure OrderedMap (κ ν : Type) where
  entries : List (κ × ν)
  distinct : (entries.map Prod.fst).Nodup

namespace OrderedMap

variable {κ ν : Type} [DecidableEq κ]

def keys (m : OrderedMap κ ν) : List κ :=
  m.entries.map Prod.fst

def empty : OrderedMap κ ν where
  entries := []
  distinct := List.nodup_nil

instance : EmptyCollection (OrderedMap κ ν) := ⟨empty⟩

def get? (m : OrderedMap κ ν) (k : κ) : Option ν :=
  m.entries.lookup k

-- Puts `f` of the value of a key in its place, or behind all entries if the key is new.
def updateIn (k : κ) (f : Option ν → ν) : List (κ × ν) → List (κ × ν)
  | [] => [(k, f none)]
  | e :: es => if e.1 = k then (k, f (some e.2)) :: es else e :: updateIn k f es

theorem keys_updateIn (k : κ) (f : Option ν → ν) (es : List (κ × ν)) :
    (updateIn k f es).map Prod.fst =
      if k ∈ es.map Prod.fst then es.map Prod.fst else es.map Prod.fst ++ [k] := by
  induction es with
  | nil => rfl
  | cons e es ih =>
    by_cases h : e.1 = k
    · simp [updateIn, h]
    · have h' : k ≠ e.1 := fun hk => h hk.symm
      by_cases hk : k ∈ es.map Prod.fst <;> simp [updateIn, h, h', ih, hk]

theorem distinct_updateIn {k : κ} {f : Option ν → ν} {es : List (κ × ν)}
    (h : (es.map Prod.fst).Nodup) : ((updateIn k f es).map Prod.fst).Nodup := by
  rw [keys_updateIn]
  split
  case isTrue => exact h
  case isFalse hk =>
    exact List.nodup_append.2 ⟨h, List.nodup_cons.2 ⟨List.not_mem_nil, List.nodup_nil⟩,
      fun a ha b hb => by rintro rfl; exact hk (List.mem_singleton.1 hb ▸ ha)⟩

-- Gives a key the value that `f` makes of the one it has, if any.
def update (m : OrderedMap κ ν) (k : κ) (f : Option ν → ν) : OrderedMap κ ν where
  entries := updateIn k f m.entries
  distinct := distinct_updateIn m.distinct

def insert (m : OrderedMap κ ν) (k : κ) (v : ν) : OrderedMap κ ν :=
  m.update k fun _ => v

-- The map of a list of entries. Of a key that is repeated, the first entry gives the place and the
-- last one the value.
def ofList (es : List (κ × ν)) : OrderedMap κ ν :=
  es.foldl (fun m e => m.insert e.1 e.2) ∅

theorem keys_update (m : OrderedMap κ ν) (k : κ) (f : Option ν → ν) :
    (m.update k f).keys = if k ∈ m.keys then m.keys else m.keys ++ [k] :=
  keys_updateIn k f m.entries

-- Holds if two maps have the same keys with the same values, in whatever order.
def sameEntries [DecidableEq ν] (m n : OrderedMap κ ν) : Bool :=
  m.entries.length = n.entries.length && m.entries.all fun e => n.get? e.1 = some e.2

end OrderedMap

end EntitySearch
