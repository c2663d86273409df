import EntitySearch.Json.Reader
import EntitySearch.Store.Contents

namespace EntitySearch.Store

open Json

-- Puts what a reader reads into a draft.
def Draft.field {σ α : Type} (name : String) (get : σ → Option α) (set : σ → α → σ)
    (reader : Reader α) : Json.Field σ where
  name := name
  isSet s := (get s).isSome
  read s ts := (reader ts).map (set s)

namespace TagValue

-- The tag value that a JSON value spells.
def ofValue? : Value → Option TagValue
  | .string s => some (one s)
  | .array items => (items.mapM stringOf?).map many
  | _ => none
where
  stringOf? : Value → Option String
    | .string s => some s
    | _ => none

-- Reads a tag value, inside of which arrays and objects may stand up to some depth.
def read (depth : Nat) : Reader TagValue := fun ts =>
  match value depth ts with
  | .failed e => .failed e
  | .found v rest fewer =>
    match ofValue? v with
    | some t => .found t rest fewer
    | none => .failed (.mismatch (.noForm "TagValue"))

def ofText (text : String) : Except Error TagValue :=
  readText (read maxDepth) text

end TagValue

-- How many arrays and objects stand around a tag value.
def tagDepth : Nat := 4

def Tags.read : Reader Tags :=
  object (fun subpath tags => .ok fun ts =>
    (TagValue.read (maxDepth - tagDepth) ts).map (tags.insert subpath)) ∅

namespace Entity

structure Draft where
  id : Option String
  collection : Option String
  text : Option String
  tags : Option Tags

def record : Record Draft Entity where
  name := "Entity"
  fields := [
    Draft.field "id" Draft.id (fun d a => { d with id := some a }) string,
    Draft.field "type" Draft.collection (fun d a => { d with collection := some a }) string,
    Draft.field "text" Draft.text (fun d a => { d with text := some a }) string,
    Draft.field "tags" Draft.tags (fun d a => { d with tags := some a }) Tags.read]
  start := { id := none, collection := none, text := none, tags := none }
  build d :=
    match d.id, d.collection with
    | some id, some collection =>
      .ok { id, collection, text := d.text.getD "", tags := d.tags.getD ∅ }
    | none, _ => .error 0
    | some _, none => .error 1

end Entity

namespace Reference

structure Draft where
  collection : Option String
  id : Option String

def record : Record Draft Reference where
  name := "EntityRef"
  fields := [
    Draft.field "type" Draft.collection (fun d a => { d with collection := some a }) string,
    Draft.field "id" Draft.id (fun d a => { d with id := some a }) string]
  start := { collection := none, id := none }
  build d :=
    match d.collection, d.id with
    | some collection, some id => .ok { collection, id }
    | none, _ => .error 0
    | some _, none => .error 1

end Reference

namespace Link

structure Draft where
  source : Option Reference
  target : Option Reference

def record : Record Draft Link where
  name := "Link"
  fields := [
    Draft.field "from" Draft.source (fun d a => { d with source := some a }) Reference.record.read,
    Draft.field "to" Draft.target (fun d a => { d with target := some a }) Reference.record.read]
  start := { source := none, target := none }
  build d :=
    match d.source, d.target with
    | some source, some target => .ok { source, target }
    | none, _ => .error 0
    | some _, none => .error 1

end Link

namespace Contents

structure Draft where
  entities : Option (List Entity)
  links : Option (List Link)

def record : Record Draft Contents where
  name := "StoreData"
  fields := [
    Draft.field "entities" Draft.entities (fun d a => { d with entities := some a })
      (array Entity.record.read),
    Draft.field "links" Draft.links (fun d a => { d with links := some a })
      (array Link.record.read)]
  start := { entities := none, links := none }
  build d := .ok { entities := d.entities.getD [], links := d.links.getD [] }

def ofText (text : String) : Except Error Contents :=
  readText record.read text

end Contents

end EntitySearch.Store
