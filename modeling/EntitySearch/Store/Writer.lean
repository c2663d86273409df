import EntitySearch.Json.Writer
import EntitySearch.Store.Contents

namespace EntitySearch.Store

open Json

def TagValue.toValue : TagValue → Value
  | one value => .string value
  | many values => .array (values.map .string)

def Entity.toValue (e : Entity) : Value :=
  .object [("id", .string e.id),
    ("tags", .object (e.tags.entries.map fun tag => (tag.1, tag.2.toValue))),
    ("text", .string e.text), ("type", .string e.collection)]

def Reference.toValue (r : Reference) : Value :=
  .object [("id", .string r.id), ("type", .string r.collection)]

def Link.toValue (l : Link) : Value :=
  .object [("from", l.source.toValue), ("to", l.target.toValue)]

def Contents.toValue (c : Contents) : Value :=
  .object [("entities", .array (c.entities.map Entity.toValue)),
    ("links", .array (c.links.map Link.toValue))]

def Contents.toText (c : Contents) : String :=
  c.toValue.compact

end EntitySearch.Store
