import ClassProfile.Schema.Identity

/-! Descriptions and accessors as JSON records. A type description is examined as
a whole only when all of its fields are in order; the properties of a class are
arranged when they are, whatever the other fields hold. -/
namespace ClassProfile

namespace TypeDescription

def toJson (type : TypeDescription) : Json :=
  .object [("base_type", type.base.toJson), ("is_array", .bool type.isArray),
    ("is_iterable", .bool type.isIterable),
    ("element_type", (type.element?.map Identity.toJson).getD .null),
    ("is_opaque", .bool type.isOpaque)]

/-- The description, or the issue that it is refused for as a whole. -/
def examined (type : TypeDescription) : Schema.Checked TypeDescription :=
  match type.checked with
  | .ok type => .ok type
  | .error fault => Schema.fault (.element fault)

def ofJson (json : Json) : Schema.Checked TypeDescription := do
  let type ← Schema.record json <|
    (.ok mk : Schema.Checked _)
      |> Schema.also (Schema.required "base_type" json fun part _ => Identity.ofJson part)
      |> Schema.also (Schema.defaulted "is_array" false json fun part _ => Schema.flag part)
      |> Schema.also (Schema.defaulted "is_iterable" false json fun part _ => Schema.flag part)
      |> Schema.also (Schema.defaulted "element_type" none json fun part _ =>
          Schema.nullable Identity.ofJson part)
      |> Schema.also (Schema.defaulted "is_opaque" false json fun part _ => Schema.flag part)
  type.examined

end TypeDescription

namespace Property

def toJson (property : Property) : Json :=
  .object [("name", .string property.name), ("type", property.type.toJson),
    ("failure_types", .array (property.failures.map Identity.toJson))]

def ofJson (json : Json) : Schema.Checked Property :=
  Schema.record json <|
    (.ok mk : Schema.Checked _)
      |> Schema.also (Schema.required "name" json fun part _ => Schema.text part)
      |> Schema.also (Schema.required "type" json fun part _ => TypeDescription.ofJson part)
      |> Schema.also (Schema.defaulted "failure_types" [] json fun part _ =>
          Schema.each part fun item _ => Identity.ofJson item)

end Property

namespace ClassDescription

/-- The properties in order, or the issue of their names. -/
def examinedProperties (properties : List Property) : Schema.Checked (List Property) :=
  match arrangedProperties properties with
  | .ok arranged => .ok arranged
  | .error fault => Schema.fault (.repeatedNames fault)

/-- The description that a record holds, put in order. -/
def ofJson (json : Json) : Schema.Checked ClassDescription :=
  Schema.record json <|
    (.ok mk : Schema.Checked _)
      |> Schema.also (Schema.required "subject_type" json fun part _ => Identity.ofJson part)
      |> Schema.also (Schema.defaulted "properties" [] json fun part _ => do
          examinedProperties (← Schema.each part fun item _ => Property.ofJson item))
      |> Schema.also (Schema.defaulted "required_imports" [] json fun part _ =>
          (Schema.each part fun item _ => Identity.ofJson item).map arrangedImports)

end ClassDescription
end ClassProfile
