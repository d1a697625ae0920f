import ClassProfile.Description
import ClassProfile.Json.Writing

/-! Artifacts: descriptions as compact JSON text. What has its usual value is left
out, so equal parts are written in one way. The version of the format comes
first. -/
namespace ClassProfile.Artifact

def version : String := "1"

/-- A mark that is written only when it is set. -/
def markIf (key : String) (isSet : Bool) : List (String × Json) :=
  if isSet then [(key, .bool true)] else []

def identityRecord : Identity → Json
  | .plain name isPrimitive => .object (("name", .string name) :: markIf "primitive" isPrimitive)
  | .ofArray name isPrimitive component =>
    .object (("name", .string name) :: markIf "primitive" isPrimitive ++
      [("array_of", identityRecord component)])

def typeRecord (type : TypeDescription) : Json :=
  .object (("base", identityRecord type.base) :: markIf "array" type.isArray ++
    markIf "iterable" type.isIterable ++
    (type.element?.map fun element => ("element", identityRecord element)).toList ++
    markIf "opaque" type.isOpaque)

def propertyRecord (property : Property) : Json :=
  .object ([("name", .string property.name), ("type", typeRecord property.type)] ++
    if property.failures.isEmpty then []
    else [("failures", .array (property.failures.map identityRecord))])

def record (description : ClassDescription) : Json :=
  .object [("v", .string version), ("subject", identityRecord description.subject),
    ("properties", .array (description.properties.map propertyRecord)),
    ("imports", .array (description.imports.map identityRecord))]

def serialize (description : ClassDescription) : String := (record description).write

end ClassProfile.Artifact
