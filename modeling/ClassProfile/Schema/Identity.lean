import ClassProfile.Schema.Field

/-! Identities as JSON records. Writing gives every field, and reading takes back
what writing gives. -/
namespace ClassProfile

namespace Identity

def toJson : Identity → Json
  | plain name isPrimitive =>
    .object [("qualified_name", .string name), ("is_primitive", .bool isPrimitive),
      ("array_of", .null)]
  | ofArray name isPrimitive component =>
    .object [("qualified_name", .string name), ("is_primitive", .bool isPrimitive),
      ("array_of", component.toJson)]

def ofJson (json : Json) : Schema.Checked Identity :=
  Schema.record json <|
    (.ok ofParts : Schema.Checked _)
      |> Schema.also (Schema.required "qualified_name" json fun part _ => Schema.text part)
      |> Schema.also (Schema.defaulted "is_primitive" false json fun part _ => Schema.flag part)
      |> Schema.also (Schema.defaulted "array_of" none json fun part _ =>
          if part matches .null then .ok none else (ofJson part).map some)
  termination_by sizeOf json

end Identity
end ClassProfile
