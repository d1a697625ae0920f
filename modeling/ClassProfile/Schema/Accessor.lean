import ClassProfile.Accessor.Basic
import ClassProfile.Schema.Shape

/-! Accessors as JSON records. -/
namespace ClassProfile.Accessor

def toJson (accessor : Accessor) : Json :=
  .object [("accessor_name", .string accessor.name), ("return_type", accessor.returnType.toJson),
    ("failure_types", .array (accessor.failures.map Identity.toJson)),
    ("property_name", (accessor.propertyName?.map Json.string).getD .null)]

def ofJson (json : Json) : Schema.Checked Accessor :=
  Schema.record json <|
    (.ok mk : Schema.Checked _)
      |> Schema.also (Schema.required "accessor_name" json fun part _ => Schema.text part)
      |> Schema.also (Schema.required "return_type" json fun part _ => Shape.ofJson part)
      |> Schema.also (Schema.defaulted "failure_types" [] json fun part _ =>
          Schema.each part fun item _ => Identity.ofJson item)
      |> Schema.also (Schema.defaulted "property_name" none json fun part _ =>
          Schema.nullable Schema.text part)

end ClassProfile.Accessor
