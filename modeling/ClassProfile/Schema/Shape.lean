import ClassProfile.Schema.Identity

/-! Shapes as JSON records, told apart by a field for their sort. -/
namespace ClassProfile.Shape

mutual

def toJson : Shape → Json
  | scalar type => .object [("kind", .string Kind.scalar.word), ("type", type.toJson)]
  | array element => .object [("kind", .string Kind.array.word), ("element", element.toJson)]
  | generic base arguments =>
    .object [("kind", .string Kind.generic.word), ("base", base.toJson),
      ("arguments", .array (listToJson arguments))]
  | wildcard upper lower =>
    .object [("kind", .string Kind.wildcard.word), ("upper_bound", boundToJson upper),
      ("lower_bound", boundToJson lower)]
  | typeVariable name =>
    .object [("kind", .string Kind.typeVariable.word), ("name", .string name)]

def listToJson : List Shape → List Json
  | [] => []
  | shape :: rest => shape.toJson :: listToJson rest

/-- The written form of a bound that may be missing. -/
def boundToJson : Option Shape → Json
  | none => .null
  | some bound => bound.toJson

end

def statedKind (json : Json) : Schema.Checked Kind :=
  match json with
  | .object fields =>
    match Json.lookup "kind" fields with
    | none => Schema.fault .kindMissing
    | some (.string word) =>
      match Kind.ofWord? word with
      | some kind => .ok kind
      | none => Schema.fault .kindUnknown
    | some _ => Schema.fault .kindUnknown
  | _ => Schema.fault .notShape

def ofJson (json : Json) : Schema.Checked Shape :=
  match statedKind json with
  | .error issues => .error issues
  | .ok kind => Schema.under (.kind kind) <|
    match kind with
    | .scalar =>
      (.ok scalar : Schema.Checked _)
        |> Schema.also (Schema.required "type" json fun part _ => Identity.ofJson part)
    | .array =>
      (.ok array : Schema.Checked _)
        |> Schema.also (Schema.required "element" json fun part _ => ofJson part)
    | .generic =>
      (.ok generic : Schema.Checked _)
        |> Schema.also (Schema.required "base" json fun part _ => Identity.ofJson part)
        |> Schema.also (Schema.defaulted "arguments" [] json fun part _ =>
            Schema.each part fun item _ => ofJson item)
    | .wildcard =>
      (.ok wildcard : Schema.Checked _)
        |> Schema.also (Schema.defaulted "upper_bound" none json fun part _ =>
            if part matches .null then .ok none else (ofJson part).map some)
        |> Schema.also (Schema.defaulted "lower_bound" none json fun part _ =>
            if part matches .null then .ok none else (ofJson part).map some)
    | .typeVariable =>
      (.ok typeVariable : Schema.Checked _)
        |> Schema.also (Schema.required "name" json fun part _ => Schema.text part)
  termination_by sizeOf json

end ClassProfile.Shape
