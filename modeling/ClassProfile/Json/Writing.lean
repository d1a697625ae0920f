import ClassProfile.Json.Token

/-! Writing a JSON value without any white space. -/
namespace ClassProfile.Json

mutual

def tokens : Json → List Token
  | array items => .beginArray :: itemTokens items ++ [.endArray]
  | object fields => .beginObject :: fieldTokens fields ++ [.endObject]
  | string text => [.string text]
  | null => [.atom null]
  | bool value => [.atom (bool value)]
  | int value => [.atom (int value)]
  | float value => [.atom (float value)]

def itemTokens : List Json → List Token
  | [] => []
  | [item] => item.tokens
  | item :: rest => item.tokens ++ .comma :: itemTokens rest

def fieldTokens : List (String × Json) → List Token
  | [] => []
  | [(key, value)] => .string key :: .colon :: value.tokens
  | (key, value) :: rest => .string key :: .colon :: value.tokens ++ .comma :: fieldTokens rest

end

def write (json : Json) : String := String.ofList (json.tokens.flatMap Token.text)

end ClassProfile.Json
