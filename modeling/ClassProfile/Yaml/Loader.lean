import ClassProfile.Yaml.Scalar.Basic

/-! What reading a YAML text comes to. How texts are read is not a matter of policies: whoever
reads one is given a loader. -/
namespace ClassProfile.Yaml

/-- A value, as far down as it is looked at. -/
inductive Value where
  | scalar (value : Scalar)
  | list (items : List Value)
  /-- Each key once, with the value that it was given last. -/
  | mapping (entries : List (Scalar × Value))
  | set (members : List Scalar)
  | pair (key value : Value)
  /-- A collection that is not looked into. -/
  | deeper

/-- Why a text has no value. -/
inductive Refusal where
  /-- The text is not valid, for a reason that is put in words. -/
  | invalid (reason : String)
  /-- The loader breaks off with an error that is none of the format, of a kind and in words
  of its own. -/
  | broken (kind words : String)
  /-- A text within the value has half of a surrogate pair alone, which is no character. What
  becomes of such a value is left open. -/
  | unpaired
  deriving DecidableEq

abbrev Loader := String → Except Refusal Value

end ClassProfile.Yaml
