import ClassProfile.Yaml.Cursor

/-! Tokens of YAML text. Collections in block style are enclosed by tokens that no
character of the text stands for; indentation opens and closes them. -/
namespace ClassProfile.Yaml

/-- Why a text has no value. Most texts are simply not valid; the other failures
concern a scalar whose text is out of the range of its type. -/
inductive Failure where
  | invalid
  /-- A text that does not denote a value of its type. -/
  | badValue
  /-- A word that is neither true nor false. -/
  | badWord (word : String)
  /-- A text with no characters, where a number should be. -/
  | emptyNumber
  /-- A text that is no timestamp at all. -/
  | badTimestamp
  /-- A timestamp that is a mapping. -/
  | nestedTimestamp
  /-- The number of a character, or the weight of a digit, is out of all range. -/
  | overflow
  /-- The number of a character is that of half of a surrogate pair. -/
  | unpaired
  deriving DecidableEq

/-- A tag as it is written: a handle and a suffix, or a whole name. -/
structure Tag where
  handle? : Option String
  suffix : String
  deriving DecidableEq

/-- A directive before a document. -/
inductive Directive where
  | yaml (major minor : Nat)
  | tag (handle text : String)
  | other
  deriving DecidableEq

inductive Token where
  | directive (directive : Directive)
  | documentStart | documentEnd
  | blockSequenceStart | blockMappingStart | blockEnd
  | flowSequenceStart | flowSequenceEnd | flowMappingStart | flowMappingEnd
  | blockEntry | flowEntry | key | value
  | alias (name : String)
  | anchor (name : String)
  | tag (tag : Tag)
  | scalar (text : String) (isPlain : Bool)
  deriving DecidableEq

end ClassProfile.Yaml
