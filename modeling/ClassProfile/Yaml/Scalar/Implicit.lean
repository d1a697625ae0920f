import ClassProfile.Yaml.Scalar.Number
import ClassProfile.Yaml.Scalar.Timestamp

/-! The types of scalars that state none. A plain scalar is given the first type
whose form it has, and is a text if it has none of these forms. -/
namespace ClassProfile.Yaml

/-- The tags of the types that need no handle. -/
def coreTag (name : String) : String := "tag:yaml.org,2002:" ++ name

/-- The words for truth values. -/
def boolWords : List String :=
  ["yes", "Yes", "YES", "no", "No", "NO", "true", "True", "TRUE", "false", "False", "FALSE",
    "on", "On", "ON", "off", "Off", "OFF"]

/-- The words for no value. -/
def nullWords : List String := ["", "~", "null", "Null", "NULL"]

def isDigitOrLine (c : Char) : Bool := c.isDigit || c == '_'

/-- A part to the base of sixty: one digit, or two of which the first is below six. -/
def isSexagesimal : List Char → Bool
  | [c] => c.isDigit
  | [c, d] => c.isDigit && decide (c < '6') && d.isDigit
  | _ => false

/-- Not empty, and all with a property. -/
def allSome (property : Char → Bool) (text : List Char) : Bool :=
  !text.isEmpty && text.all property

/-- The form of a whole number. -/
def isInt (text : List Char) : Bool :=
  let unsigned := (splitSign text).2
  match unsigned with
  | '0' :: 'b' :: digits => allSome (fun c => c == '0' || c == '1' || c == '_') digits
  | '0' :: 'x' :: digits => allSome (fun c => (Text.hexValue? c).isSome || c == '_') digits
  | '0' :: digits => digits.all fun c => (c.isDigit && decide (c < '8')) || c == '_'
  | c :: _ =>
    match Text.parts ':' unsigned with
    | first :: parts => c.isDigit && first.all isDigitOrLine && parts.all isSexagesimal
    | [] => false
  | [] => false

/-- The form of an exponent, which may be missing. -/
def isExponent : List Char → Bool
  | [] => true
  | mark :: sign :: digits =>
    (mark == 'e' || mark == 'E') && (sign == '+' || sign == '-') && allSome Char.isDigit digits
  | _ => false

/-- The form of a number that need not be whole. -/
def isFloat (text : List Char) : Bool :=
  let unsigned := (splitSign text).2
  match unsigned with
  | '.' :: rest =>
    [".inf", ".Inf", ".INF"].contains (String.ofList unsigned) ||
      [".nan", ".NaN", ".NAN"].contains (String.ofList text) ||
      (text.head? == some '.' && rest.head?.any Char.isDigit &&
        isExponent (rest.dropWhile isDigitOrLine))
  | c :: _ =>
    let whole := unsigned.takeWhile isDigitOrLine
    c.isDigit && match unsigned.drop whole.length with
      | '.' :: rest => isExponent (rest.dropWhile isDigitOrLine)
      | ':' :: rest =>
        match (Text.parts ':' rest).reverse with
        | last :: parts =>
          let seconds := last.takeWhile Char.isDigit
          parts.all isSexagesimal && isSexagesimal seconds &&
            match last.drop seconds.length with
            | '.' :: fraction => fraction.all isDigitOrLine
            | _ => false
        | [] => false
      | _ => false
  | [] => false

/-- The form of a timestamp. A day without a time has two digits for its month and
its day. -/
def isTimestamp (text : List Char) : Bool :=
  (timestamp? text).any fun timestamp => timestamp.time?.isSome || timestamp.isPadded

/-- The tag of a scalar by its form. A line feed at its end does not matter. -/
def implicitTag (value : String) : String :=
  let text := value.toList
  let form := if text.getLast? == some '\n' then text.dropLast else text
  let word := String.ofList form
  if boolWords.contains word then coreTag "bool"
  else if isFloat form then coreTag "float"
  else if isInt form then coreTag "int"
  else if word == "<<" then coreTag "merge"
  else if nullWords.contains word && (!form.isEmpty || text.isEmpty) then coreTag "null"
  else if isTimestamp form then coreTag "timestamp"
  else if word == "=" then coreTag "value"
  else if ["!", "&", "*"].contains word then coreTag "yaml"
  else coreTag "str"

end ClassProfile.Yaml
