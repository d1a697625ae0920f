import ClassProfile.Text.LetterCase
import ClassProfile.Yaml.Scalar.Implicit

/-! The value of a scalar under its tag. -/
namespace ClassProfile.Yaml

/-- The truth values of words in lower case. -/
def truthOf (word : String) : Option Bool :=
  if ["yes", "true", "on"].contains word then some true
  else if ["no", "false", "off"].contains word then some false
  else none

/-- The value of a digit to the base of sixty-four. -/
def base64Value? (c : Char) : Option Nat :=
  if c.isUpper then some (c.toNat - 65)
  else if c.isLower then some (c.toNat - 71)
  else if c.isDigit then some (c.toNat + 4)
  else if c = '+' then some 62
  else if c = '/' then some 63
  else none

/-- The bytes that digits to the base of sixty-four stand for. Other characters are
passed over, and padding that completes a group ends the text. The arguments are
how many digits of a group have been read, the bits left over from them, and how
much padding has been seen since. -/
def bytesOfBase64 : Nat → Nat → Nat → List Char → Option (List UInt8)
  | count, _, _, [] => if count = 0 then some [] else none
  | count, bits, padding, c :: rest =>
    if c = '=' then
      if 2 ≤ count then
        if 4 ≤ count + padding + 1 then some [] else bytesOfBase64 count bits (padding + 1) rest
      else bytesOfBase64 count bits padding rest
    else match base64Value? c with
      | none => bytesOfBase64 count bits padding rest
      | some digit =>
        let all := bits * 64 + digit
        match count with
        | 0 => bytesOfBase64 1 all 0 rest
        | 1 => (bytesOfBase64 2 (all % 16) 0 rest).map (UInt8.ofNat (all / 16) :: ·)
        | 2 => (bytesOfBase64 3 (all % 4) 0 rest).map (UInt8.ofNat (all / 4) :: ·)
        | _ => (bytesOfBase64 0 0 0 rest).map (UInt8.ofNat all :: ·)

inductive ScalarType where
  | null | bool | int | float | binary | timestamp | text
  deriving DecidableEq

def ScalarType.ofTag? (tag : String) : Option ScalarType :=
  [(coreTag "null", null), (coreTag "bool", bool), (coreTag "int", int),
    (coreTag "float", float), (coreTag "binary", binary), (coreTag "timestamp", timestamp),
    (coreTag "str", text)].lookup tag

def ScalarType.value (type : ScalarType) (text : String) : Except Failure Scalar :=
  match type with
  | .null => .ok .null
  | .bool =>
    let word := String.ofList (text.toList.flatMap Text.lower)
    match truthOf word with
    | some value => .ok (.bool value)
    | none => .error (.badWord word)
  | .int => (wholeNumber text.toList).map .int
  | .float =>
    (floatNumber text.toList).map fun number =>
      if number.isNaN then .notANumber 0 else .float number
  | .binary =>
    if text.toList.all fun c => decide (c.toNat < 128) then
      match bytesOfBase64 0 0 0 text.toList with
      | some bytes => .ok (.bytes bytes)
      | none => .error .invalid
    else .error .invalid
  | .timestamp =>
    let characters := text.toList
    let form := if characters.getLast? == some '\n' then characters.dropLast else characters
    match timestamp? form with
    | some found => found.value
    | none => .error .badTimestamp
  | .text => .ok (.text text)

end ClassProfile.Yaml
