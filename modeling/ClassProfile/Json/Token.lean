import ClassProfile.Decimal.Digits
import ClassProfile.Decimal.Shortest
import ClassProfile.Json.Basic
import ClassProfile.Text.Hex

/-! Tokens of JSON text. Strings are written in ASCII: other characters, and the
controls among them, by the numbers of their 16-bit units, except where the
format sets a letter aside. Reading takes raw characters outside ASCII as well.
Besides the numbers of the format, the words for infinity and for what is no number
are read. In place of a token may stand what cannot be read as one. -/
namespace ClassProfile.Json

inductive Token where
  | beginArray | endArray | beginObject | endObject | comma | colon
  | string (text : String)
  /-- A number or one of the words. -/
  | atom (value : Json)

/-- Why a text is not read. -/
inductive Failure where
  /-- The text is not JSON. -/
  | notJson
  /-- A string has half of a surrogate pair alone, which is no character. What such a
  string is read as is left open. -/
  | unpaired
  /-- A whole number has too many digits. -/
  | overlong
  deriving DecidableEq

/-- The letter that follows the backslash for a character that has one. -/
def shortEscapes : List (Char × Char) :=
  [('"', '"'), ('\\', '\\'), ('\n', 'n'), ('\r', 'r'), ('\t', 't'), ('\x08', 'b'), ('\x0c', 'f')]

/-- One character within a written string. -/
def escaped (c : Char) : List Char :=
  match shortEscapes.find? (·.1 == c) with
  | some (_, letter) => ['\\', letter]
  | none =>
    if 0x20 ≤ c.toNat ∧ c.toNat < 0x7F then [c]
    else if c.toNat < 0x10000 then '\\' :: 'u' :: Text.hexDigits 4 c.toNat
    else
      let above := c.toNat - 0x10000
      '\\' :: 'u' :: (Text.hexDigits 4 (0xD800 + above / 0x400) ++
        '\\' :: 'u' :: Text.hexDigits 4 (0xDC00 + above % 0x400))

def quotedText (text : List Char) : List Char :=
  '"' :: text.flatMap escaped ++ ['"']

def numberLayout : Decimal.Layout :=
  { Decimal.plainLayout with infinity := "Infinity", notANumber := "NaN" }

def atomText : Json → String
  | .null => "null"
  | .bool true => "true"
  | .bool false => "false"
  | .int value => toString value
  | .float value => numberLayout.text value
  | _ => ""

def Token.text : Token → List Char
  | beginArray => ['[']
  | endArray => [']']
  | beginObject => ['\x7b']
  | endObject => ['\x7d']
  | comma => [',']
  | colon => [':']
  | string text => quotedText text.toList
  | atom value => (atomText value).toList

/-- The character that the letter after a backslash stands for. -/
def shortEscape? (letter : Char) : Option Char :=
  if letter = '/' then some '/'
  else (shortEscapes.find? (·.2 == letter)).map Prod.fst

/-- The 16-bit unit at the start of a text, and the rest. -/
def unit? : List Char → Option (Nat × List Char)
  | a :: b :: c :: d :: rest => (Text.hexNumber? [a, b, c, d]).map (·, rest)
  | _ => none

/-- The unit is the first or second half of a surrogate pair. -/
def isFirstHalf (n : Nat) : Bool := decide (0xD800 ≤ n) && decide (n < 0xDC00)

@[inherit_doc isFirstHalf]
def isSecondHalf (n : Nat) : Bool := decide (0xDC00 ≤ n) && decide (n < 0xE000)

/-- The character of a unit, if that is not half of a pair. -/
def charOfUnit? (n : Nat) : Option Char :=
  if isFirstHalf n || isSecondHalf n then none else some (Char.ofNat n)

/-- The character that an escape stands for, which is none for half of a pair alone,
and the text after it. The backslash has been read. -/
def escape? : List Char → Option (Option Char × List Char)
  | [] => none
  | letter :: rest =>
    if letter = 'u' then
      match unit? rest with
      | none => none
      | some (first, after) =>
        match isFirstHalf first, after with
        | true, '\\' :: 'u' :: more =>
          match unit? more with
          | none => none
          | some (second, last) =>
            if isSecondHalf second then
              some (some (Char.ofNat (0x10000 + (first - 0xD800) * 0x400 + (second - 0xDC00))),
                last)
            else some (none, after)
        | _, _ => some (charOfUnit? first, after)
    else (shortEscape? letter).map fun c => (some c, rest)

theorem length_unit?_lt {text rest : List Char} {n : Nat} (h : unit? text = some (n, rest)) :
    rest.length < text.length := by
  unfold unit? at h
  split at h
  · obtain ⟨_, _, h⟩ := Option.map_eq_some_iff.mp h
    cases h
    simp only [List.length_cons]
    omega
  · simp at h

theorem length_escape?_lt {text rest : List Char} {c : Option Char}
    (h : escape? text = some (c, rest)) : rest.length < text.length := by
  unfold escape? at h
  split at h
  · simp at h
  · split at h
    · split at h
      · simp at h
      · next found =>
        have first := length_unit?_lt found
        split at h
        · split at h
          · simp at h
          · next more _ _ second =>
            have last := length_unit?_lt second
            simp only [List.length_cons] at first ⊢
            split at h
            · obtain ⟨-, rfl⟩ := Prod.mk.inj (Option.some.inj h)
              omega
            · obtain ⟨-, rfl⟩ := Prod.mk.inj (Option.some.inj h)
              simp only [List.length_cons]
              omega
        · obtain ⟨-, rfl⟩ := Prod.mk.inj (Option.some.inj h)
          simp only [List.length_cons]
          omega
    · obtain ⟨_, _, h⟩ := Option.map_eq_some_iff.mp h
      cases h
      simp

/-- What a string has up to its closing quote, character by character, and what follows.
The opening quote has been read. -/
def stringBody? : List Char → Option (List (Option Char) × List Char)
  | [] => none
  | c :: rest =>
    if c = '"' then some ([], rest)
    else if c = '\\' then
      match _h : escape? rest with
      | none => none
      | some (character, after) =>
        (stringBody? after).map fun (body, last) => (character :: body, last)
    else if c.toNat < 0x20 then none
    else (stringBody? rest).map fun (body, last) => (some c :: body, last)
  termination_by text => text.length
  decreasing_by
    · have := length_escape?_lt _h
      simp only [List.length_cons]
      omega
    · simp

/-- A fraction: its digits and the rest of the text. -/
def fraction? : List Char → Option (List Char × List Char)
  | '.' :: rest =>
    let digits := rest.takeWhile Char.isDigit
    if digits.isEmpty then none else some (digits, rest.drop digits.length)
  | _ => none

/-- An exponent and the rest of the text. -/
def exponent? : List Char → Option (Int × List Char)
  | [] => none
  | mark :: rest =>
    if mark = 'e' ∨ mark = 'E' then
      let (negative, unsigned) := match rest with
        | '-' :: more => (true, more)
        | '+' :: more => (false, more)
        | more => (false, more)
      let digits := unsigned.takeWhile Char.isDigit
      if digits.isEmpty then none
      else
        let value : Int := Decimal.ofDigits digits
        some (if negative then -value else value, unsigned.drop digits.length)
    else none

/-- The number without its sign at the start of a text, and the rest. A number
with neither fraction nor exponent is whole. -/
def number? (negative : Bool) (text : List Char) : Option (Except Failure Json × List Char) :=
  let whole := match text with
    | '0' :: _ => ['0']
    | text => text.takeWhile Char.isDigit
  if whole.isEmpty then none
  else
    let afterWhole := text.drop whole.length
    let (fraction, afterFraction) := (fraction? afterWhole).getD ([], afterWhole)
    match exponent? afterFraction, fraction with
    | none, [] =>
      if Decimal.mostDigits < whole.length then some (.error .overlong, afterWhole)
      else
        let value : Int := Decimal.ofDigits whole
        some (.ok (.int (if negative then -value else value)), afterWhole)
    | exponent, fraction =>
      let (power, rest) := exponent.getD (0, afterFraction)
      let digits := Decimal.ofDigits (whole ++ fraction)
      let magnitude := Decimal.nearest digits (power - fraction.length)
      some (.ok (.float (if negative then -magnitude else magnitude)), rest)

/-- The words and what they stand for. -/
def words : List (String × Json) :=
  [("null", .null), ("true", .bool true), ("false", .bool false), ("NaN", .float (0 / 0)),
    ("Infinity", .float (1 / 0)), ("-Infinity", .float (-1 / 0))]

/-- The number or word at the start of a text, and the rest. -/
def atom? (text : List Char) : Option (Except Failure Json × List Char) :=
  match words.find? (fun (word, _) => word.toList.isPrefixOf text) with
  | some (word, value) => some (.ok value, text.drop word.length)
  | none =>
    match text with
    | '-' :: rest => number? true rest
    | text => number? false text

/-- The string of these characters, if none is missing. -/
def stringOf (body : List (Option Char)) : Except Failure Token :=
  match body.mapM id with
  | some text => .ok (.string (String.ofList text))
  | none => .error .unpaired

/-- The token that starts with a character, or what cannot be read as one, and the rest of
the text. -/
def token? (c : Char) (rest : List Char) : Option (Except Failure Token × List Char) :=
  if c = '[' then some (.ok .beginArray, rest)
  else if c = ']' then some (.ok .endArray, rest)
  else if c = '\x7b' then some (.ok .beginObject, rest)
  else if c = '\x7d' then some (.ok .endObject, rest)
  else if c = ',' then some (.ok .comma, rest)
  else if c = ':' then some (.ok .colon, rest)
  else if c = '"' then (stringBody? rest).map fun (body, last) => (stringOf body, last)
  else (atom? (c :: rest)).map fun (value, last) => (value.map .atom, last)

/-- The white space between tokens. -/
def isSpace (c : Char) : Bool := c == ' ' || c == '\t' || c == '\n' || c == '\r'

/-- The tokens of a text, up to where none can be cut off. A token takes at least one
character, so as many steps as there are characters suffice. -/
def scanWithin : Nat → List Char → List (Except Failure Token)
  | _, [] => []
  | 0, _ :: _ => [.error .notJson]
  | steps + 1, c :: rest =>
    if isSpace c then scanWithin steps rest
    else match token? c rest with
      | none => [.error .notJson]
      | some (token, last) => token :: scanWithin steps last

def scan (text : String) : List (Except Failure Token) :=
  scanWithin text.toList.length text.toList

end ClassProfile.Json
