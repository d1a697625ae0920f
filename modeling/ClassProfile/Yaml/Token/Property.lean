import ClassProfile.Decimal.Digits
import ClassProfile.Text.Hex
import ClassProfile.Yaml.Token.Basic

/-! Anchors, aliases, tags and directives. -/
namespace ClassProfile.Yaml

/-- The name after the mark of an anchor or alias. -/
def scanName (cursor : Cursor) : Except Failure (String × Cursor) :=
  let (name, after) := cursor.advance.takeWhile isWordPart
  let ends := endsWord after.peek || (after.peek.any fun c => "?:,]\x7d%@\x60".toList.contains c)
  if name.isEmpty || !ends then .error .invalid else .ok (String.ofList name, after)

def isTagCharacter (c : Char) : Bool :=
  c.isAlphanum || "-;/?:@&=+$,_.!~*'()[]%".toList.contains c

/-- The bytes that escapes within the name of a tag stand for. Each takes three
characters. -/
def scanBytes : Nat → Cursor → Except Failure (List UInt8 × Cursor)
  | 0, cursor => .ok ([], cursor)
  | steps + 1, cursor =>
    match cursor.rest with
    | '%' :: high :: low :: _ =>
      match Text.hexNumber? [high, low] with
      | none => .error .invalid
      | some byte => do
        let (more, last) ← scanBytes steps (cursor.advanceBy 3)
        return (UInt8.ofNat byte :: more, last)
    | '%' :: _ => .error .invalid
    | _ => .ok ([], cursor)

/-- The name of a tag, with the characters that its escapes stand for. -/
def scanTagName (cursor : Cursor) : Except Failure (String × Cursor) := do
  let (name, after) ← go cursor.rest.length cursor
  if name.isEmpty then .error .invalid else return (String.ofList name, after)
where
  go : Nat → Cursor → Except Failure (List Char × Cursor)
    | 0, cursor => .ok ([], cursor)
    | steps + 1, cursor =>
      match cursor.peek with
      | none => .ok ([], cursor)
      | some c =>
        if c = '%' then do
          let (bytes, after) ← scanBytes cursor.rest.length cursor
          match String.fromUTF8? ⟨bytes.toArray⟩ with
          | none => .error .invalid
          | some text =>
            let (more, last) ← go steps after
            return (text.toList ++ more, last)
        else if isTagCharacter c then do
          let (more, last) ← go steps cursor.advance
          return (c :: more, last)
        else .ok ([], cursor)

/-- The handle of a tag: a word between exclamation marks, or one or two of these. -/
def scanHandle (cursor : Cursor) : Except Failure (String × Cursor) :=
  match cursor.rest with
  | '!' :: ' ' :: _ => .ok ("!", cursor.advance)
  | '!' :: _ =>
    let (word, after) := cursor.advance.takeWhile isWordPart
    if after.peek = some '!' then
      .ok (String.ofList ('!' :: word ++ ['!']), after.advance)
    else .error .invalid
  | _ => .error .invalid

def scanTag (cursor : Cursor) : Except Failure (Tag × Cursor) := do
  let (tag, after) ← parts
  if endsPart after.peek then return (tag, after) else .error .invalid
where
  parts : Except Failure (Tag × Cursor) := do
    if cursor.peekAt 1 = some '<' then
      let (name, after) ← scanTagName (cursor.advanceBy 2)
      if after.peek = some '>' then return (⟨none, name⟩, after.advance) else .error .invalid
    else if endsWord (cursor.peekAt 1) then return (⟨none, "!"⟩, cursor.advance)
    else
      let word := (cursor.rest.drop 1).takeWhile fun c => !endsPart (some c)
      let (handle, after) ←
        if word.contains '!' then scanHandle cursor else pure ("!", cursor.advance)
      let (suffix, last) ← scanTagName after
      return (⟨some handle, suffix⟩, last)

/-- A comment and the end of the line, if nothing else is left on it. -/
def endLine (cursor : Cursor) : Except Failure Cursor :=
  let after := cursor.dropWhile (· == ' ')
  let after := if after.peek = some '#' then after.dropWhile fun c => !isBreak c else after
  if endsLine after.peek then .ok after.skipBreak else .error .invalid

def scanNumber (cursor : Cursor) : Except Failure (Nat × Cursor) :=
  let (digits, after) := cursor.takeWhile Char.isDigit
  if digits.isEmpty then .error .invalid
  else .ok (Decimal.ofDigits digits, after)

def scanDirective (cursor : Cursor) : Except Failure (Directive × Cursor) := do
  let (name, after) := cursor.advance.takeWhile isWordPart
  if name.isEmpty || !endsPart after.peek then .error .invalid
  else
    let (directive, last) ← parts (String.ofList name) (after.dropWhile (· == ' ')) after
    return (directive, ← endLine last)
where
  parts (name : String) (start after : Cursor) : Except Failure (Directive × Cursor) := do
    if name = "YAML" then
      let (major, point) ← scanNumber start
      if point.peek ≠ some '.' then .error .invalid
      else
        let (minor, last) ← scanNumber point.advance
        if endsPart last.peek then return (.yaml major minor, last) else .error .invalid
    else if name = "TAG" then
      let (handle, space) ← scanHandle start
      if space.peek ≠ some ' ' then .error .invalid
      else
        let (text, last) ← scanTagName (space.dropWhile (· == ' '))
        if endsPart last.peek then return (.tag handle text, last) else .error .invalid
    else return (.other, after.dropWhile fun c => !isBreak c)

end ClassProfile.Yaml
