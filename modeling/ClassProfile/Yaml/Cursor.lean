/-! A place in a YAML text: what is left of the text, and the line and column that
have been reached. -/
namespace ClassProfile.Yaml

/-- A character that the text may contain. -/
def isAllowed (c : Char) : Bool :=
  c == '\t' || c == '\n' || c == '\r' || c == '\x85' ||
    (decide (0x20 ≤ c.toNat) && decide (c.toNat ≤ 0x7E)) ||
    (decide (0xA0 ≤ c.toNat) && c != '\ufffe' && c != '\uffff')

def isBreak (c : Char) : Bool :=
  c == '\n' || c == '\r' || c == '\x85' || c == '\u2028' || c == '\u2029'

/-- A letter, digit, hyphen or low line of ASCII. -/
def isWordPart (c : Char) : Bool := c.isAlphanum || c == '-' || c == '_'

def endsLine : Option Char → Bool
  | none => true
  | some c => isBreak c

/-- The text or the line ends, or a space follows. -/
def endsPart : Option Char → Bool
  | none => true
  | some c => isBreak c || c == ' '

/-- The text or the line ends, or a space or tab follows. -/
def endsWord : Option Char → Bool
  | none => true
  | some c => isBreak c || c == ' ' || c == '\t'

/-- A place in a text. -/
structure Cursor where
  rest : List Char
  index : Nat := 0
  line : Nat := 0
  column : Nat := 0

namespace Cursor

def peek (cursor : Cursor) : Option Char := cursor.rest.head?

/-- The character at a distance from the place. -/
def peekAt (cursor : Cursor) (distance : Nat) : Option Char := cursor.rest[distance]?

/-- The place after one character. A carriage return and a line feed break one
line together; a byte order mark takes no column. -/
def advance (cursor : Cursor) : Cursor :=
  match cursor.rest with
  | [] => cursor
  | c :: rest =>
    if isBreak c && !(c == '\r' && rest.head? == some '\n') then
      ⟨rest, cursor.index + 1, cursor.line + 1, 0⟩
    else if c == '\ufeff' then { cursor with rest, index := cursor.index + 1 }
    else { cursor with rest, index := cursor.index + 1, column := cursor.column + 1 }

def advanceBy (cursor : Cursor) : Nat → Cursor
  | 0 => cursor
  | count + 1 => cursor.advance.advanceBy count

/-- The characters with a property, and the place after them. -/
def takeWhile (cursor : Cursor) (property : Char → Bool) : List Char × Cursor :=
  let taken := cursor.rest.takeWhile property
  (taken, cursor.advanceBy taken.length)

/-- The place after the characters with a property. -/
def dropWhile (cursor : Cursor) (property : Char → Bool) : Cursor :=
  (cursor.takeWhile property).2

/-- A line break as it is read, and the place after it. The separators of Unicode
stand for themselves and all others for a line feed. -/
def lineBreak? (cursor : Cursor) : Option (Char × Cursor) :=
  match cursor.rest with
  | '\r' :: '\n' :: _ => some ('\n', cursor.advanceBy 2)
  | c :: _ =>
    if c == '\u2028' || c == '\u2029' then some (c, cursor.advance)
    else if isBreak c then some ('\n', cursor.advance)
    else none
  | [] => none

/-- The place after a line break, if there is one. -/
def skipBreak (cursor : Cursor) : Cursor :=
  match cursor.lineBreak? with
  | some (_, after) => after
  | none => cursor

/-- Three hyphens or dots on their own stand here, as between documents. -/
def atSeparator (cursor : Cursor) : Bool :=
  (cursor.rest.take 3 == ['-', '-', '-'] || cursor.rest.take 3 == ['.', '.', '.']) &&
    endsWord (cursor.peekAt 3)

/-- The line breaks from here on, with what `skip` passes over before each, and
the place after them. As many steps as there are characters suffice. -/
def breaks (skip : Cursor → Cursor) (cursor : Cursor) : List Char × Cursor :=
  go cursor.rest.length cursor
where
  go : Nat → Cursor → List Char × Cursor
    | 0, cursor => ([], cursor)
    | steps + 1, cursor =>
      let start := skip cursor
      match start.lineBreak? with
      | none => ([], start)
      | some (c, after) =>
        let (more, last) := go steps after
        (c :: more, last)

end Cursor

/-- A line break between two parts of a scalar: a lone line feed folds into a
space, and one before empty lines is dropped. -/
def folded (first : Char) (more : List Char) : List Char :=
  if first != '\n' then first :: more
  else if more.isEmpty then [' ']
  else more

end ClassProfile.Yaml
