import ClassProfile.Yaml.Token.Property

/-! Scalars in their styles: quoted, in blocks, and plain. Line breaks fold into
spaces in all but literal blocks. -/
namespace ClassProfile.Yaml

/-- The characters that letters stand for after a backslash. -/
def escapeLetters : List (Char × Char) :=
  [('0', '\x00'), ('a', '\x07'), ('b', '\x08'), ('t', '\t'), ('\t', '\t'), ('n', '\n'),
    ('v', '\x0b'), ('f', '\x0c'), ('r', '\r'), ('e', '\x1b'), (' ', ' '), ('"', '"'),
    ('\\', '\\'), ('/', '/'), ('N', '\x85'), ('_', '\xa0'), ('L', '\u2028'), ('P', '\u2029')]

/-- How many digits follow a letter that introduces the number of a character. -/
def escapeWidths : List (Char × Nat) := [('x', 2), ('u', 4), ('U', 8)]

/-- The character of a number, which half of a surrogate pair has not. -/
def characterOf (number : Nat) : Except Failure Char :=
  if number ≤ 0x10FFFF then
    if number.isValidChar then .ok (Char.ofNat number) else .error .unpaired
  else if number ≤ 0x7FFFFFFF then .error .badValue
  else .error .overflow

/-- Breaks within quotes. A separator of documents may not stand at the start of a
line. -/
def quotedBreaks (cursor : Cursor) : Except Failure (List Char × Cursor) :=
  go cursor.rest.length cursor
where
  go : Nat → Cursor → Except Failure (List Char × Cursor)
    | 0, cursor => .ok ([], cursor)
    | steps + 1, cursor =>
      if cursor.atSeparator then .error .invalid
      else
        let start := cursor.dropWhile fun c => c == ' ' || c == '\t'
        match start.lineBreak? with
        | none => .ok ([], start)
        | some (c, after) => do
          let (more, last) ← go steps after
          return (c :: more, last)

/-- The escape after a backslash in double quotes: what it adds to the text. -/
def scanEscape (cursor : Cursor) : Except Failure (List Char × Cursor) :=
  match cursor.peek with
  | none => .error .invalid
  | some letter =>
    match escapeLetters.lookup letter, escapeWidths.lookup letter with
    | some c, _ => .ok ([c], cursor.advance)
    | none, some width =>
      let digits := (cursor.rest.drop 1).take width
      match Text.hexNumber? digits with
      | none => .error .invalid
      | some number =>
        if digits.length < width then .error .invalid
        else do return ([← characterOf number], cursor.advanceBy (1 + width))
    | none, none =>
      if isBreak letter then quotedBreaks cursor.skipBreak else .error .invalid

/-- White space within quotes: kept within a line, folded at its end. -/
def quotedSpace (cursor : Cursor) : Except Failure (List Char × Cursor) :=
  let (space, after) := cursor.takeWhile fun c => c == ' ' || c == '\t'
  match after.peek, after.lineBreak? with
  | none, _ => .error .invalid
  | _, none => .ok (space, after)
  | _, some (first, start) => do
    let (more, last) ← quotedBreaks start
    return (folded first more, last)

/-- The text in quotes, up to and with the closing quote. -/
def scanQuoted (quote : Char) (cursor : Cursor) : Except Failure (List Char × Cursor) :=
  go (cursor.rest.length + 1) cursor.advance
where
  go : Nat → Cursor → Except Failure (List Char × Cursor)
    | 0, _ => .error .invalid
    | steps + 1, cursor =>
      match cursor.peek with
      | none => .error .invalid
      | some c =>
        if c = quote then
          if quote = '\'' && cursor.peekAt 1 = some '\'' then do
            let (more, last) ← go steps (cursor.advanceBy 2)
            return ('\'' :: more, last)
          else .ok ([], cursor.advance)
        else if quote = '"' && c = '\\' then do
          let (escaped, after) ← scanEscape cursor.advance
          let (more, last) ← go steps after
          return (escaped ++ more, last)
        else if endsWord (some c) then do
          let (space, after) ← quotedSpace cursor
          let (more, last) ← go steps after
          return (space ++ more, last)
        else do
          let (more, last) ← go steps cursor.advance
          return (c :: more, last)

/-- What becomes of the line breaks that end a block. -/
inductive Chomping where
  | strip | clip | keep
  deriving DecidableEq

def Chomping.ofSign? : Option Char → Option Chomping
  | some '+' => some keep
  | some '-' => some strip
  | _ => none

/-- The indentation that a digit asks for; zero is refused. -/
def indentOfDigit? (c : Option Char) : Except Failure (Option Nat) :=
  match c with
  | none => .ok none
  | some c =>
    if c = '0' then .error .invalid
    else if c.isDigit then .ok (some (c.toNat - 48))
    else .ok none

/-- The indicators of a block, in either order, and the rest of its first line. -/
def scanBlockHeader (cursor : Cursor) : Except Failure (Chomping × Option Nat × Cursor) := do
  let (chomping?, indent?, after) ←
    match Chomping.ofSign? cursor.peek with
    | some chomping =>
      match ← indentOfDigit? cursor.advance.peek with
      | some indent => pure (some chomping, some indent, cursor.advanceBy 2)
      | none => pure (some chomping, none, cursor.advance)
    | none =>
      match ← indentOfDigit? cursor.peek with
      | none => pure (none, none, cursor)
      | some indent =>
        match Chomping.ofSign? cursor.advance.peek with
        | some chomping => pure (some chomping, some indent, cursor.advanceBy 2)
        | none => pure (none, some indent, cursor.advance)
  if !endsPart after.peek then .error .invalid
  else return (chomping?.getD .clip, indent?, ← endLine after)

/-- Passes over spaces up to a column. -/
def skipToColumn (column : Nat) (cursor : Cursor) : Cursor :=
  cursor.advanceBy (min (column - cursor.column) (cursor.rest.takeWhile (· == ' ')).length)

/-- The empty lines at the start of a block, and the greatest column that spaces
reach on the way to its first line. -/
def leadingBreaks (cursor : Cursor) : List Char × Nat × Cursor :=
  go cursor.rest.length 0 cursor
where
  go : Nat → Nat → Cursor → List Char × Nat × Cursor
    | 0, greatest, cursor => ([], greatest, cursor)
    | steps + 1, greatest, cursor =>
      let start := cursor.dropWhile (· == ' ')
      let greatest := max greatest start.column
      match start.lineBreak? with
      | none => ([], greatest, start)
      | some (c, after) =>
        let (more, column, last) := go steps greatest after
        (c :: more, column, last)

/-- The lines of a block that stand at its column: the text, the break after the
last line and the empty lines that follow. -/
def blockLines (isFolded : Bool) (column : Nat) (breaks : List Char) (cursor : Cursor) :
    List Char × List Char × List Char × Cursor :=
  go cursor.rest.length breaks cursor
where
  go : Nat → List Char → Cursor → List Char × List Char × List Char × Cursor
    | 0, breaks, cursor => ([], [], breaks, cursor)
    | steps + 1, breaks, cursor =>
      if cursor.column = column && cursor.peek.isSome then
        let startsWithSpace := cursor.peek.any fun c => c == ' ' || c == '\t'
        let (line, ending) := cursor.takeWhile fun c => !isBreak c
        let lineBreak := (ending.lineBreak?.map Prod.fst).toList
        let (following, next) := ending.skipBreak.breaks (skipToColumn column)
        if next.column = column && next.peek.isSome then
          let joined :=
            if isFolded && lineBreak == ['\n'] && !startsWithSpace &&
                !(next.peek.any fun c => c == ' ' || c == '\t') then
              if following.isEmpty then [' '] else []
            else lineBreak
          let (more, rest) := go steps following next
          (breaks ++ line ++ joined ++ more, rest)
        else (breaks ++ line, lineBreak, following, next)
      else ([], [], breaks, cursor)

/-- A block scalar within a collection at the given column, which is negative
where there is none. -/
def scanBlock (isFolded : Bool) (indent : Int) (cursor : Cursor) :
    Except Failure (List Char × Cursor) := do
  let (chomping, indent?, start) ← scanBlockHeader cursor.advance
  let least := (max (indent + 1) 1).toNat
  let (column, breaks, first) :=
    match indent? with
    | some more =>
      let column := least + more - 1
      let (breaks, first) := start.breaks (skipToColumn column)
      (column, breaks, first)
    | none =>
      let (breaks, greatest, first) := leadingBreaks start
      (max least greatest, breaks, first)
  let (text, lineBreak, following, last) := blockLines isFolded column breaks first
  return (text ++ (if chomping = .strip then [] else lineBreak) ++
    (if chomping = .keep then following else []), last)

/-- The space after a part of a plain scalar: what stands for it if the scalar goes
on, nothing if it cannot, and whether a line has ended. -/
def plainSpace (cursor : Cursor) : List Char × Bool × Cursor :=
  let (space, after) := cursor.takeWhile (· == ' ')
  match after.lineBreak? with
  | none => (space, false, after)
  | some (first, start) =>
    match go start.rest.length start with
    | (none, last) => ([], true, last)
    | (some more, last) => (folded first more, true, last)
where
  go : Nat → Cursor → Option (List Char) × Cursor
    | 0, cursor => (some [], cursor)
    | steps + 1, cursor =>
      if cursor.atSeparator then (none, cursor)
      else
        let start := cursor.dropWhile (· == ' ')
        match start.lineBreak? with
        | none => (some [], start)
        | some (c, after) =>
          let (more, last) := go steps after
          (more.map (c :: ·), last)

/-- A part of a plain scalar ends before the first of these characters. -/
def endsPlain (inFlow : Bool) (next : List Char) : Bool :=
  match next with
  | [] => true
  | c :: rest =>
    endsWord (some c) ||
      (c == ':' && (endsWord rest.head? ||
        (inFlow && rest.head?.any fun d => ",[]\x7b\x7d".toList.contains d))) ||
      (inFlow && ",?[]\x7b\x7d".toList.contains c)

def plainLength (inFlow : Bool) : List Char → Nat
  | [] => 0
  | c :: rest => if endsPlain inFlow (c :: rest) then 0 else plainLength inFlow rest + 1

/-- A plain scalar, and whether it has ended with its line. Outside of flow
collections a line must be indented beyond the given column. -/
def scanPlain (inFlow : Bool) (indent : Int) (cursor : Cursor) : List Char × Bool × Cursor :=
  go cursor.rest.length [] false cursor
where
  go : Nat → List Char → Bool → Cursor → List Char × Bool × Cursor
    | 0, _, atLineEnd, cursor => ([], atLineEnd, cursor)
    | steps + 1, space, atLineEnd, cursor =>
      let length := if cursor.peek = some '#' then 0 else plainLength inFlow cursor.rest
      if length = 0 then ([], atLineEnd, cursor)
      else
        let part := cursor.rest.take length
        let (next, atLineEnd, after) := plainSpace (cursor.advanceBy length)
        if next.isEmpty || after.peek = some '#' ||
            (!inFlow && decide ((after.column : Int) < indent + 1)) then
          (space ++ part, atLineEnd, after)
        else
          let (more, rest) := go steps next atLineEnd after
          (space ++ part ++ more, rest)

end ClassProfile.Yaml
