import ClassProfile.Yaml.Token.Scalar

/-! The layout of a text: the columns of the blocks that are open, the depth of the
flow collections, and the places where a key may have begun. That a key has begun
is known only when its colon is met, which must be on the same line and not too
far on; its token is put before it then. -/
namespace ClassProfile.Yaml

/-- A place where a key may have begun. A key is required where nothing else can
stand in its column. -/
structure PendingKey where
  /-- How many tokens precede it. -/
  position : Nat
  isRequired : Bool
  index : Nat
  line : Nat
  column : Nat

/-- How far a text has been turned into tokens. -/
structure Layout where
  cursor : Cursor
  tokens : Array Token := #[]
  /-- How many flow collections are open. -/
  depth : Nat := 0
  /-- The column of the innermost block, and of those around it. -/
  column : Int := -1
  outer : List Int := []
  /-- A key without a question mark may begin here. -/
  allowsKey : Bool := true
  /-- Where keys may have begun, by the depth of flow collections. -/
  keys : List (Nat × PendingKey) := []

namespace Layout

/-- Within a flow collection. -/
def inFlow (layout : Layout) : Bool := layout.depth != 0

def push (layout : Layout) (token : Token) : Layout :=
  { layout with tokens := layout.tokens.push token }

/-- Gives up the place where a key may have begun at the present depth. -/
def dropKey (layout : Layout) : Except Failure Layout :=
  match layout.keys.lookup layout.depth with
  | none => .ok layout
  | some key =>
    if key.isRequired then .error .invalid
    else .ok { layout with keys := layout.keys.filter (·.1 != layout.depth) }

/-- The key can no longer be completed: its line has ended or it is too long. -/
def isStale (layout : Layout) (key : PendingKey) : Bool :=
  key.line != layout.cursor.line || decide (1024 < layout.cursor.index - key.index)

/-- Gives up all places where a key can no longer be completed. -/
def dropStaleKeys (layout : Layout) : Except Failure Layout :=
  if layout.keys.any fun (_, key) => layout.isStale key && key.isRequired then .error .invalid
  else .ok { layout with keys := layout.keys.filter fun (_, key) => !layout.isStale key }

/-- Marks the present place as one where a key may begin, if it may. -/
def saveKey (layout : Layout) : Except Failure Layout :=
  if layout.allowsKey then do
    let layout ← layout.dropKey
    let key : PendingKey :=
      { position := layout.tokens.size
        isRequired := !layout.inFlow && layout.column == layout.cursor.column
        index := layout.cursor.index
        line := layout.cursor.line
        column := layout.cursor.column }
    return { layout with keys := (layout.depth, key) :: layout.keys }
  else .ok layout

/-- Closes the blocks to the right of a column. -/
def unwind (layout : Layout) (column : Int) : Layout :=
  if layout.inFlow then layout else go layout.outer layout
where
  go : List Int → Layout → Layout
    | [], layout => layout
    | next :: rest, layout =>
      if column < layout.column then
        go rest { layout.push .blockEnd with column := next, outer := rest }
      else layout

/-- Opens a block at a column to the right of the innermost one, its token before
the given position. -/
def openBlock (layout : Layout) (column position : Nat) (token : Token) : Layout :=
  if layout.column < column then
    { layout with
      column := column
      outer := layout.column :: layout.outer
      tokens := layout.tokens.take position ++ #[token] ++ layout.tokens.drop position }
  else layout

/-- Opens a block here. Only where a key may begin may one open. -/
def openBlockHere (layout : Layout) (token : Token) : Except Failure Layout :=
  if layout.inFlow then .ok layout
  else if layout.allowsKey then
    .ok (layout.openBlock layout.cursor.column layout.tokens.size token)
  else .error .invalid

/-- Passes over what separates tokens: spaces, comments and line ends. After the
end of a line outside of flow collections a key may begin. -/
def skipToToken (layout : Layout) : Layout :=
  let atMark := layout.cursor.index == 0 && layout.cursor.peek == some '\ufeff'
  let start := if atMark then layout.cursor.advance else layout.cursor
  let (breaks, cursor) := start.breaks fun cursor =>
    let after := cursor.dropWhile (· == ' ')
    if after.peek = some '#' then after.dropWhile fun c => !isBreak c else after
  { layout with cursor, allowsKey := layout.allowsKey || (!breaks.isEmpty && !layout.inFlow) }

/-- A token that is one character long, or as long as given. -/
def mark (layout : Layout) (token : Token) (length : Nat) : Layout :=
  { layout.push token with cursor := layout.cursor.advanceBy length }

/-- The colon after a key. The key may have begun earlier on the line, or stands
empty here or after its question mark. -/
def markValue (layout : Layout) : Except Failure Layout :=
  match layout.keys.lookup layout.depth with
  | some key =>
    let layout := { layout with
      keys := layout.keys.filter (·.1 != layout.depth)
      tokens := layout.tokens.take key.position ++ #[Token.key] ++ layout.tokens.drop key.position
      allowsKey := false }
    let layout :=
      if layout.inFlow then layout
      else layout.openBlock key.column key.position .blockMappingStart
    .ok (layout.mark .value 1)
  | none => do
    let layout ← layout.openBlockHere .blockMappingStart
    let layout ← { layout with allowsKey := !layout.inFlow }.dropKey
    return layout.mark .value 1

/-- A scalar, anchor, alias or tag, at which a key may begin. -/
def content (layout : Layout) (scan : Layout → Except Failure (Token × Bool × Cursor)) :
    Except Failure Layout := do
  let layout ← layout.saveKey
  let (token, allowsKey, cursor) ← scan layout
  return { layout.push token with cursor, allowsKey }

/-- A plain scalar may begin with the character, given the one after it. -/
def startsPlain (inFlow : Bool) (c : Char) (next : Option Char) : Bool :=
  (!endsWord (some c) && !"-?:,[]\x7b\x7d#&*!|>'\"%@\x60".toList.contains c) ||
    (!endsWord next && (c == '-' || (!inFlow && (c == '?' || c == ':'))))

/-- The token at the present place, which is not the end of the text. -/
def scanToken (layout : Layout) (c : Char) : Except Failure Layout :=
  let cursor := layout.cursor
  let next := cursor.peekAt 1
  let atMargin := cursor.column == 0
  let openFlow (token : Token) : Except Failure Layout := do
    let layout ← layout.saveKey
    return { layout.mark token 1 with depth := layout.depth + 1, allowsKey := true }
  let closeFlow (token : Token) : Except Failure Layout := do
    let layout ← layout.dropKey
    if layout.inFlow then
      return { layout.mark token 1 with depth := layout.depth - 1, allowsKey := false }
    else .error .invalid
  let block (isFolded : Bool) : Except Failure Layout := do
    let layout ← { layout with allowsKey := true }.dropKey
    let (text, cursor) ← scanBlock isFolded layout.column cursor
    return { layout.push (.scalar (String.ofList text) false) with cursor }
  let quoted : Except Failure Layout := layout.content fun layout => do
    let (text, after) ← scanQuoted c layout.cursor
    return (.scalar (String.ofList text) false, false, after)
  let named (token : String → Token) : Except Failure Layout := layout.content fun layout => do
    let (name, after) ← scanName layout.cursor
    return (token name, false, after)
  if atMargin && c == '%' then do
    let layout ← { layout.unwind (-1) with allowsKey := false }.dropKey
    let (directive, cursor) ← scanDirective cursor
    return { layout.push (.directive directive) with cursor }
  else if atMargin && cursor.atSeparator then do
    let layout ← { layout.unwind (-1) with allowsKey := false }.dropKey
    return layout.mark (if c == '-' then .documentStart else .documentEnd) 3
  else if c == '[' then openFlow .flowSequenceStart
  else if c == '\x7b' then openFlow .flowMappingStart
  else if c == ']' then closeFlow .flowSequenceEnd
  else if c == '\x7d' then closeFlow .flowMappingEnd
  else if c == ',' then do
    let layout ← { layout with allowsKey := true }.dropKey
    return layout.mark .flowEntry 1
  else if c == '-' && endsWord next then do
    let layout ← layout.openBlockHere .blockSequenceStart
    let layout ← { layout with allowsKey := true }.dropKey
    return layout.mark .blockEntry 1
  else if c == '?' && (layout.inFlow || endsWord next) then do
    let layout ← layout.openBlockHere .blockMappingStart
    let layout ← { layout with allowsKey := !layout.inFlow }.dropKey
    return layout.mark .key 1
  else if c == ':' && (layout.inFlow || endsWord next) then layout.markValue
  else if c == '*' then named .alias
  else if c == '&' then named .anchor
  else if c == '!' then layout.content fun layout => do
    let (tag, after) ← scanTag layout.cursor
    return (.tag tag, false, after)
  else if c == '|' && !layout.inFlow then block false
  else if c == '>' && !layout.inFlow then block true
  else if c == '\'' || c == '"' then quoted
  else if startsPlain layout.inFlow c next then layout.content fun layout =>
    let (text, atLineEnd, after) := scanPlain layout.inFlow layout.column layout.cursor
    .ok (.scalar (String.ofList text) true, atLineEnd, after)
  else .error .invalid

/-- The tokens that are certain: none of them may turn out to follow the token of a
key. -/
def certain (layout : Layout) : List Token :=
  (layout.keys.foldl (fun tokens (_, key) => tokens.take key.position) layout.tokens).toList

/-- The tokens of the rest of the text, and what puts an end to them early. Each
token takes at least one character. -/
def scanAll : Nat → Layout → List Token × Option Failure
  | 0, layout => (layout.certain, some .invalid)
  | steps + 1, layout =>
    let layout := layout.skipToToken
    match layout.dropStaleKeys with
    | .error failure => (layout.certain, some failure)
    | .ok layout =>
      let layout := layout.unwind layout.cursor.column
      match layout.cursor.peek with
      | none =>
        let layout := layout.unwind (-1)
        match layout.dropKey with
        | .error failure => (layout.certain, some failure)
        | .ok layout => (layout.tokens.toList, none)
      | some c =>
        match layout.scanToken c with
        | .error failure => (layout.certain, some failure)
        | .ok layout => scanAll steps layout

end Layout

/-- The tokens of a text, and what puts an end to them early. -/
def scan (text : String) : List Token × Option Failure :=
  let characters := text.toList
  if characters.all isAllowed then
    Layout.scanAll (characters.length + 1) { cursor := { rest := characters } }
  else ([], some .invalid)

end ClassProfile.Yaml
