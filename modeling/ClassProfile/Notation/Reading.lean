import ClassProfile.Notation.Token
import ClassProfile.Shape

/-! Reading a shape from the tokens of its notation, one token at a time. The
state is the argument lists still open around the place reached and what has
been read of the innermost type; a token that no longer type can contain is
refused at once.

A type is a name, perhaps with arguments in angle brackets, and then any number
of bracket pairs. An argument is a type, a question mark, or a question mark
with `extends` or `super` and a type. These two words are names elsewhere. -/
namespace ClassProfile.Notation

/-- How a wildcard is bounded by the type read for it, or that the argument is
the type itself. -/
inductive Bound where
  | exact | upper | lower
  deriving DecidableEq

/-- The argument that a type makes under a bound. -/
def Bound.argument : Bound → Shape → Shape
  | exact, type => type
  | upper, type => .wildcard (some type) none
  | lower, type => .wildcard none (some type)

/-- An argument list that has not been closed: the name before it, and the
arguments read so far, the last one first. -/
structure Arguments where
  base : String
  reversed : List Shape

/-- The generic type that the list makes when it is closed. -/
def Arguments.generic (arguments : Arguments) : Shape :=
  .generic (.named arguments.base) arguments.reversed.reverse

/-- An open argument list and the bound of the argument that is being read. -/
structure Frame where
  arguments : Arguments
  bound : Bound

/-- What has been read, from the innermost type outwards. -/
inductive State where
  /-- A type name must follow. -/
  | type (enclosing : List Frame)
  /-- An argument must follow. -/
  | argument (arguments : Arguments) (outer : List Frame)
  /-- A question mark has been read. -/
  | mark (arguments : Arguments) (outer : List Frame)
  /-- A type name has been read, which stands at the column. -/
  | name (enclosing : List Frame) (name : String) (column : Nat)
  /-- A type has been read. -/
  | shape (enclosing : List Frame) (shape : Shape)
  /-- A type and an opening bracket have been read. -/
  | bracket (enclosing : List Frame) (shape : Shape)

/-- The type that a name alone stands for. -/
def shapeOfName (typeVariables : List String) (name : String) : Shape :=
  if typeVariables.contains name then .typeVariable name else .scalar (.named name)

/-- The token after an argument of the innermost list. -/
def afterArgument (arguments : Arguments) (outer : List Frame) (argument : Shape)
    (token : Token) : Except Error State :=
  let extended : Arguments := ⟨arguments.base, argument :: arguments.reversed⟩
  match token.lexeme with
  | .symbol .comma => .ok (.argument extended outer)
  | .symbol .greater => .ok (.shape outer extended.generic)
  | got => .error ⟨.symbolExpected .greater got, token.column⟩

/-- The token after a type. -/
def afterShape (enclosing : List Frame) (shape : Shape) (token : Token) : Except Error State :=
  match token.lexeme, enclosing with
  | .symbol .openBracket, enclosing => .ok (.bracket enclosing shape)
  | got, [] => .error ⟨.trailing got, token.column⟩
  | _, frame :: outer =>
    afterArgument frame.arguments outer (frame.bound.argument shape) token

/-- The state after one more token. -/
def step (typeVariables : List String) : State → Token → Except Error State
  | .type enclosing, ⟨.name name, column⟩ => .ok (.name enclosing name column)
  | .type _, ⟨got, column⟩ => .error ⟨.nameExpected got, column⟩
  | .argument arguments outer, ⟨.symbol .question, _⟩ => .ok (.mark arguments outer)
  | .argument arguments outer, ⟨.name name, column⟩ =>
    .ok (.name (⟨arguments, .exact⟩ :: outer) name column)
  | .argument _ _, ⟨got, column⟩ => .error ⟨.nameExpected got, column⟩
  | .mark arguments outer, token =>
    if token.lexeme = .name "extends" then .ok (.type (⟨arguments, .upper⟩ :: outer))
    else if token.lexeme = .name "super" then .ok (.type (⟨arguments, .lower⟩ :: outer))
    else afterArgument arguments outer (.wildcard none none) token
  | .name enclosing name column, ⟨.symbol .less, _⟩ =>
    if typeVariables.contains name then .error ⟨.argumentsOfVariable name, column⟩
    else .ok (.argument ⟨name, []⟩ enclosing)
  | .name enclosing name _, token =>
    afterShape enclosing (shapeOfName typeVariables name) token
  | .shape enclosing shape, token => afterShape enclosing shape token
  | .bracket enclosing shape, ⟨.symbol .closeBracket, _⟩ =>
    .ok (.shape enclosing (.array shape))
  | .bracket _ _, ⟨got, column⟩ => .error ⟨.symbolExpected .closeBracket got, column⟩

/-- The type read, if the text may end here. -/
def State.result? (typeVariables : List String) : State → Option Shape
  | .name [] text _ => some (shapeOfName typeVariables text)
  | .shape [] whole => some whole
  | _ => none

/-- The type that the tokens denote; the text ends before the given column. -/
def readTokens (typeVariables : List String) (endColumn : Nat) (tokens : List Token) :
    Except Error Shape := do
  let last ← tokens.foldlM (step typeVariables) (.type [])
  match last.result? typeVariables with
  | some shape => .ok shape
  | none => .error ⟨.unexpectedEnd, endColumn⟩

def read (typeVariables : List String) (text : String) : Except Error Shape := do
  readTokens typeVariables (text.length + 1) (← scan text)

end ClassProfile.Notation
