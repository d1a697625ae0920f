import ClassProfile.Text.Blank
import ClassProfile.Text.Quoted
import ClassProfile.Text.WordCharacter

/-! Tokens of the type notation: dotted names and six symbols, with blanks
between them as one likes. A name is as long as it can be; a dot belongs to it
only if another part of the name follows. -/
namespace ClassProfile.Notation

inductive Symbol where
  | less | greater | comma | question | openBracket | closeBracket
  deriving DecidableEq

def Symbol.char : Symbol → Char
  | less => '<'
  | greater => '>'
  | comma => ','
  | question => '?'
  | openBracket => '['
  | closeBracket => ']'

def Symbol.ofChar? (c : Char) : Option Symbol :=
  [less, greater, comma, question, openBracket, closeBracket].find? (·.char == c)

/-- What a token is, apart from its place. -/
inductive Lexeme where
  | name (text : String)
  | symbol (symbol : Symbol)
  deriving DecidableEq

def Lexeme.text : Lexeme → String
  | name text => text
  | symbol s => String.singleton s.char

/-- A token and the column of its first character, counted from one. -/
structure Token where
  lexeme : Lexeme
  column : Nat
  deriving DecidableEq

inductive Fault where
  | unexpectedCharacter (c : Char)
  | unexpectedEnd
  | nameExpected (got : Lexeme)
  | symbolExpected (expected : Symbol) (got : Lexeme)
  | trailing (got : Lexeme)
  | argumentsOfVariable (name : String)
  deriving DecidableEq

def Fault.message : Fault → String
  | unexpectedCharacter c => "unexpected character " ++ Text.quoted (String.singleton c)
  | unexpectedEnd => "unexpected end of type"
  | nameExpected got => "expected a type name, got " ++ Text.quoted got.text
  | symbolExpected expected got =>
    "expected " ++ Text.quoted (String.singleton expected.char) ++ ", got " ++
      Text.quoted got.text
  | trailing got => "unexpected " ++ Text.quoted got.text ++ " after type"
  | argumentsOfVariable name =>
    "type variable " ++ Text.quoted name ++ " cannot have type arguments"

/-- A fault and the column at which the text stops making sense. -/
structure Error where
  fault : Fault
  column : Nat
  deriving DecidableEq

/-- The words for an error, with its place. -/
def Error.message (e : Error) : String :=
  "Column " ++ toString e.column ++ ": " ++ e.fault.message

/-- A character that each part of a name may start with. -/
def isNameStart (c : Char) : Bool := c.isAlpha || c == '_' || c == '$'

/-- A character that may follow in a part of a name. -/
def isNamePart (c : Char) : Bool := Text.isWordCharacter c || c == '$'

/-- What continues a name whose part has begun. -/
def nameTail : List Char → List Char
  | '.' :: c :: rest => if isNameStart c then '.' :: c :: nameTail rest else []
  | c :: rest => if isNamePart c then c :: nameTail rest else []
  | [] => []

/-- The tokens of a text whose first character stands at the given column. -/
def scanFrom (column : Nat) : List Char → Except Error (List Token)
  | [] => .ok []
  | c :: rest =>
    if Text.isBlank c then scanFrom (column + 1) rest
    else match Symbol.ofChar? c with
      | some symbol =>
        (scanFrom (column + 1) rest).map (⟨.symbol symbol, column⟩ :: ·)
      | none =>
        if isNameStart c then
          let tail := nameTail rest
          (scanFrom (column + 1 + tail.length) (rest.drop tail.length)).map
            (⟨.name (String.ofList (c :: tail)), column⟩ :: ·)
        else .error ⟨.unexpectedCharacter c, column⟩
  termination_by text => text.length

def scan (text : String) : Except Error (List Token) := scanFrom 1 text.toList

end ClassProfile.Notation
