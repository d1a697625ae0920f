import ClassProfile.Json.Token

/-! Reading a JSON value from its tokens, one token at a time. The state is the
stack of arrays and objects still open and what may follow. -/
namespace ClassProfile.Json

/-- An array or object that has not been closed, its contents reversed. An object
waits for the value of a key. -/
inductive Frame where
  | array (reversed : List Json)
  | object (reversed : List (String × Json)) (key : String)

inductive State where
  /-- A value must follow. -/
  | value (frames : List Frame)
  /-- An array has been opened. -/
  | firstItem (outer : List Frame)
  /-- An object has been opened. -/
  | firstKey (outer : List Frame)
  /-- The key of another field must follow. -/
  | key (reversed : List (String × Json)) (outer : List Frame)
  /-- A colon must follow. -/
  | colon (reversed : List (String × Json)) (key : String) (outer : List Frame)
  /-- A value has been read. -/
  | done (frames : List Frame) (json : Json)

def beginValue (frames : List Frame) : Token → Option State
  | .beginArray => some (.firstItem frames)
  | .beginObject => some (.firstKey frames)
  | .string text => some (.done frames (.string text))
  | .atom json => some (.done frames json)
  | _ => none

/-- The state after one more token, if it may stand there. -/
def step : State → Token → Option State
  | .value frames, token => beginValue frames token
  | .firstItem outer, .endArray => some (.done outer (.array []))
  | .firstItem outer, token => beginValue (.array [] :: outer) token
  | .firstKey outer, .endObject => some (.done outer (.object []))
  | .firstKey outer, .string key => some (.colon [] key outer)
  | .key reversed outer, .string key => some (.colon reversed key outer)
  | .colon reversed key outer, .colon => some (.value (.object reversed key :: outer))
  | .done (.array reversed :: outer) json, .comma =>
    some (.value (.array (json :: reversed) :: outer))
  | .done (.array reversed :: outer) json, .endArray =>
    some (.done outer (.array (json :: reversed).reverse))
  | .done (.object reversed key :: outer) json, .comma =>
    some (.key ((key, json) :: reversed) outer)
  | .done (.object reversed key :: outer) json, .endObject =>
    some (.done outer (.object ((key, json) :: reversed).reverse))
  | _, _ => none

/-- The value read, if the text may end here. -/
def State.result? : State → Option Json
  | .done [] json => some json
  | _ => none

/-- What cannot be read stands where it could: any value where one must follow, and a
string for a key too. -/
def State.awaits : State → Failure → Bool
  | .value _, _ => true
  | .firstItem _, _ => true
  | .firstKey _, .unpaired => true
  | .key _ _, .unpaired => true
  | _, _ => false

/-- The state after a token, or why it is the last one that is looked at. -/
def take (state : State) : Except Failure Token → Except Failure State
  | .ok token =>
    match step state token with
    | some next => .ok next
    | none => .error .notJson
  | .error failure => .error (if state.awaits failure then failure else .notJson)

def readTokens (tokens : List (Except Failure Token)) : Except Failure Json := do
  let state ← tokens.foldlM take (.value [])
  match state.result? with
  | some json => .ok json
  | none => .error .notJson

def read (text : String) : Except Failure Json := readTokens (scan text)

end ClassProfile.Json
