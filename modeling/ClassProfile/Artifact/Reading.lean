import ClassProfile.Artifact.Writing
import ClassProfile.Json.Reading
import ClassProfile.Json.Shown
import ClassProfile.Schema.Description

/-! Reading artifacts. The version is examined first. A record is then built from
the inside out, one part after the other, and the first thing that is wrong ends
the reading: a value of the wrong sort, a missing field, or parts that make no
valid description. A list may also be given as a record, for its keys, or as a
text, for its characters, though neither can hold what is asked for. -/
namespace ClassProfile.Artifact

/-- Why a text is no artifact. -/
inductive Fault where
  /-- The text is not read as JSON. -/
  | unreadable (failure : Json.Failure)
  /-- Fields are asked of a value that is no record. -/
  | notRecord
  /-- A field that has to be there is asked of a value that is no record. -/
  | notIndexed
  /-- Items are asked of a value that has none. -/
  | notIterable
  | missingField (key : String)
  | unsupportedVersion (found : Option Json)
  | invalid (issues : List Schema.Issue)

/-- The words for an unsupported version. A version that is not stated shows as null. -/
def versionMessage (found : Option Json) : String :=
  "Unsupported artifact format version: " ++ (found.getD .null).shown

def fieldsOf : Json → Except Fault (List (String × Json))
  | .object fields => .ok fields
  | _ => .error .notRecord

def fieldOf (key : String) : Json → Except Fault Json
  | .object fields =>
    match Json.lookup key fields with
    | some value => .ok value
    | none => .error (.missingField key)
  | _ => .error .notIndexed

def itemsOf : Json → Except Fault (List Json)
  | .array items => .ok items
  | .object fields => .ok ((Json.keys fields).map Json.string)
  | .string text => .ok (text.toList.map fun c => .string (String.singleton c))
  | _ => .error .notIterable

/-- What passes the checks of the model. -/
def valid : Schema.Checked α → Except Fault α
  | .ok value => .ok value
  | .error issues => .error (.invalid issues)

/-- A mark of a record, not set if it is left out. -/
def markOf (key field : String) (fields : List (String × Json)) : Schema.Checked Bool :=
  Schema.under (.field field) (Schema.flag ((Json.lookup key fields).getD (.bool false)))

def identityOf (json : Json) : Except Fault Identity :=
  match json with
  | .object fields => do
    let name ← fieldOf "name" json
    let component ← match _h : Json.lookup "array_of" fields with
      | none => .ok none
      | some .null => .ok none
      | some component => (identityOf component).map some
    valid <| (.ok fun name isPrimitive => Identity.ofParts name isPrimitive component)
      |> Schema.also (Schema.under (.field "qualified_name") (Schema.text name))
      |> Schema.also (markOf "primitive" "is_primitive" fields)
  | _ => .error .notRecord
  termination_by sizeOf json
  decreasing_by
    have := Json.sizeOf_lookup_lt _h
    simp only [Json.object.sizeOf_spec]
    omega

def typeOf (json : Json) : Except Fault TypeDescription := do
  let fields ← fieldsOf json
  let base ← identityOf (← fieldOf "base" json)
  let element? ← match Json.lookup "element" fields with
    | none => .ok none
    | some .null => .ok none
    | some element => (identityOf element).map some
  let type ← valid <| (.ok fun isArray isIterable isOpaque =>
      ({ base, isArray, isIterable, element?, isOpaque } : TypeDescription))
    |> Schema.also (markOf "array" "is_array" fields)
    |> Schema.also (markOf "iterable" "is_iterable" fields)
    |> Schema.also (markOf "opaque" "is_opaque" fields)
  valid type.examined

def propertyOf (json : Json) : Except Fault Property := do
  let name ← fieldOf "name" json
  let type ← typeOf (← fieldOf "type" json)
  let failures ← (← itemsOf ((json.field? "failures").getD (.array []))).mapM identityOf
  valid <| (Schema.under (.field "name") (Schema.text name)).map fun name =>
    ⟨name, type, failures⟩

def descriptionOf (json : Json) : Except Fault ClassDescription := do
  let subject ← identityOf (← fieldOf "subject" json)
  let properties ← (← itemsOf ((json.field? "properties").getD (.array []))).mapM propertyOf
  let imports ← (← itemsOf ((json.field? "imports").getD (.array []))).mapM identityOf
  match ClassDescription.ofParts subject properties imports with
  | .ok description => .ok description
  | .error fault => .error (.invalid [⟨[.field "properties"], .repeatedNames fault⟩])

/-- The version that a record states is the one that is read. -/
def checkVersion (json : Json) : Except Fault Unit := do
  let fields ← fieldsOf json
  match Json.lookup "v" fields with
  | some (.string text) =>
    if text = version then .ok () else .error (.unsupportedVersion (some (.string text)))
  | found => .error (.unsupportedVersion found)

def deserialize (text : String) : Except Fault ClassDescription :=
  match Json.read text with
  | .error failure => .error (.unreadable failure)
  | .ok json => do
    checkVersion json
    descriptionOf json

end ClassProfile.Artifact
