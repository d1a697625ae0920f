import ClassProfile.Keyed
import ClassProfile.Policy
import ClassProfile.Yaml.Loader

/-! Policies as YAML documents. A document is a mapping with up to four keys; what
it lists is added to the standard policy unless it says otherwise. The keys are
examined first, then the values, and the first thing wrong is reported. Only an
unknown key that is a whole number of too many digits cannot be: it has no words. -/
namespace ClassProfile.Policy

/-- Why a value gives no policy. -/
inductive Fault where
  | notMapping
  | unknownKeys (shown : List String)
  /-- An unknown key has too many digits to be shown. This is no error of the policy. -/
  | overlongKey
  | notFlag
  | notTexts (key : String)
  | notName
  deriving DecidableEq

/-- The keys of a document. -/
def extendsKey : String := "extends-default"

@[inherit_doc extendsKey]
def iterableKey : String := "iterable-types"

@[inherit_doc extendsKey]
def ambientKey : String := "ambient-namespaces"

@[inherit_doc extendsKey]
def fallbackKey : String := "fallback-type"

@[inherit_doc extendsKey]
def knownKeys : List String := [iterableKey, ambientKey, fallbackKey, extendsKey]

/-- The words for a fault that is an error of the policy. -/
def Fault.message? : Fault → Option String
  | notMapping => some "type policy must be a YAML mapping"
  | unknownKeys shown => some ("unknown key(s): " ++ String.intercalate ", " shown)
  | overlongKey => none
  | notFlag => some ("'" ++ extendsKey ++ "' must be a boolean")
  | notTexts key => some ("'" ++ key ++ "' must be a list of strings")
  | notName => some ("'" ++ fallbackKey ++ "' must be a non-empty string")

abbrev Entries := List (Yaml.Scalar × Yaml.Value)

def keyText? : Yaml.Scalar → Option String
  | .text text => some text
  | _ => none

def entry? (key : String) (entries : Entries) : Option Yaml.Value :=
  (entries.find? fun (found, _) => keyText? found == some key).map Prod.snd

/-- The keys that a document cannot have. -/
def unknownKeysOf (entries : Entries) : List Yaml.Scalar :=
  (entries.map Prod.fst).filter fun key => !(keyText? key).any knownKeys.contains

/-- Unknown keys are reported as they are shown, in order, if all of them can be. -/
def faultOfUnknown (keys : List Yaml.Scalar) : Fault :=
  match keys.mapM Yaml.Scalar.shown? with
  | some shown => .unknownKeys (sortedBy id shown)
  | none => .overlongKey

/-- The document extends the standard policy, as it does unless it says otherwise. -/
def extendsStandard (entries : Entries) : Except Fault Bool :=
  match entry? extendsKey entries with
  | none => .ok true
  | some (.scalar (.bool value)) => .ok value
  | some _ => .error .notFlag

def textsOf? : List Yaml.Value → Option (List String)
  | [] => some []
  | .scalar (.text text) :: rest => (textsOf? rest).map (text :: ·)
  | _ :: _ => none

def textsUnder (key : String) (entries : Entries) : Except Fault (List String) :=
  match entry? key entries with
  | none => .ok []
  | some (.list items) =>
    match textsOf? items with
    | some texts => .ok texts
    | none => .error (.notTexts key)
  | some _ => .error (.notTexts key)

def fallbackOf (entries : Entries) : Except Fault (Option Identity) :=
  match entry? fallbackKey entries with
  | none => .ok none
  | some (.scalar (.text name)) => if name = "" then .error .notName else .ok (some (.named name))
  | some _ => .error .notName

def ofEntries (entries : Entries) : Except Fault Policy :=
  match unknownKeysOf entries with
  | [] => do
    let base ← extendsStandard entries
    let base : Policy := if base then standard else {}
    let iterableTypes ← textsUnder iterableKey entries
    let ambientNamespaces ← textsUnder ambientKey entries
    let fallback? ← fallbackOf entries
    return ⟨base.iterableTypes ++ iterableTypes, base.ambientNamespaces ++ ambientNamespaces,
      fallback?.getD base.fallback⟩
  | unknown => .error (faultOfUnknown unknown)

/-- The policy of a document, which is the standard one if the document is empty. -/
def ofValue : Yaml.Value → Except Fault Policy
  | .scalar .null => .ok standard
  | .mapping entries => ofEntries entries
  | _ => .error .notMapping

/-- Why a text gives no policy. -/
inductive TextFault where
  /-- The text has no value. -/
  | yaml (refusal : Yaml.Refusal)
  | document (fault : Fault)
  deriving DecidableEq

/-- The words for a text that is not valid, but for the reason. -/
def invalidText (label : String) : String := "Invalid YAML in " ++ label

/-- The words for a fault that is an error of the policy, with the label of the text. -/
def TextFault.message? (label : String) : TextFault → Option String
  | yaml (.invalid reason) => some (invalidText label ++ ": " ++ reason)
  | yaml _ => none
  | document fault => fault.message?.map fun message => label ++ ": " ++ message

/-- The policy of a text. The items of the lists in its mapping are looked at, and
nothing below them. -/
def ofText (loader : Yaml.Loader) (text : String) : Except TextFault Policy :=
  match loader text with
  | .error refusal => .error (.yaml refusal)
  | .ok value => (ofValue value).mapError .document

end ClassProfile.Policy
