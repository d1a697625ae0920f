import ClassProfile.Resolution

/-! The log: what resolving and building record as they go. -/
namespace ClassProfile

/-- How much a record matters. -/
inductive Level where
  | debug | info | warning
  deriving DecidableEq

def Level.word : Level → String
  | debug => "DEBUG"
  | info => "INFO"
  | warning => "WARNING"

/-- What has happened. -/
inductive Event where
  /-- A part of a type was replaced by the fallback. -/
  | fellBack (failure : Shape.Irreducible) (fallback : String)
  /-- A property was left out because its type is malformed. -/
  | skipped (property : String) (fault : Malformed)
  /-- An accessor was left out because its property is described already. -/
  | ignored (accessor property : String)
  /-- A property was described with the fallback. -/
  | imprecise (property fallback : String)
  /-- A class was described. -/
  | described (subject : String) (properties imports diagnostics : Nat)
  deriving DecidableEq

namespace Event

def level : Event → Level
  | fellBack _ _ => .debug
  | skipped _ _ => .warning
  | ignored _ _ => .warning
  | imprecise _ _ => .info
  | described _ _ _ _ => .debug

def message : Event → String
  | fellBack failure fallback => failure.message ++ "; falling back to '" ++ fallback ++ "'"
  | skipped property fault => "Skipping property '" ++ property ++ "': " ++ fault.message
  | ignored accessor property =>
    "Ignoring accessor '" ++ accessor ++ "': duplicate property '" ++ property ++ "'"
  | imprecise property fallback =>
    "Property '" ++ property ++ "' is opaque; described with '" ++ fallback ++ "'"
  | described subject properties imports diagnostics =>
    "Described " ++ subject ++ ": " ++ toString properties ++ " properties, " ++
      toString imports ++ " imports, " ++ toString diagnostics ++ " diagnostics"

def line (event : Event) : String := event.level.word ++ ": " ++ event.message

end Event

def Policy.fallbackEvents (policy : Policy) (failures : List Shape.Irreducible) : List Event :=
  failures.map fun failure => .fellBack failure policy.fallback.name

end ClassProfile
