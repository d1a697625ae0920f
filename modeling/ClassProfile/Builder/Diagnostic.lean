import ClassProfile.Resolution

/-! Diagnostics: what a build reports of its properties. An error leaves the
property out; a warning leaves it less precise or drops a second accessor of it. -/
namespace ClassProfile

/-- What is reported of a property. -/
inductive Diagnostic where
  /-- The type is malformed. -/
  | malformed (property : String) (fault : Malformed)
  /-- An accessor yields a property that is described already. -/
  | duplicate (property accessor : String)
  /-- The type names the fallback. -/
  | imprecise (property fallback : String)
  deriving DecidableEq

namespace Diagnostic

def property : Diagnostic → String
  | malformed property _ => property
  | duplicate property _ => property
  | imprecise property _ => property

/-- The property is left out. -/
def isError : Diagnostic → Bool
  | malformed _ _ => true
  | duplicate _ _ => false
  | imprecise _ _ => false

def message : Diagnostic → String
  | malformed _ fault => fault.message
  | duplicate property accessor =>
    "accessor '" ++ accessor ++ "' duplicates property '" ++ property ++ "'"
  | imprecise property fallback =>
    "type of property '" ++ property ++ "' is not fully resolvable; using '" ++ fallback ++ "'"

end Diagnostic
end ClassProfile
