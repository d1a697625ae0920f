import ClassProfile.Description
import ClassProfile.Shape

/-! What is found wrong when a JSON value is read as a record of the model. All
issues are reported, in the order of the fields and, within a list, of its items;
a record whose fields are in order may still be refused as a whole. -/
namespace ClassProfile.Schema

/-- One step from a value to a value within it. A shape is entered by its sort. -/
inductive Step where
  | field (name : String)
  | index (position : Nat)
  | kind (kind : Shape.Kind)
  deriving DecidableEq

/-- What is wrong with a value. -/
inductive Fault where
  | missing | notText | notFlag | unreadableFlag | notList | notRecord
  | notShape | kindMissing | kindUnknown
  | element (fault : ElementFault)
  | repeatedNames (fault : RepeatedNames)
  deriving DecidableEq

/-- The word by which a fault is reported. -/
def Fault.code : Fault → String
  | missing => "missing"
  | notText => "string_type"
  | notFlag => "bool_type"
  | unreadableFlag => "bool_parsing"
  | notList => "tuple_type"
  | notRecord => "model_type"
  | notShape => "model_attributes_type"
  | kindMissing => "union_tag_not_found"
  | kindUnknown => "union_tag_invalid"
  | element _ => "value_error"
  | repeatedNames _ => "value_error"

def Fault.message? : Fault → Option String
  | element fault => some ("Value error, " ++ fault.message)
  | repeatedNames fault => some ("Value error, " ++ fault.message)
  | _ => none

structure Issue where
  path : List Step
  fault : Fault
  deriving DecidableEq

/-- A value read, or all that is wrong with it. -/
abbrev Checked (α : Type) := Except (List Issue) α

/-- The value itself is at fault. -/
def fault (fault : Fault) : Checked α := .error [⟨[], fault⟩]

/-- The issues as seen from outside. -/
def under (step : Step) : Checked α → Checked α
  | .ok value => .ok value
  | .error issues => .error (issues.map fun issue => ⟨step :: issue.path, issue.fault⟩)

/-- Supplies one more part to what is built from parts, or adds its issues. -/
def also (part : Checked α) : Checked (α → β) → Checked β
  | .ok build => part.map build
  | .error issues =>
    match part with
    | .ok _ => .error issues
    | .error more => .error (issues ++ more)

end ClassProfile.Schema
