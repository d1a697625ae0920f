import ClassProfile.Accessor.Basic

/-! What a caller supplies as accessors. The contract asks for a list of nothing
but accessors; anything else is named by the sort of value that it is. -/
namespace ClassProfile

/-- The sorts of value that are no accessors. -/
inductive ValueSort where
  | text | whole | fraction | flag | nothing | record | list
  /-- A value of any other class, known by the name of the class. -/
  | object (className : String)
  deriving DecidableEq

def ValueSort.word : ValueSort → String
  | text => "str"
  | whole => "int"
  | fraction => "float"
  | flag => "bool"
  | nothing => "NoneType"
  | record => "dict"
  | list => "list"
  | object className => className

/-- An entry of a list that should hold accessors. -/
inductive Entry where
  | accessor (accessor : Accessor)
  | foreign (sort : ValueSort)

/-- What is supplied as accessors. -/
inductive Supplied where
  | list (entries : List Entry)
  | other (sort : ValueSort)

/-- A breach of the contract. -/
inductive ContractFault where
  | notList (sort : ValueSort)
  | notAccessor (index : Nat) (sort : ValueSort)
  deriving DecidableEq

def ContractFault.message : ContractFault → String
  | notList sort => "accessors must be a list or tuple, got " ++ sort.word
  | notAccessor index sort =>
    "accessors[" ++ toString index ++ "] must be an AccessorDescriptor, got " ++ sort.word

/-- The accessors of a list whose first entry is at the given index, or the first
entry that is none. -/
def accessorsFrom (index : Nat) : List Entry → Except ContractFault (List Accessor)
  | [] => .ok []
  | .accessor accessor :: rest => (accessorsFrom (index + 1) rest).map (accessor :: ·)
  | .foreign sort :: _ => .error (.notAccessor index sort)

def Supplied.accessors : Supplied → Except ContractFault (List Accessor)
  | list entries => accessorsFrom 0 entries
  | other sort => .error (.notList sort)

end ClassProfile
