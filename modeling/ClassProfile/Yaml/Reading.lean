import ClassProfile.Yaml.Loader
import ClassProfile.Yaml.Node
import ClassProfile.Yaml.Scalar.Tagged

/-! The value of a document. Collections are examined in the order in which they are
met from the root, each once, and the first thing wrong in this order is what the
document fails with. The value itself is given down to a depth, since a node may
contain itself. -/
namespace ClassProfile.Yaml

inductive CollectionType where
  | list | mapping | set | pairs
  deriving DecidableEq

def CollectionType.ofTag? (tag : String) : Option CollectionType :=
  [(coreTag "seq", list), (coreTag "map", mapping), (coreTag "set", set),
    (coreTag "omap", pairs), (coreTag "pairs", pairs)].lookup tag

/-- How far the nodes of a document have been examined. -/
structure Examination where
  nodes : Array Node
  /-- The values of scalars. -/
  scalars : List (Nat × Scalar) := []
  /-- Collections that have been met. -/
  met : List Nat := []
  /-- Those of them that have not been examined, the latest first. -/
  waiting : List Nat := []

abbrev Examine (α : Type) := StateT Examination (Except Failure) α

namespace Examine

/-- The document has no value. -/
def invalid : Examine α := throw .invalid

def nodeAt (id : Nat) : Examine Node := do
  match (← get).nodes[id]? with
  | some node => return node
  | none => invalid

def replace (id : Nat) (node : Node) : Examine Unit :=
  modify fun state => { state with nodes := state.nodes.modify id fun _ => node }

/-- The text that a node stands for where a scalar is asked for: a mapping stands
for the value of its default key. -/
def textOf : Nat → Nat → Examine String
  | 0, _ => invalid
  | steps + 1, id => do
    match (← nodeAt id).content with
    | .scalar text => return text
    | .sequence _ => invalid
    | .mapping entries =>
      match ← entries.findM? fun (key, _) => return (← nodeAt key).tag == coreTag "value" with
      | some (_, value) => textOf steps value
      | none => invalid

/-- The value of a scalar node. One word for what is no number is a single object, and every
other such scalar an object of its own. -/
def scalarOf (type : ScalarType) (id : Nat) : Examine Scalar := do
  let text ← textOf ((← get).nodes.size + 1) id
  match type, (← nodeAt id).content with
  | .timestamp, .mapping _ => throw .nestedTimestamp
  | type, _ =>
    match ← type.value text with
    | .notANumber _ => return .notANumber (if isNanWord text.toList then 0 else id + 1)
    | value => return value

/-- Meets a node: a scalar is given its value, a collection waits. -/
def meet (id : Nat) : Examine Unit := do
  let state ← get
  if (state.scalars.lookup id).isSome || state.met.contains id then return
  else
    let tag := (← nodeAt id).tag
    match ScalarType.ofTag? tag, CollectionType.ofTag? tag with
    | some type, _ =>
      let value ← scalarOf type id
      modify fun state => { state with scalars := (id, value) :: state.scalars }
    | none, some _ =>
      modify fun state =>
        { state with met := id :: state.met, waiting := id :: state.waiting }
    | none, none => invalid

/-- Meets a key, which must not be a collection. -/
def meetKey (id : Nat) : Examine Unit := do
  meet id
  if ((← get).scalars.lookup id).isNone then invalid

def entriesOf (id : Nat) : Examine (List (Nat × Nat)) := do
  match (← nodeAt id).content with
  | .mapping entries => return entries
  | _ => invalid

def setEntries (id : Nat) (entries : List (Nat × Nat)) : Examine Unit := do
  replace id ⟨(← nodeAt id).tag, .mapping entries⟩

mutual

/-- Puts the entries of merged mappings in front of a mapping's own. A key for the
default value counts as text from then on. Each merge takes away an entry first,
so it ends though a mapping may be merged with itself. -/
def flatten : Nat → Nat → Examine Unit
  | 0, _ => invalid
  | steps + 1, id => do
    let merged ← flattenFrom steps id 0
    if !merged.isEmpty then setEntries id (merged ++ (← entriesOf id))

/-- Flattens the entries from a position on, and gives the merged ones. -/
def flattenFrom : Nat → Nat → Nat → Examine (List (Nat × Nat))
  | 0, _, _ => invalid
  | steps + 1, id, position => do
    let entries ← entriesOf id
    match entries[position]? with
    | none => return []
    | some (key, value) =>
      let node ← nodeAt key
      if node.tag == coreTag "merge" then
        setEntries id (entries.eraseIdx position)
        let merged ← match (← nodeAt value).content with
          | .mapping _ => do
            flatten steps value
            entriesOf value
          | .sequence items => mergedItems steps items
          | .scalar _ => invalid
        return merged ++ (← flattenFrom steps id position)
      else
        if node.tag == coreTag "value" then
          replace key ⟨coreTag "str", node.content⟩
        flattenFrom steps id (position + 1)

/-- The entries of a list of merged mappings, those of the last mapping first. -/
def mergedItems : Nat → List Nat → Examine (List (Nat × Nat))
  | 0, _ => invalid
  | _, [] => return []
  | steps + 1, item :: rest => do
    let entries ← match (← nodeAt item).content with
      | .mapping _ =>
        flatten steps item
        entriesOf item
      | _ => invalid
    return (← mergedItems steps rest) ++ entries

end

/-- Steps that flattening cannot exceed: it goes through all entries and items once
for each merge on the way. -/
def flatteningSteps : Examine Nat := do
  let sizes := (← get).nodes.toList.map fun node =>
    match node.content with
    | .scalar _ => 1
    | .sequence items => items.length + 1
    | .mapping entries => entries.length + 1
  let total := sizes.foldl (· + ·) 0
  return (total + 2) * (total + 2)

/-- Meets the parts of a collection. -/
def examine (id : Nat) : Examine Unit := do
  let node ← nodeAt id
  match CollectionType.ofTag? node.tag, node.content with
  | some .list, .sequence items => items.forM meet
  | some .mapping, .mapping _ => entries
  | some .set, .mapping _ => entries
  | some .pairs, .sequence items =>
    items.forM fun item => do
      match (← nodeAt item).content with
      | .mapping [(key, value)] => meet key; meet value
      | _ => invalid
  | _, _ => invalid
where
  entries : Examine Unit := do
    flatten (← flatteningSteps) id
    (← entriesOf id).forM fun (key, value) => do
      meetKey key
      meet value

/-- Examines the collections that have been met, in the order of their meeting. Each
waits once, so as many rounds as there are nodes suffice. -/
def rounds : Nat → Examine Unit
  | 0 => return
  | left + 1 => do
    match (← get).waiting.reverse with
    | [] => return
    | first :: rest =>
      modify fun state => { state with waiting := rest.reverse }
      examine first
      rounds left

end Examine

namespace Examination

/-- Adds an entry; an equal key keeps its place and takes the new value. -/
def insert (key : Scalar) (value : Value) : List (Scalar × Value) → List (Scalar × Value)
  | [] => [(key, value)]
  | (first, old) :: rest =>
    if first.sameKey key then (first, value) :: rest
    else (first, old) :: insert key value rest

/-- The value of a node whose parts have been examined, down to a depth. -/
def value (state : Examination) : Nat → Nat → Value
  | depth, id =>
    match state.scalars.lookup id, depth, state.nodes[id]? with
    | some scalar, _, _ => .scalar scalar
    | none, depth + 1, some node =>
      match node.content with
      | .sequence items =>
        if CollectionType.ofTag? node.tag == some .pairs then
          .list (items.map fun item =>
            match state.nodes[item]?.map Node.content with
            | some (.mapping [(key, part)]) =>
              .pair (value state depth key) (value state depth part)
            | _ => .deeper)
        else .list (items.map (value state depth))
      | .mapping entries =>
        let pairs := entries.filterMap fun (key, part) =>
          (state.scalars.lookup key).map (·, value state depth part)
        let distinct := pairs.foldl (fun found (key, part) => insert key part found) []
        if CollectionType.ofTag? node.tag == some .set then .set (distinct.map Prod.fst)
        else .mapping distinct
      | .scalar _ => .deeper
    | none, _, _ => .deeper

end Examination

/-- The value of a text down to a depth. An empty text has no value, like the scalar
that says so. -/
def read (depth : Nat) (text : String) : Except Failure Value := do
  match ← Document.ofText text with
  | none => return .scalar .null
  | some document =>
    let ((), state) ← (do
      Examine.meet document.root
      Examine.rounds (document.nodes.size + 1) : Examine Unit).run { nodes := document.nodes }
    return state.value depth document.root

end ClassProfile.Yaml
