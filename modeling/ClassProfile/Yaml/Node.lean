import ClassProfile.Yaml.Scalar.Implicit
import ClassProfile.Yaml.Token.Layout

/-! The nodes of a document. Nodes are numbered, since an alias makes a node part of
several others and even of itself. Every node has a tag, stated or by its form. -/
namespace ClassProfile.Yaml

/-- What a node holds. -/
inductive Content where
  | scalar (text : String)
  | sequence (items : List Nat)
  | mapping (entries : List (Nat × Nat))

structure Node where
  tag : String
  content : Content

/-- The state of reading nodes from tokens. -/
structure Reading where
  tokens : List Token
  /-- What stands in for a token after the last one. -/
  failure? : Option Failure
  nodes : Array Node := #[]
  anchors : List (String × Nat) := []
  handles : List (String × String) := []

/-- A step of reading nodes. -/
abbrev Read (α : Type) := StateT Reading (Except Failure) α

namespace Read

/-- The text is not valid. -/
def invalid : Read α := throw .invalid

/-- The next token; none at the end of the text. -/
def peek : Read (Option Token) := do
  let state ← get
  match state.tokens, state.failure? with
  | token :: _, _ => return some token
  | [], none => return none
  | [], some failure => throw failure

def skip : Read Unit := modify fun state => { state with tokens := state.tokens.drop 1 }

def nextIn (tokens : List Token) : Read Bool := do
  return (← peek).any tokens.contains

def node (tag : String) (content : Content) : Read Nat := do
  let state ← get
  set { state with nodes := state.nodes.push ⟨tag, content⟩ }
  return state.nodes.size

/-- Remembers a node under its anchor, which must be new. -/
def anchored (anchor? : Option String) (id : Nat) : Read Unit := do
  match anchor? with
  | none => return
  | some name =>
    let state ← get
    if (state.anchors.lookup name).isSome then invalid
    else set { state with anchors := (name, id) :: state.anchors }

/-- A scalar of the given text. One that states no tag is typed by its form if it is
plain; the tag of one mark asks for that too. -/
def scalar (anchor? tag? : Option String) (text : String) (isPlain : Bool) : Read Nat := do
  let tag := match tag? with
    | none => if isPlain then implicitTag text else coreTag "str"
    | some tag => if tag = "!" then implicitTag text else tag
  let id ← node tag (.scalar text)
  anchored anchor? id
  return id

/-- The scalar that stands where nothing is written. -/
def nothing : Read Nat := scalar none none "" true

/-- A collection. It can be referred to within itself. -/
def collection (anchor? tag? : Option String) (name : String) (contents : Read Content) :
    Read Nat := do
  let tag := match tag? with
    | none => coreTag name
    | some tag => if tag = "!" then coreTag name else tag
  let id ← node tag (.sequence [])
  anchored anchor? id
  let content ← contents
  modify fun state => { state with nodes := state.nodes.modify id fun _ => ⟨tag, content⟩ }
  return id

/-- The full tag that a written one stands for. -/
def fullTag (tag : Tag) : Read String := do
  match tag.handle? with
  | none => return tag.suffix
  | some handle =>
    match (← get).handles.lookup handle with
    | some start => return start ++ tag.suffix
    | none => invalid

/-- An anchor and a tag, in either order. -/
def properties : Read (Option String × Option String) := do
  match ← peek with
  | some (.anchor name) =>
    skip
    match ← peek with
    | some (.tag tag) => skip; return (some name, some (← fullTag tag))
    | _ => return (some name, none)
  | some (.tag tag) =>
    skip
    match ← peek with
    | some (.anchor name) => skip; return (some name, some (← fullTag tag))
    | _ => return (none, some (← fullTag tag))
  | _ => return (none, none)

/-- The comma before all items but the first. -/
def flowSeparator (isFirst : Bool) : Read Unit := do
  if isFirst then return
  else if ← nextIn [.flowEntry] then skip
  else invalid

mutual

/-- A node. One without content stands for nothing if it has an anchor or tag.
Collections in block style, and sequences that are not indented, are read only
where they may stand. -/
def anyNode : Nat → Bool → Bool → Read Nat
  | 0, _, _ => invalid
  | steps + 1, mayBlock, mayHang => do
    match ← peek with
    | some (.alias name) =>
      skip
      match (← get).anchors.lookup name with
      | some id => return id
      | none => invalid
    | _ =>
      let (anchor?, tag?) ← properties
      match ← peek, mayBlock with
      | some (.scalar text isPlain), _ => skip; scalar anchor? tag? text isPlain
      | some .flowSequenceStart, _ =>
        skip
        collection anchor? tag? "seq" do return .sequence (← flowItems steps true)
      | some .flowMappingStart, _ =>
        skip
        collection anchor? tag? "map" do return .mapping (← flowEntries steps true)
      | some .blockSequenceStart, true =>
        skip
        collection anchor? tag? "seq" do return .sequence (← blockItems steps)
      | some .blockMappingStart, true =>
        skip
        collection anchor? tag? "map" do return .mapping (← blockEntries steps)
      | token, _ =>
        if mayHang && token == some .blockEntry then
          collection anchor? tag? "seq" do return .sequence (← hangingItems steps)
        else if anchor?.isSome || tag?.isSome then scalar anchor? tag? "" true
        else invalid

def blockItems : Nat → Read (List Nat)
  | 0 => invalid
  | steps + 1 => do
    match ← peek with
    | some .blockEntry =>
      skip
      let item ←
        if ← nextIn [.blockEntry, .blockEnd] then nothing else anyNode steps true false
      return item :: (← blockItems steps)
    | some .blockEnd => skip; return []
    | _ => invalid

/-- The items of a sequence that is not indented against the mapping around it. -/
def hangingItems : Nat → Read (List Nat)
  | 0 => invalid
  | steps + 1 => do
    match ← peek with
    | some .blockEntry =>
      skip
      let item ←
        if ← nextIn [.blockEntry, .key, .value, .blockEnd] then nothing
        else anyNode steps true false
      return item :: (← hangingItems steps)
    | _ => return []

def blockEntries : Nat → Read (List (Nat × Nat))
  | 0 => invalid
  | steps + 1 => do
    match ← peek with
    | some .key =>
      skip
      let key ← blockPart steps
      let value ← match ← peek with
        | some .value => skip; blockPart steps
        | _ => nothing
      return (key, value) :: (← blockEntries steps)
    | some .blockEnd => skip; return []
    | _ => invalid

/-- A key or value of a mapping in block style. -/
def blockPart : Nat → Read Nat
  | 0 => invalid
  | steps + 1 => do
    if ← nextIn [.key, .value, .blockEnd] then nothing else anyNode steps true true

/-- The items of a sequence in flow style. A single entry may stand for a mapping. -/
def flowItems : Nat → Bool → Read (List Nat)
  | 0, _ => invalid
  | steps + 1, isFirst => do
    if ← nextIn [.flowSequenceEnd] then
      skip
      return []
    else
      flowSeparator isFirst
      match ← peek with
      | some .flowSequenceEnd => skip; return []
      | some .key =>
        let item ← collection none none "map" do
          skip
          return .mapping [← flowEntry steps .flowSequenceEnd]
        return item :: (← flowItems steps false)
      | _ =>
        let item ← anyNode steps false false
        return item :: (← flowItems steps false)

def flowEntries : Nat → Bool → Read (List (Nat × Nat))
  | 0, _ => invalid
  | steps + 1, isFirst => do
    if ← nextIn [.flowMappingEnd] then
      skip
      return []
    else
      flowSeparator isFirst
      match ← peek with
      | some .flowMappingEnd => skip; return []
      | some .key =>
        skip
        let entry ← flowEntry steps .flowMappingEnd
        return entry :: (← flowEntries steps false)
      | _ =>
        let key ← anyNode steps false false
        let value ← nothing
        return (key, value) :: (← flowEntries steps false)

/-- An entry in flow style whose key has been announced. -/
def flowEntry : Nat → Token → Read (Nat × Nat)
  | 0, _ => invalid
  | steps + 1, closing => do
    let key ←
      if ← nextIn [.value, .flowEntry, closing] then nothing else anyNode steps false false
    let value ←
      if ← nextIn [.value] then do
        skip
        if ← nextIn [.flowEntry, closing] then nothing else anyNode steps false false
      else nothing
    return (key, value)

end

/-- The handles that every document has. -/
def commonHandles : List (String × String) := [("!", "!"), ("!!", coreTag "")]

/-- The directives before a document: at most one for the version, which must be the
first, and one for each handle. -/
def directives : Nat → Bool → List (String × String) → Read (List (String × String))
  | 0, _, handles => return handles
  | steps + 1, hasVersion, handles => do
    match ← peek with
    | some (.directive (.yaml major _)) =>
      skip
      if hasVersion || major ≠ 1 then invalid else directives steps true handles
    | some (.directive (.tag handle text)) =>
      skip
      if (handles.lookup handle).isSome then invalid
      else directives steps hasVersion ((handle, text) :: handles)
    | some (.directive .other) => skip; directives steps hasVersion handles
    | _ => return handles

def documentEnds : Nat → Read Unit
  | 0 => return
  | steps + 1 => do
    if ← nextIn [.documentEnd] then
      skip
      documentEnds steps
    else return

/-- The root of the only document, if there is one. -/
def document (steps : Nat) : Read (Option Nat) := do
  let withHandles (handles : List (String × String)) : Read Unit :=
    modify fun state => { state with handles := handles ++ commonHandles }
  match ← peek with
  | none => return none
  | some first =>
    let root ←
      if first matches .directive _ || first == .documentStart then do
        withHandles (← directives steps false [])
        if ← nextIn [.documentStart] then
          skip
          match ← peek with
          | none => nothing
          | some next =>
            if next matches .directive _ || next == .documentStart || next == .documentEnd then
              nothing
            else anyNode steps true false
        else invalid
      else do
        withHandles []
        anyNode steps true false
    documentEnds steps
    match ← peek with
    | none => return some root
    | some _ => invalid

end Read

structure Document where
  nodes : Array Node
  root : Nat

/-- The document of a text, if there is one. Every step of reading takes a token or
comes right before one that does. -/
def Document.ofText (text : String) : Except Failure (Option Document) := do
  let (tokens, failure?) := scan text
  let (root?, state) ← (Read.document (3 * tokens.length + 8)).run { tokens, failure? }
  return root?.map fun root => ⟨state.nodes, root⟩

end ClassProfile.Yaml
