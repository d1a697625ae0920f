import ClassProfile.Proofs.Notation.Acceptance

/-! What type variables change. Read without any, a text gives the shape of its derivation
with every name as a type. Type variables refuse the shapes that give arguments to one of
them, and in all others turn the scalar types of their names into variables. -/
namespace ClassProfile

namespace Shape

mutual

/-- The shape with the scalar types of these names, at every depth, as type variables. -/
def relabelled (typeVariables : List String) : Shape → Shape
  | scalar type =>
    if type.name ∈ typeVariables then typeVariable type.name else scalar type
  | array element => array (element.relabelled typeVariables)
  | generic base arguments => generic base (relabelledArguments typeVariables arguments)
  | wildcard upper lower =>
    wildcard (relabelledBound typeVariables upper) (relabelledBound typeVariables lower)
  | typeVariable name => typeVariable name

@[inherit_doc relabelled]
def relabelledArguments (typeVariables : List String) : List Shape → List Shape
  | [] => []
  | argument :: rest =>
    argument.relabelled typeVariables :: relabelledArguments typeVariables rest

@[inherit_doc relabelled]
def relabelledBound (typeVariables : List String) : Option Shape → Option Shape
  | none => none
  | some bound => some (bound.relabelled typeVariables)

end

/-- No generic in the shape has one of the names as its base. -/
def BasesAvoid (names : List String) (shape : Shape) : Prop :=
  ∀ base arguments, (generic base arguments).Within shape → base.name ∉ names

variable {names : List String}

theorem basesAvoid_scalar (type : Identity) : (scalar type).BasesAvoid names := by
  rintro base arguments ⟨⟩

theorem basesAvoid_array_iff {element : Shape} :
    (array element).BasesAvoid names ↔ element.BasesAvoid names := by
  constructor
  · intro avoids base arguments inside
    exact avoids base arguments (.array inside)
  · intro avoids base arguments inside
    cases inside with
    | array inside => exact avoids base arguments inside

theorem basesAvoid_generic_iff {base : Identity} {arguments : List Shape} :
    (generic base arguments).BasesAvoid names ↔
      base.name ∉ names ∧ ∀ argument ∈ arguments, argument.BasesAvoid names := by
  constructor
  · intro avoids
    refine ⟨avoids base arguments .whole, ?_⟩
    intro argument member inner given inside
    exact avoids inner given (.argument member inside)
  · rintro ⟨fresh, avoid⟩ inner given inside
    cases inside with
    | whole => exact fresh
    | argument member inside => exact avoid _ member inner given inside

theorem basesAvoid_wildcard_iff {upper lower : Option Shape} :
    (wildcard upper lower).BasesAvoid names ↔
      (∀ bound ∈ upper, bound.BasesAvoid names) ∧ ∀ bound ∈ lower, bound.BasesAvoid names := by
  constructor
  · intro avoids
    constructor
    · rintro bound rfl base arguments inside
      exact avoids base arguments (.upper inside)
    · rintro bound rfl base arguments inside
      exact avoids base arguments (.lower inside)
  · rintro ⟨above, below⟩ base arguments inside
    cases inside with
    | upper inside => exact above _ rfl base arguments inside
    | lower inside => exact below _ rfl base arguments inside

end Shape

namespace Notation

variable {typeVariables : List String}

theorem TypeTree.shape_name_nil (text : String) :
    (TypeTree.name text).shape [] = .scalar (.named text) := by
  rw [TypeTree.shape, if_neg List.not_mem_nil]

mutual

/-- Type variables admit a derivation if none of them is the base of a generic. -/
theorem TypeTree.admitted_iff : (tree : TypeTree) →
    (tree.Admitted typeVariables ↔ (tree.shape []).BasesAvoid typeVariables)
  | .name text => by
    rw [TypeTree.shape_name_nil]
    exact iff_of_true trivial (Shape.basesAvoid_scalar _)
  | .applied text arguments => by
    rw [TypeTree.Admitted, TypeTree.shape, Shape.basesAvoid_generic_iff,
      arguments.admitted_iff]
    rfl
  | .array element => by
    rw [TypeTree.Admitted, TypeTree.shape, Shape.basesAvoid_array_iff, element.admitted_iff]

theorem ArgumentsTree.admitted_iff : (trees : ArgumentsTree) →
    (trees.Admitted typeVariables ↔
      ∀ argument ∈ trees.shapes [], argument.BasesAvoid typeVariables)
  | .last argument => by
    rw [ArgumentsTree.Admitted, ArgumentsTree.shapes, List.forall_mem_singleton,
      argument.admitted_iff]
  | .more argument rest => by
    rw [ArgumentsTree.Admitted, ArgumentsTree.shapes, List.forall_mem_cons,
      argument.admitted_iff, rest.admitted_iff]

theorem ArgumentTree.admitted_iff : (argument : ArgumentTree) →
    (argument.Admitted typeVariables ↔ (argument.shape []).BasesAvoid typeVariables)
  | .unbounded => by
    rw [ArgumentTree.shape, Shape.basesAvoid_wildcard_iff]
    simp [ArgumentTree.Admitted]
  | .upper bound => by
    rw [ArgumentTree.Admitted, ArgumentTree.shape, Shape.basesAvoid_wildcard_iff,
      bound.admitted_iff]
    simp
  | .lower bound => by
    rw [ArgumentTree.Admitted, ArgumentTree.shape, Shape.basesAvoid_wildcard_iff,
      bound.admitted_iff]
    simp
  | .type type => type.admitted_iff

end

mutual

/-- Type variables relabel the shape of a derivation and change nothing else in it. -/
theorem TypeTree.relabelled_shape : (tree : TypeTree) →
    (tree.shape []).relabelled typeVariables = tree.shape typeVariables
  | .name text => by
    rw [TypeTree.shape_name_nil, Shape.relabelled]
    rfl
  | .applied text arguments => by
    rw [TypeTree.shape, Shape.relabelled, arguments.relabelled_shapes, TypeTree.shape]
  | .array element => by
    rw [TypeTree.shape, Shape.relabelled, element.relabelled_shape, TypeTree.shape]

theorem ArgumentsTree.relabelled_shapes : (trees : ArgumentsTree) →
    Shape.relabelledArguments typeVariables (trees.shapes []) = trees.shapes typeVariables
  | .last argument => by
    rw [ArgumentsTree.shapes, Shape.relabelledArguments, argument.relabelled_shape,
      Shape.relabelledArguments, ArgumentsTree.shapes]
  | .more argument rest => by
    rw [ArgumentsTree.shapes, Shape.relabelledArguments, argument.relabelled_shape,
      rest.relabelled_shapes, ArgumentsTree.shapes]

theorem ArgumentTree.relabelled_shape : (argument : ArgumentTree) →
    (argument.shape []).relabelled typeVariables = argument.shape typeVariables
  | .unbounded => rfl
  | .upper bound => by
    rw [ArgumentTree.shape, Shape.relabelled, Shape.relabelledBound, Shape.relabelledBound,
      bound.relabelled_shape, ArgumentTree.shape]
  | .lower bound => by
    rw [ArgumentTree.shape, Shape.relabelled, Shape.relabelledBound, Shape.relabelledBound,
      bound.relabelled_shape, ArgumentTree.shape]
  | .type type => type.relabelled_shape

end

/-- The lexemes derived under type variables are those derived without, as long as none of
the variables is a base, and with the scalar types of their names relabelled. -/
theorem derivable_iff_relabelled {lexemes : List Lexeme} {shape : Shape} :
    Derivable typeVariables lexemes shape ↔
      ∃ plain, Derivable [] lexemes plain ∧ plain.BasesAvoid typeVariables ∧
        shape = plain.relabelled typeVariables := by
  constructor
  · rintro ⟨tree, admitted, lexed, rfl⟩
    have avoids : (tree.shape []).BasesAvoid typeVariables := tree.admitted_iff.mp admitted
    have plain : tree.Admitted [] := tree.admitted_iff.mpr fun _ _ _ => List.not_mem_nil
    exact ⟨_, ⟨tree, plain, lexed, rfl⟩, avoids, tree.relabelled_shape.symm⟩
  · rintro ⟨_, ⟨tree, -, lexed, rfl⟩, avoids, rfl⟩
    exact ⟨tree, tree.admitted_iff.mpr avoids, lexed, tree.relabelled_shape.symm⟩

/-- A text is read under type variables exactly if it is read without them as a shape in
which no generic, at any depth, has one of them as its base. What is read is then that
shape with the scalar types of their names as type variables. -/
theorem read_iff_relabelled (typeVariables : List String) (text : String) (shape : Shape) :
    read typeVariables text = .ok shape ↔
      ∃ plain, read [] text = .ok plain ∧ plain.BasesAvoid typeVariables ∧
        shape = plain.relabelled typeVariables := by
  constructor
  · intro result
    obtain ⟨tokens, scanned, derivable⟩ := read_eq_ok_iff.mp result
    obtain ⟨plain, derivablePlain, avoids, same⟩ := derivable_iff_relabelled.mp derivable
    exact ⟨plain, read_eq_ok_iff.mpr ⟨tokens, scanned, derivablePlain⟩, avoids, same⟩
  · rintro ⟨plain, result, avoids, same⟩
    obtain ⟨tokens, scanned, derivablePlain⟩ := read_eq_ok_iff.mp result
    have derivable := derivable_iff_relabelled.mpr ⟨plain, derivablePlain, avoids, same⟩
    exact read_eq_ok_iff.mpr ⟨tokens, scanned, derivable⟩

/-- A word that bounds wildcards does so even where it is a type variable too. -/
example : read ["extends"] "Pair<? extends extends, extends[]>" =
    .ok (.generic (.named "Pair")
      [.wildcard (some (.typeVariable "extends")) none, .array (.typeVariable "extends")]) := by
  cbv

end Notation
end ClassProfile
