import ClassProfile.Notation.Reading
import ClassProfile.Proofs.Shape

/-! The grammar of the notation, as derivation trees.

    type      := NAME arguments? ("[" "]")*
    arguments := "<" argument ("," argument)* ">"
    argument  := "?" (("extends" | "super") type)? | type

A tree fixes the lexemes that it derives and the shape that it denotes. Which
names are type variables is no part of a tree: they only decide whether it is
admitted and how its names are understood. -/
namespace ClassProfile.Notation

mutual

/-- A derivation of `type`. Any text may be the name, the words that bound
wildcards among them. -/
inductive TypeTree where
  /-- A name alone. -/
  | name (text : String)
  /-- A name with arguments. -/
  | applied (text : String) (arguments : ArgumentsTree)
  /-- One more pair of brackets after a type. -/
  | array (element : TypeTree)

/-- A derivation of what stands between angle brackets. -/
inductive ArgumentsTree where
  | last (argument : ArgumentTree)
  | more (argument : ArgumentTree) (rest : ArgumentsTree)

/-- A derivation of `argument`. -/
inductive ArgumentTree where
  /-- A question mark alone. -/
  | unbounded
  /-- A question mark, `extends` and a type. -/
  | upper (bound : TypeTree)
  /-- A question mark, `super` and a type. -/
  | lower (bound : TypeTree)
  | type (type : TypeTree)

end

mutual

/-- The lexemes derived. -/
def TypeTree.lexemes : TypeTree → List Lexeme
  | .name text => [.name text]
  | .applied text arguments =>
    .name text :: .symbol .less :: arguments.lexemes ++ [.symbol .greater]
  | .array element => element.lexemes ++ [.symbol .openBracket, .symbol .closeBracket]

@[inherit_doc TypeTree.lexemes]
def ArgumentsTree.lexemes : ArgumentsTree → List Lexeme
  | .last argument => argument.lexemes
  | .more argument rest => argument.lexemes ++ .symbol .comma :: rest.lexemes

@[inherit_doc TypeTree.lexemes]
def ArgumentTree.lexemes : ArgumentTree → List Lexeme
  | .unbounded => [.symbol .question]
  | .upper bound => .symbol .question :: .name "extends" :: bound.lexemes
  | .lower bound => .symbol .question :: .name "super" :: bound.lexemes
  | .type type => type.lexemes

end

mutual

/-- No type variable is given arguments. -/
def TypeTree.Admitted (typeVariables : List String) : TypeTree → Prop
  | .name _ => True
  | .applied text arguments => text ∉ typeVariables ∧ arguments.Admitted typeVariables
  | .array element => element.Admitted typeVariables

@[inherit_doc TypeTree.Admitted]
def ArgumentsTree.Admitted (typeVariables : List String) : ArgumentsTree → Prop
  | .last argument => argument.Admitted typeVariables
  | .more argument rest => argument.Admitted typeVariables ∧ rest.Admitted typeVariables

@[inherit_doc TypeTree.Admitted]
def ArgumentTree.Admitted (typeVariables : List String) : ArgumentTree → Prop
  | .unbounded => True
  | .upper bound => bound.Admitted typeVariables
  | .lower bound => bound.Admitted typeVariables
  | .type type => type.Admitted typeVariables

end

mutual

/-- The shape denoted. -/
def TypeTree.shape (typeVariables : List String) : TypeTree → Shape
  | .name text => if text ∈ typeVariables then .typeVariable text else .scalar (.named text)
  | .applied text arguments => .generic (.named text) (arguments.shapes typeVariables)
  | .array element => .array (element.shape typeVariables)

/-- The shapes denoted, in order. -/
def ArgumentsTree.shapes (typeVariables : List String) : ArgumentsTree → List Shape
  | .last argument => [argument.shape typeVariables]
  | .more argument rest => argument.shape typeVariables :: rest.shapes typeVariables

@[inherit_doc TypeTree.shape]
def ArgumentTree.shape (typeVariables : List String) : ArgumentTree → Shape
  | .unbounded => .wildcard none none
  | .upper bound => .wildcard (some (bound.shape typeVariables)) none
  | .lower bound => .wildcard none (some (bound.shape typeVariables))
  | .type type => type.shape typeVariables

end

/-- The tree derives the lexemes, with the shape as the result. -/
structure TypeTree.Derives (typeVariables : List String) (tree : TypeTree)
    (lexemes : List Lexeme) (shape : Shape) : Prop where
  admitted : tree.Admitted typeVariables
  lexemes_eq : tree.lexemes = lexemes
  shape_eq : tree.shape typeVariables = shape

/-- The grammar derives the lexemes as a type, with the shape as the result. -/
def Derivable (typeVariables : List String) (lexemes : List Lexeme) (shape : Shape) : Prop :=
  ∃ tree : TypeTree, tree.Derives typeVariables lexemes shape

variable {typeVariables : List String}

theorem TypeTree.shape_ne_wildcard (tree : TypeTree) (upper lower : Option Shape) :
    tree.shape typeVariables ≠ .wildcard upper lower := by
  cases tree with
  | name text =>
    rw [TypeTree.shape]
    split <;> exact Shape.noConfusion
  | applied text arguments => exact Shape.noConfusion
  | array element => exact Shape.noConfusion

theorem name_shape_eq_iff {text : String} {tree : TypeTree} :
    (TypeTree.name text).shape typeVariables = tree.shape typeVariables ↔ tree = .name text := by
  constructor
  · intro same
    cases tree with
    | name other =>
      simp only [TypeTree.shape] at same
      split at same <;> split at same <;> simp_all [Identity.named]
    | applied other arguments =>
      simp only [TypeTree.shape] at same
      split at same <;> contradiction
    | array element =>
      simp only [TypeTree.shape] at same
      split at same <;> contradiction
  · rintro rfl
    rfl

mutual

theorem TypeTree.shape_injective {tree other : TypeTree}
    (same : tree.shape typeVariables = other.shape typeVariables) : tree = other := by
  match tree, other with
  | .name text, other => exact (name_shape_eq_iff.mp same).symm
  | tree, .name text => exact name_shape_eq_iff.mp same.symm
  | .applied text arguments, .applied text' arguments' =>
    simp only [TypeTree.shape, Shape.generic.injEq] at same
    obtain ⟨base, shapes⟩ := same
    have texts : text = text' := (Identity.plain.inj base).1
    rw [texts, ArgumentsTree.shapes_injective shapes]
  | .array element, .array element' =>
    simp only [TypeTree.shape, Shape.array.injEq] at same
    rw [TypeTree.shape_injective same]
  | .applied _ _, .array _ => contradiction
  | .array _, .applied _ _ => contradiction

theorem ArgumentsTree.shapes_injective {trees others : ArgumentsTree}
    (same : trees.shapes typeVariables = others.shapes typeVariables) : trees = others := by
  match trees, others with
  | .last argument, .last argument' =>
    simp only [ArgumentsTree.shapes, List.cons.injEq, and_true] at same
    rw [ArgumentTree.shape_injective same]
  | .more argument rest, .more argument' rest' =>
    simp only [ArgumentsTree.shapes, List.cons.injEq] at same
    rw [ArgumentTree.shape_injective same.1, ArgumentsTree.shapes_injective same.2]
  | .last argument, .more argument' rest =>
    cases rest <;> simp [ArgumentsTree.shapes] at same
  | .more argument rest, .last argument' =>
    cases rest <;> simp [ArgumentsTree.shapes] at same

theorem ArgumentTree.shape_injective {argument other : ArgumentTree}
    (same : argument.shape typeVariables = other.shape typeVariables) : argument = other := by
  match argument, other with
  | .type type, .type type' =>
    rw [TypeTree.shape_injective same]
  | .upper bound, .upper bound' =>
    simp only [ArgumentTree.shape, Shape.wildcard.injEq, Option.some.injEq, and_true] at same
    rw [TypeTree.shape_injective same]
  | .lower bound, .lower bound' =>
    simp only [ArgumentTree.shape, Shape.wildcard.injEq, Option.some.injEq, true_and] at same
    rw [TypeTree.shape_injective same]
  | .unbounded, .unbounded => rfl
  | .type type, .unbounded | .type type, .upper _ | .type type, .lower _ =>
    exact absurd same (type.shape_ne_wildcard _ _)
  | .unbounded, .type type | .upper _, .type type | .lower _, .type type =>
    exact absurd same.symm (type.shape_ne_wildcard _ _)
  | .unbounded, .upper _ | .unbounded, .lower _ | .upper _, .unbounded
  | .upper _, .lower _ | .lower _, .unbounded | .lower _, .upper _ =>
    simp [ArgumentTree.shape] at same

end

mutual

/-- Every type in a shape that a tree denotes is one known by name. -/
theorem TypeTree.named_of_occurs {type : Identity} : (tree : TypeTree) →
    (tree.shape typeVariables).Occurs type → ∃ name, type = .named name
  | .name text, occurs => by
    rw [TypeTree.shape] at occurs
    split at occurs
    · cases occurs
    · cases occurs with
      | scalar => exact ⟨text, rfl⟩
  | .applied text arguments, occurs => by
    rw [TypeTree.shape] at occurs
    cases occurs with
    | base => exact ⟨text, rfl⟩
    | argument member inside => exact arguments.named_of_occurs member inside
  | .array element, occurs => by
    rw [TypeTree.shape] at occurs
    exact element.named_of_occurs (Shape.occurs_array_iff.mp occurs)

theorem ArgumentsTree.named_of_occurs {shape : Shape} {type : Identity} : (tree : ArgumentsTree) →
    shape ∈ tree.shapes typeVariables → shape.Occurs type → ∃ name, type = .named name
  | .last argument, member, occurs => by
    obtain rfl := List.mem_singleton.mp member
    exact argument.named_of_occurs occurs
  | .more argument rest, member, occurs => by
    obtain rfl | later := List.mem_cons.mp member
    · exact argument.named_of_occurs occurs
    · exact rest.named_of_occurs later occurs

theorem ArgumentTree.named_of_occurs {type : Identity} : (tree : ArgumentTree) →
    (tree.shape typeVariables).Occurs type → ∃ name, type = .named name
  | .unbounded, occurs => by cases occurs
  | .upper bound, occurs => by
    cases occurs with
    | upper inside => exact bound.named_of_occurs inside
  | .lower bound, occurs => by
    cases occurs with
    | lower inside => exact bound.named_of_occurs inside
  | .type type, occurs => type.named_of_occurs occurs

end

end ClassProfile.Notation
