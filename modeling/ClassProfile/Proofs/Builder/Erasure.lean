import ClassProfile.Proofs.Builder.Outcome
import ClassProfile.Proofs.Resolution.Spine

/-! Arguments with and without the words for an upper bound. An argument that is only
bounded above is described as its bound is, at every depth, so a build cannot tell the
two apart. A wildcard that has a lower bound too stays, and so does one outside of any
argument list: the log names its kind. -/
namespace ClassProfile

namespace Shape

/-- What is below all outer wildcards with an upper bound and no other. -/
def unmarked : Shape → Shape
  | wildcard (some upper) none => upper.unmarked
  | shape => shape

mutual

/-- The shape with each argument of a generic, at every depth, replaced by its upper
bound as long as that is the only one it has. -/
def erased : Shape → Shape
  | scalar type => scalar type
  | array element => array element.erased
  | generic base arguments => generic base (erasedArguments arguments)
  | wildcard upper lower => wildcard (erasedBound upper) (erasedBound lower)
  | typeVariable name => typeVariable name

@[inherit_doc erased]
def erasedArguments : List Shape → List Shape
  | [] => []
  | argument :: rest => argument.erased.unmarked :: erasedArguments rest

@[inherit_doc erased]
def erasedBound : Option Shape → Option Shape
  | none => none
  | some bound => some bound.erased

end

theorem unmarked_ne (shape upper : Shape) : shape.unmarked ≠ wildcard (some upper) none := by
  fun_induction unmarked shape with
  | case1 bound ih => exact ih
  | case2 shape other => exact other upper

theorem written_unmarked (shape : Shape) : shape.unmarked.written = shape.written := by
  fun_induction unmarked shape with
  | case1 upper ih => rw [ih, written, writtenBound, writtenBound, List.append_nil]
  | case2 => rfl

theorem unwrapped_unmarked (shape : Shape) : shape.unmarked.unwrapped = shape.unwrapped := by
  fun_induction unmarked shape with
  | case1 upper ih => rw [ih, unwrapped]
  | case2 => rfl

theorem unwrapped_erased (shape : Shape) : shape.erased.unwrapped = shape.unwrapped.erased := by
  fun_induction unwrapped shape with
  | case1 lower upper ih => rw [erased, erasedBound, unwrapped, ih]
  | case2 shape bare =>
    cases shape with
    | wildcard upper lower =>
      cases upper with
      | none => rfl
      | some upper => exact absurd rfl (bare upper lower)
    | _ => rfl

/-- Erasure does not reach the spine: no argument of a generic is on it. -/
theorem sameSpine_erased (shape : Shape) : shape.SameSpine shape.erased := by
  fun_induction spineEnd shape with
  | case1 element ih => exact .array ih
  | case2 upper lower ih => exact .upper ih
  | case3 shape notArray unbounded =>
    cases shape with
    | scalar type => exact .scalar
    | array element => exact absurd rfl (notArray element)
    | generic base arguments => exact .generic
    | wildcard upper lower =>
      cases upper with
      | none => exact .unbounded
      | some upper => exact absurd rfl (unbounded upper lower)
    | typeVariable name => exact .typeVariable

theorem element_erased (shape : Shape) : shape.erased.element = shape.element.erased := by
  cases shape <;> rfl

mutual

@[simp] theorem written_erased : (shape : Shape) → shape.erased.written = shape.written
  | .scalar type => rfl
  | .array element => written_erased element
  | .generic base arguments => by
    rw [erased, written, writtenAll_erasedArguments arguments, written]
  | .wildcard upper lower => by
    rw [erased, written, writtenBound_erasedBound upper, writtenBound_erasedBound lower, written]
  | .typeVariable name => rfl

theorem writtenAll_erasedArguments :
    (arguments : List Shape) → writtenAll (erasedArguments arguments) = writtenAll arguments
  | [] => rfl
  | argument :: rest => by
    rw [erasedArguments, writtenAll, written_unmarked, written_erased argument,
      writtenAll_erasedArguments rest, writtenAll]

theorem writtenBound_erasedBound :
    (bound : Option Shape) → writtenBound (erasedBound bound) = writtenBound bound
  | none => rfl
  | some bound => written_erased bound

end

theorem unmarked_erased (shape : Shape) : shape.erased.unmarked = shape.unmarked.erased := by
  fun_induction unmarked shape with
  | case1 upper ih => rw [erased, erasedBound, erasedBound, unmarked, ih]
  | case2 shape other =>
    cases shape with
    | wildcard upper lower =>
      cases upper with
      | none => rfl
      | some upper =>
        cases lower with
        | none => exact absurd rfl (other upper)
        | some lower => rfl
    | _ => rfl

theorem erasedArguments_eq (arguments : List Shape) :
    erasedArguments arguments = arguments.map fun argument => argument.unmarked.erased := by
  induction arguments with
  | nil => rfl
  | cons argument rest ih => rw [erasedArguments, unmarked_erased, ih, List.map_cons]

/-- Whatever stands in an erased shape is erased itself. -/
theorem Within.erased {part whole shape : Shape} (inside : part.Within whole)
    (same : shape.erased = whole) : ∃ origin : Shape, origin.erased = part := by
  induction inside generalizing shape with
  | whole => exact ⟨shape, same⟩
  | array inside ih =>
    cases shape with
    | array element => exact ih (array.inj same)
    | _ => contradiction
  | argument member inside ih =>
    cases shape with
    | generic base arguments =>
      obtain ⟨-, rfl⟩ := generic.inj same
      rw [erasedArguments_eq] at member
      obtain ⟨argument, -, erasure⟩ := List.mem_map.mp member
      exact ih erasure
    | _ => contradiction
  | upper inside ih =>
    cases shape with
    | wildcard upper lower =>
      obtain ⟨above, -⟩ := wildcard.inj same
      cases upper with
      | none => contradiction
      | some bound => exact ih (Option.some.inj above)
    | _ => contradiction
  | lower inside ih =>
    cases shape with
    | wildcard upper lower =>
      obtain ⟨-, below⟩ := wildcard.inj same
      cases lower with
      | none => contradiction
      | some bound => exact ih (Option.some.inj below)
    | _ => contradiction

/-- No argument in an erased shape has an upper bound and no other. -/
theorem not_mem_of_within_erased {shape : Shape} {base : Identity} {arguments : List Shape}
    (inside : (generic base arguments).Within shape.erased) (upper : Shape) :
    wildcard (some upper) none ∉ arguments := by
  obtain ⟨origin, same⟩ := inside.erased rfl
  cases origin with
  | generic base given =>
    obtain ⟨-, rfl⟩ := generic.inj same
    intro member
    rw [erasedArguments_eq] at member
    obtain ⟨argument, -, erasure⟩ := List.mem_map.mp member
    rw [← unmarked_erased] at erasure
    exact unmarked_ne _ _ erasure
  | _ => contradiction

/-- Bounds of bounds go, and so do those within an array. -/
example : (generic (.named "List")
      [wildcard (some (wildcard (some (array (generic (.named "Set")
        [wildcard (some (typeVariable "T")) none]))) none)) none]).erased =
    generic (.named "List") [array (generic (.named "Set") [typeVariable "T"])] := rfl

end Shape

namespace Policy

theorem firstArgument_erased (base : Identity) (arguments : List Shape) :
    firstArgument base (Shape.erasedArguments arguments) =
      (firstArgument base arguments).map Shape.erased := by
  cases arguments with
  | nil => rfl
  | cons first rest =>
    rw [Shape.erasedArguments, firstArgument, Shape.unwrapped_unmarked, Shape.unwrapped_erased]
    rfl

theorem part_erased (policy : Policy) (shape : Shape) :
    policy.part shape.erased = (policy.part shape).map Shape.erased := by
  cases shape with
  | generic base arguments =>
    rw [Shape.erased, part, part]
    split
    · rw [firstArgument_erased]
      cases firstArgument base arguments with
      | error fault => rfl
      | ok argument => exact congrArg Except.ok (Shape.element_erased argument)
    · rfl
  | _ => rfl

theorem writtenTypes_erased (policy : Policy) (shape : Shape) :
    policy.writtenTypes shape.erased = policy.writtenTypes shape := by
  rw [writtenTypes_eq, writtenTypes_eq, part_erased]
  cases policy.part shape with
  | error fault => rfl
  | ok part => exact congrArg Except.ok (Shape.written_erased part)

/-- What has the words for an upper bound is resolved as it is without them, with the same
failures on the way. -/
theorem resolve_erased (policy : Policy) (shape : Shape) :
    policy.resolve shape.erased = policy.resolve shape := by
  have same := Shape.sameSpine_erased shape
  cases shape with
  | generic base arguments =>
    rw [Shape.erased, resolve, resolve]
    split
    · rw [firstArgument_erased]
      cases firstArgument base arguments with
      | error fault => rfl
      | ok argument =>
        exact (policy.resolveIterable_of_sameSpine base argument.sameSpine_erased).symm
    · exact (policy.resolveScalar_of_sameSpine same).symm
  | _ =>
    refine (SameDeciding.whole ?_ same).resolve_eq.symm
    exact fun _ _ generic => Shape.noConfusion generic

end Policy

/-- The accessor with its return type erased. -/
def Accessor.erased (accessor : Accessor) : Accessor :=
  { accessor with returnType := accessor.returnType.erased }

namespace Builder

theorem verdict_erased (builder : Builder) (taken : List String) (accessor : Accessor) :
    builder.verdict taken accessor.erased = builder.verdict taken accessor := by
  unfold verdict
  rw [Accessor.erased, Policy.resolve_erased]
  rfl

theorem verdicts_map_erased (builder : Builder) (taken : List String)
    (accessors : List Accessor) :
    builder.verdicts taken (accessors.map Accessor.erased) =
      builder.verdicts taken accessors := by
  induction accessors generalizing taken with
  | nil => rfl
  | cons accessor rest ih => rw [List.map_cons, verdicts, verdicts, verdict_erased, ih]

theorem candidates_erased (builder : Builder) (accessor : Accessor) :
    builder.candidates accessor.erased = builder.candidates accessor := by
  rw [candidates, candidates, Accessor.erased, Policy.writtenTypes_erased]

theorem importsOf_map_erased (builder : Builder) (accessors : List Accessor) :
    builder.importsOf (accessors.map Accessor.erased) = builder.importsOf accessors := by
  simp only [importsOf, List.flatMap_map, candidates_erased]

/-- A build of erased accessors is the build of the accessors: the same properties, imports
and diagnostics, and the same records on the way. In the erased return types no argument
of a generic, at any depth, is left with an upper bound and no other. -/
theorem build_erased (builder : Builder) (subject : Identity) (accessors : List Accessor) :
    ∃ built,
      (builder.build subject (.ofAccessors accessors)).outcome = .ok built ∧
      (builder.build subject (.ofAccessors (accessors.map Accessor.erased))).outcome =
        .ok built ∧
      (builder.build subject (.ofAccessors (accessors.map Accessor.erased))).log =
        (builder.build subject (.ofAccessors accessors)).log ∧
      ∀ accessor ∈ accessors, ∀ base arguments,
        (Shape.generic base arguments).Within accessor.erased.returnType →
          ∀ upper, .wildcard (some upper) none ∉ arguments := by
  have properties : builder.propertiesOf (accessors.map Accessor.erased) =
      builder.propertiesOf accessors := by
    rw [propertiesOf, propertiesOf, verdicts_map_erased]
  have diagnostics : builder.diagnosticsOf (accessors.map Accessor.erased) =
      builder.diagnosticsOf accessors := by
    rw [diagnosticsOf, diagnosticsOf, verdicts_map_erased]
  have imports := builder.importsOf_map_erased accessors
  refine ⟨_, builder.build_ofAccessors subject accessors, ?_, ?_, ?_⟩
  · rw [build_ofAccessors, properties, imports, diagnostics]
  · rw [log_build_ofAccessors, log_build_ofAccessors, properties, imports, diagnostics, logOf,
      logOf, verdicts_map_erased]
  · intro accessor _ base arguments inside upper
    exact Shape.not_mem_of_within_erased inside upper

end Builder
end ClassProfile
