import ClassProfile.Log
import ClassProfile.Proofs.Resolution

/-! Spines. The spine of a shape goes from an array to its element and from a wildcard to
its upper bound; a shape names a type exactly if its spine ends in one. Of a declared
type only the spine of one part is ever looked at: of the first argument, where an
iterable has arguments, and otherwise of the whole. A type is malformed for its top
alone, and opaque exactly if that spine ends in no type. -/
namespace ClassProfile

namespace Shape

/-- What the spine of a shape ends in. -/
def spineEnd : Shape → Shape
  | array element => element.spineEnd
  | wildcard (some upper) _ => upper.spineEnd
  | shape => shape

/-- The spine ends in a scalar or in a generic. -/
def Reducible (shape : Shape) : Prop :=
  (∃ type, shape.spineEnd = scalar type) ∨
    ∃ base arguments, shape.spineEnd = generic base arguments

/-- The two have one spine. They may differ in the arguments of a generic and in lower
bounds. -/
inductive SameSpine : Shape → Shape → Prop where
  | scalar : SameSpine (scalar type) (scalar type)
  | generic : SameSpine (generic base arguments) (generic base others)
  | typeVariable : SameSpine (typeVariable name) (typeVariable name)
  | unbounded : SameSpine (wildcard none lower) (wildcard none otherLower)
  | array (below : SameSpine component otherComponent) :
      SameSpine (array component) (array otherComponent)
  | upper (below : SameSpine bound otherBound) :
      SameSpine (wildcard (some bound) lower) (wildcard (some otherBound) otherLower)

variable {shape other : Shape}

theorem identity?_isSome_iff_reducible : shape.identity?.isSome = true ↔ shape.Reducible := by
  unfold Reducible
  fun_induction spineEnd shape with
  | case1 element ih => rw [← ih, identity?, Option.isSome_map]
  | case2 upper lower ih => rw [← ih, identity?]
  | case3 shape notArray unbounded =>
    cases shape with
    | scalar type => simp [identity?]
    | array element => exact absurd rfl (notArray element)
    | generic base arguments => simp [identity?]
    | wildcard upper lower =>
      cases upper with
      | none => simp [identity?]
      | some upper => exact absurd rfl (unbounded upper lower)
    | typeVariable name => simp [identity?]

instance (shape : Shape) : Decidable shape.Reducible :=
  decidable_of_iff _ identity?_isSome_iff_reducible

theorem spineEnd_unwrapped (shape : Shape) : shape.unwrapped.spineEnd = shape.spineEnd := by
  fun_induction unwrapped shape with
  | case1 lower upper ih => rw [ih, spineEnd]
  | case2 => rfl

theorem spineEnd_element (shape : Shape) : shape.element.spineEnd = shape.spineEnd := by
  fun_cases element shape with
  | case1 element => rw [spineEnd]
  | case2 => rfl

namespace SameSpine

theorem kind_eq (same : shape.SameSpine other) : shape.kind = other.kind := by
  cases same <;> rfl

theorem identity?_eq (same : shape.SameSpine other) : shape.identity? = other.identity? := by
  induction same with
  | array below ih => rw [identity?, identity?, ih]
  | upper below ih => rw [identity?, identity?, ih]
  | _ => rfl

theorem reduce_eq (same : shape.SameSpine other) : shape.reduce = other.reduce := by
  rw [reduce, reduce, same.identity?_eq, same.kind_eq]

theorem unwrapped (same : shape.SameSpine other) : shape.unwrapped.SameSpine other.unwrapped := by
  induction same with
  | upper below ih => exact ih
  | array below ih => exact .array below
  | scalar => exact .scalar
  | generic => exact .generic
  | typeVariable => exact .typeVariable
  | unbounded => exact .unbounded

theorem element (same : shape.SameSpine other) : shape.element.SameSpine other.element := by
  cases same with
  | array below => exact below
  | upper below => exact .upper below
  | scalar => exact .scalar
  | generic => exact .generic
  | typeVariable => exact .typeVariable
  | unbounded => exact .unbounded

theorem reduction_eq (policy : Policy) (same : shape.SameSpine other) :
    policy.reduction shape = policy.reduction other := by
  induction same with
  | array below ih =>
    rw [Policy.reduction, Policy.reduction, (SameSpine.array below).reduce_eq, ih]
  | @upper bound otherBound lower otherLower below ih =>
    have whole : (wildcard (some bound) lower).reduce =
        (wildcard (some otherBound) otherLower).reduce := (SameSpine.upper below).reduce_eq
    simp only [Policy.reduction, whole]
  | _ => rfl

end SameSpine

end Shape

namespace Policy

/-- The part of a declared type that its resolution depends on. -/
def decidingPart (policy : Policy) : Shape → Shape
  | .generic base (first :: rest) =>
    if policy.isIterable base then first else .generic base (first :: rest)
  | shape => shape

/-- The parts that the resolution of the two depends on have one spine. -/
inductive SameDeciding (policy : Policy) : Shape → Shape → Prop where
  | argument (iterable : policy.isIterable base = true) (spine : first.SameSpine otherFirst) :
      SameDeciding policy (.generic base (first :: rest)) (.generic base (otherFirst :: otherRest))
  | whole (notIterable : ∀ base arguments, shape = .generic base arguments →
        policy.isIterable base = false) (spine : shape.SameSpine other) :
      SameDeciding policy shape other

variable {policy : Policy} {shape other : Shape}

theorem spineEnd_decidingPart {part : Shape} (has : policy.HasPart shape part) :
    (policy.decidingPart shape).spineEnd = part.spineEnd := by
  cases has with
  | array => rfl
  | iterable iterable =>
    rw [decidingPart, if_pos iterable, Shape.spineEnd_element, Shape.spineEnd_unwrapped]
  | whole notArray notIterable =>
    fun_cases decidingPart policy shape with
    | case1 base first rest iterable =>
      rw [notIterable _ _ rfl] at iterable
      contradiction
    | case2 => rfl
    | case3 => rfl

/-- The part of a declared type that its property is about names a type exactly if the
deciding part does. -/
theorem isSome_part_iff {part : Shape} (found : policy.part shape = .ok part) :
    part.identity?.isSome = true ↔ (policy.decidingPart shape).Reducible := by
  rw [Shape.identity?_isSome_iff_reducible, Shape.Reducible, Shape.Reducible,
    spineEnd_decidingPart (part_eq_ok_iff.mp found)]

theorem resolveIterable_of_sameSpine (policy : Policy) (base : Identity)
    (same : shape.SameSpine other) :
    policy.resolveIterable base shape = policy.resolveIterable base other := by
  rw [resolveIterable_eq, resolveIterable_eq, same.kind_eq, same.element.reduction_eq policy]

theorem resolveScalar_of_sameSpine (policy : Policy) (same : shape.SameSpine other) :
    policy.resolveScalar shape = policy.resolveScalar other := by
  rw [resolveScalar, resolveScalar, same.reduction_eq policy]

/-- Declared types whose deciding parts have one spine are resolved alike. -/
theorem SameDeciding.resolve_eq (same : policy.SameDeciding shape other) :
    policy.resolve shape = policy.resolve other := by
  cases same with
  | argument iterable spine =>
    simp only [resolve, iterable, if_true, firstArgument]
    exact policy.resolveIterable_of_sameSpine _ spine.unwrapped
  | whole notIterable spine =>
    have scalar := policy.resolveScalar_of_sameSpine spine
    cases spine with
    | @array component otherComponent below =>
      have whole : policy.reduction (.array component) =
          policy.reduction (.array otherComponent) :=
        (Shape.SameSpine.array below).reduction_eq policy
      rw [resolve, resolve, resolveArray, resolveArray, whole, below.reduction_eq policy]
    | @generic base arguments others =>
      have other : ¬policy.isIterable base = true :=
        Bool.eq_false_iff.mp (notIterable base arguments rfl)
      rw [resolve, resolve, if_neg other, if_neg other, scalar]
    | _ => exact scalar

theorem exists_debug_iff {failures : List Shape.Irreducible} :
    (∃ event ∈ policy.fallbackEvents failures, event.level = .debug) ↔ failures ≠ [] := by
  cases failures with
  | nil => simp [fallbackEvents]
  | cons failure rest => simp [fallbackEvents, Event.level]

/-- A declared type is refused exactly if it is an iterable generic without arguments
itself. Any other is resolved to a valid description, which is opaque exactly if the
spine of the deciding part ends in no type, and then what was replaced is recorded for
debugging. Nothing but the spine of the deciding part counts. -/
theorem resolve_follows_spine (policy : Policy) (shape : Shape) :
    (∀ fault, policy.resolve shape = .error fault ↔
      ∃ base, shape = .generic base [] ∧ policy.isIterable base = true ∧
        fault = .malformed ⟨base⟩) ∧
    (¬policy.Malforms shape → ∃ resolution, policy.resolve shape = .ok resolution ∧
      resolution.type.Valid ∧
      (resolution.type.isOpaque = true ↔ ¬(policy.decidingPart shape).Reducible) ∧
      ((∃ event ∈ policy.fallbackEvents resolution.failures, event.level = .debug) ↔
        resolution.type.isOpaque = true)) ∧
    ∀ other, policy.SameDeciding shape other → policy.resolve other = policy.resolve shape := by
  refine ⟨?_, ?_, fun other same => same.resolve_eq.symm⟩
  · intro fault
    rw [resolve_eq_error_iff]
    constructor
    · rintro ⟨malformed, rfl, found⟩
      obtain ⟨rfl, iterable⟩ := part_eq_error_iff.mp found
      exact ⟨_, rfl, iterable, rfl⟩
    · rintro ⟨base, rfl, iterable, rfl⟩
      exact ⟨_, rfl, part_eq_error_iff.mpr ⟨rfl, iterable⟩⟩
  · intro wellFormed
    obtain ⟨part, found⟩ := not_malforms_iff.mp wellFormed
    obtain ⟨failures, named, resolved⟩ := resolve_around found
    refine ⟨_, resolved, policy.valid_around shape _, ?_, ?_⟩
    · rw [← isSome_part_iff found, ← named]
      simp
    · rw [exists_debug_iff]
      simp

/-- An iterable of arrays of what is bounded below alone, and a malformed argument. -/
def nets : Shape :=
  .generic (.named "java.util.List")
    [.wildcard (some (.array (.wildcard none (some (.scalar (.named "acme.Rope")))))) none,
     .generic (.named "java.util.Set") []]

/-- The same spine, with other bounds beside it and no second argument. -/
def mendedNets : Shape :=
  .generic (.named "java.util.List")
    [.wildcard (some (.array (.wildcard none none))) (some (.typeVariable "T"))]

theorem resolve_follows_spine_nets :
    ¬standard.Malforms nets ∧ standard.SameDeciding nets mendedNets ∧ ∃ resolution,
      standard.resolve nets = .ok resolution ∧ resolution.type.Valid ∧
      resolution.type.isOpaque = true ∧
      (∃ event ∈ standard.fallbackEvents resolution.failures, event.level = .debug) ∧
      standard.resolve mendedNets = .ok resolution := by
  have wellFormed : ¬standard.Malforms nets := by decide
  have same : standard.SameDeciding nets mendedNets :=
    .argument (by decide) (.upper (.array .unbounded))
  obtain ⟨-, settled, spine⟩ := resolve_follows_spine standard nets
  obtain ⟨resolution, resolved, valid, opaqueType, recorded⟩ := settled wellFormed
  have vague : resolution.type.isOpaque = true := opaqueType.mpr (by decide)
  exact ⟨wellFormed, same, resolution, resolved, valid, vague, recorded.mpr vague,
    (spine mendedNets same).trans resolved⟩

end Policy
end ClassProfile
