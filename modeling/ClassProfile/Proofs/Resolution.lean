import ClassProfile.Proofs.Description
import ClassProfile.Proofs.Shape
import ClassProfile.Resolution

/-! What a resolution comes to. A declared type has a part that its property is
about: the element of an array, what an iterable holds, or all of it. The type is
malformed exactly if it has no such part. Otherwise it is resolved to what the
part names, and is opaque exactly if the part names nothing. -/
namespace ClassProfile

/-- The type that code for a property names: the element of whatever holds
elements, and any other type itself. -/
def TypeDescription.deciding (type : TypeDescription) : Identity :=
  if type.isContainer then type.element?.getD type.base else type.base

/-- The array levels on top of a shape. -/
def Shape.levels : Shape → Nat
  | array element => element.levels + 1
  | _ => 0

theorem Resolution.of_valid {type : TypeDescription} (valid : type.Valid)
    (failures : List Shape.Irreducible) :
    Resolution.of type failures = .ok ⟨{ type with isOpaque := !failures.isEmpty }, failures⟩ := by
  have marked : TypeDescription.Valid { type with isOpaque := !failures.isEmpty } := valid
  rw [Resolution.of, TypeDescription.checked_of_valid marked]

namespace Policy

/-- The part of a declared type that a property is about: the element of an array, the
first argument of an iterable or the element of the arrays it holds, and otherwise the
whole. An iterable without arguments has none. -/
inductive HasPart (policy : Policy) : Shape → Shape → Prop where
  | array : HasPart policy (.array element) element
  | iterable (iterable : policy.isIterable base = true) :
      HasPart policy (.generic base (first :: rest)) first.unwrapped.element
  | whole (notArray : ∀ element, shape ≠ .array element)
      (notIterable : ∀ base arguments, shape = .generic base arguments →
        policy.isIterable base = false) : HasPart policy shape shape

variable {policy : Policy} {shape : Shape}

/-- The shape is an iterable generic without arguments. -/
def Malforms (policy : Policy) (shape : Shape) : Prop :=
  ∃ base, shape = .generic base [] ∧ policy.isIterable base = true

/-- The part of a declared type, or the fault of an iterable that has none. -/
def part (policy : Policy) (shape : Shape) : Except Malformed Shape :=
  match shape with
  | .array element => .ok element
  | .generic base arguments =>
    if policy.isIterable base then (firstArgument base arguments).map Shape.element else .ok shape
  | shape => .ok shape

theorem part_iterable {base : Identity} {first : Shape} {rest : List Shape}
    (iterable : policy.isIterable base = true) :
    policy.part (.generic base (first :: rest)) = .ok first.unwrapped.element := by
  rw [part, if_pos iterable, firstArgument, Except.map]

theorem part_eq_error_iff {fault : Malformed} : policy.part shape = .error fault ↔
    shape = .generic fault.container [] ∧ policy.isIterable fault.container = true := by
  constructor
  · intro failed
    cases shape with
    | generic base arguments =>
      cases iterable : policy.isIterable base with
      | true =>
        cases arguments with
        | nil =>
          rw [part, if_pos iterable, firstArgument, Except.map] at failed
          obtain rfl := Except.error.inj failed
          exact ⟨rfl, iterable⟩
        | cons first rest =>
          rw [part_iterable iterable] at failed
          contradiction
      | false => simp [part, iterable] at failed
    | _ => contradiction
  · rintro ⟨rfl, iterable⟩
    rw [part, if_pos iterable, firstArgument, Except.map]

theorem HasPart.part_eq {part : Shape} (has : policy.HasPart shape part) :
    policy.part shape = .ok part := by
  cases has with
  | array => rfl
  | iterable iterable => exact part_iterable iterable
  | whole notArray notIterable =>
    cases shape with
    | array element => exact absurd rfl (notArray element)
    | generic base arguments => simp [Policy.part, notIterable base arguments rfl]
    | _ => rfl

theorem part_eq_ok_iff {part : Shape} :
    policy.part shape = .ok part ↔ policy.HasPart shape part := by
  constructor
  · intro found
    cases shape with
    | array element =>
      obtain rfl := Except.ok.inj found
      exact .array
    | generic base arguments =>
      cases iterable : policy.isIterable base with
      | true =>
        cases arguments with
        | nil =>
          rw [Policy.part, if_pos iterable] at found
          contradiction
        | cons first rest =>
          rw [part_iterable iterable] at found
          obtain rfl := Except.ok.inj found
          exact .iterable iterable
      | false =>
        simp only [Policy.part, iterable] at found
        obtain rfl := Except.ok.inj found
        refine .whole (fun _ same => Shape.noConfusion same) ?_
        rintro _ _ ⟨⟩
        exact iterable
    | _ =>
      obtain rfl := Except.ok.inj found
      refine .whole ?_ ?_
      · exact fun _ same => Shape.noConfusion same
      · exact fun _ _ same => Shape.noConfusion same
  · exact HasPart.part_eq

theorem malforms_iff : policy.Malforms shape ↔ ∃ fault, policy.part shape = .error fault := by
  constructor
  · rintro ⟨base, rfl, iterable⟩
    exact ⟨⟨base⟩, part_eq_error_iff.mpr ⟨rfl, iterable⟩⟩
  · rintro ⟨fault, failed⟩
    exact ⟨fault.container, part_eq_error_iff.mp failed⟩

theorem not_malforms_iff : ¬policy.Malforms shape ↔ ∃ part, policy.part shape = .ok part := by
  rw [malforms_iff]
  cases policy.part shape with
  | error fault => simp
  | ok part => simp

instance (policy : Policy) (shape : Shape) : Decidable (policy.Malforms shape) :=
  match found : policy.part shape with
  | .error fault => .isTrue (malforms_iff.mpr ⟨fault, found⟩)
  | .ok part => .isFalse (not_malforms_iff.mpr ⟨part, found⟩)

theorem reduction_of_identity? {identity : Identity} (named : shape.identity? = some identity) :
    policy.reduction shape = ⟨identity, []⟩ := by
  unfold reduction
  split
  · rw [Shape.reduce, named]
  · rw [Shape.reduce, named]

/-- A shape that names nothing is the fallback, below as many array levels as stand
on top of the shape. -/
theorem reduction_of_unnamed (unnamed : shape.identity? = none) :
    (policy.reduction shape).identity = policy.fallback.arrays shape.levels ∧
      (policy.reduction shape).failures ≠ [] := by
  fun_induction Shape.levels shape with
  | case1 element ih =>
    have below : element.identity? = none := by simpa [Shape.identity?] using unnamed
    rw [reduction, Shape.reduce, unnamed]
    refine ⟨?_, List.cons_ne_nil _ _⟩
    exact congrArg Identity.array (ih below).1
  | case2 shape notArray =>
    rw [reduction.eq_2 _ _ notArray, Shape.reduce, unnamed]
    exact ⟨rfl, List.cons_ne_nil _ _⟩

theorem reduction_failures_eq_nil_iff :
    (policy.reduction shape).failures = [] ↔ shape.identity?.isSome = true := by
  cases named : shape.identity? with
  | none => simpa using (reduction_of_unnamed named).2
  | some identity => simp [reduction_of_identity? named]

theorem resolve_of_malformed {fault : Malformed} (failed : policy.part shape = .error fault) :
    policy.resolve shape = .error (.malformed fault) := by
  obtain ⟨rfl, iterable⟩ := part_eq_error_iff.mp failed
  simp only [resolve, iterable, if_true, firstArgument]

theorem reduction_array_identity (policy : Policy) (element : Shape) :
    (policy.reduction (.array element)).identity = (policy.reduction element).identity.array := by
  cases named : element.identity? with
  | none =>
    have unnamed : (Shape.array element).identity? = none := by rw [Shape.identity?, named]; rfl
    rw [(reduction_of_unnamed unnamed).1, (reduction_of_unnamed named).1]
    rfl
  | some identity =>
    have arrayNamed : (Shape.array element).identity? = some identity.array := by
      rw [Shape.identity?, named]; rfl
    rw [reduction_of_identity? arrayNamed, reduction_of_identity? named]

/-- The description of a declared type around an identity for its part. Beyond that
identity, what it holds is read off the type as it is declared. -/
def around (policy : Policy) (shape : Shape) (inner : Identity) : TypeDescription :=
  match shape with
  | .array _ => { base := inner.array, isArray := true, element? := some inner }
  | .generic base (first :: _) =>
    if policy.isIterable base then
      { base, isArray := first.unwrapped.kind = .array, isIterable := true, element? := some inner }
    else { base := inner }
  | _ => { base := inner }

theorem valid_around (policy : Policy) (shape : Shape) (inner : Identity) :
    (policy.around shape inner).Valid := by
  unfold around
  split
  · rfl
  · split
    · exact (Bool.or_true _).symm
    · rfl
  · rfl

theorem deciding_around (policy : Policy) (shape : Shape) (inner : Identity) :
    (policy.around shape inner).deciding = inner := by
  unfold around
  split
  · rfl
  · split
    · exact if_pos (Bool.or_true _)
    · rfl
  · rfl

section Whole

variable (notArray : ∀ element, shape ≠ .array element)
  (notIterable : ∀ base arguments, shape = .generic base arguments →
    policy.isIterable base = false)

include notArray notIterable

theorem resolve_of_whole : policy.resolve shape = policy.resolveScalar shape := by
  cases shape with
  | array element => exact absurd rfl (notArray element)
  | generic base arguments => simp [resolve, notIterable base arguments rfl]
  | _ => rfl

theorem around_of_whole (inner : Identity) : policy.around shape inner = { base := inner } := by
  cases shape with
  | array element => exact absurd rfl (notArray element)
  | generic base arguments =>
    cases arguments with
    | nil => rfl
    | cons first rest => simp [around, notIterable base (first :: rest) rfl]
  | _ => rfl

end Whole

theorem resolveIterable_eq (policy : Policy) (base : Identity) (argument : Shape) :
    policy.resolveIterable base argument =
      Resolution.of
        { base, isArray := argument.kind = .array, isIterable := true,
          element? := some (policy.reduction argument.element).identity }
        (policy.reduction argument.element).failures := by
  cases argument <;> rfl

/-- A declared type with a part to be about is resolved, and described around what the
part is reduced to. Something had to be replaced exactly if the part names nothing. -/
theorem resolve_around {part : Shape} (found : policy.part shape = .ok part) :
    ∃ failures, (failures = [] ↔ part.identity?.isSome = true) ∧
      policy.resolve shape = .ok ⟨{ policy.around shape (policy.reduction part).identity with
        isOpaque := !failures.isEmpty }, failures⟩ := by
  suffices resolved : ∃ failures, (failures = [] ↔ part.identity?.isSome = true) ∧
      policy.resolve shape =
        Resolution.of (policy.around shape (policy.reduction part).identity) failures by
    obtain ⟨failures, same, resolved⟩ := resolved
    exact ⟨failures, same, resolved.trans (Resolution.of_valid (valid_around _ _ _) failures)⟩
  cases part_eq_ok_iff.mp found with
  | array =>
    refine ⟨_, ?_, by rw [resolve, resolveArray, reduction_array_identity]; rfl⟩
    rw [List.append_eq_nil_iff, reduction_failures_eq_nil_iff, reduction_failures_eq_nil_iff,
      Shape.identity?, Option.isSome_map, and_self]
  | iterable iterable =>
    refine ⟨(policy.reduction _).failures, reduction_failures_eq_nil_iff, ?_⟩
    rw [resolve, if_pos iterable, around, if_pos iterable]
    exact policy.resolveIterable_eq _ _
  | whole notArray notIterable =>
    refine ⟨(policy.reduction _).failures, reduction_failures_eq_nil_iff, ?_⟩
    rw [resolve_of_whole notArray notIterable, around_of_whole notArray notIterable,
      resolveScalar]

/-- The resolution is what a property about this part of its type comes to. -/
structure Settles (policy : Policy) (part : Shape) (resolution : Resolution) : Prop where
  valid : resolution.type.Valid
  deciding : resolution.type.deciding = (policy.reduction part).identity
  isOpaque : resolution.type.isOpaque = part.identity?.isNone

/-- A declared type with a part to be about is resolved, and to what the part names. -/
theorem resolve_of_part {part : Shape} (found : policy.part shape = .ok part) :
    ∃ resolution, policy.resolve shape = .ok resolution ∧ policy.Settles part resolution := by
  obtain ⟨failures, same, resolved⟩ := resolve_around found
  refine ⟨_, resolved, policy.valid_around shape _, policy.deciding_around shape _, ?_⟩
  rw [← Option.not_isSome, ← Bool.eq_iff_iff.mpr (List.isEmpty_iff.trans same)]

theorem settles_of_resolve {resolution : Resolution}
    (resolved : policy.resolve shape = .ok resolution) :
    ∃ part, policy.part shape = .ok part ∧ policy.Settles part resolution := by
  cases found : policy.part shape with
  | error fault =>
    rw [resolve_of_malformed found] at resolved
    contradiction
  | ok part =>
    obtain ⟨settled, same, settles⟩ := resolve_of_part found
    obtain rfl : settled = resolution := Except.ok.inj (same.symm.trans resolved)
    exact ⟨part, rfl, settles⟩

theorem resolve_eq_error_iff {fault : ResolutionFault} : policy.resolve shape = .error fault ↔
    ∃ malformed, fault = .malformed malformed ∧ policy.part shape = .error malformed := by
  cases found : policy.part shape with
  | error malformed => simp [resolve_of_malformed found, eq_comm]
  | ok part =>
    obtain ⟨failures, -, resolved⟩ := resolve_around found
    simp [resolved]

theorem part_of_malformed {fault : Malformed}
    (failed : policy.resolve shape = .error (.malformed fault)) :
    policy.part shape = .error fault := by
  obtain ⟨malformed, same, found⟩ := resolve_eq_error_iff.mp failed
  obtain rfl := ResolutionFault.malformed.inj same
  exact found

end Policy
end ClassProfile
