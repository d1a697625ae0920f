import ClassProfile.Proofs.Resolution

/-! The fallback of a policy in the types that are resolved with it. It gets into an
opaque description alone, and there it is all that another fallback would change: it
stands below array levels that the declared type fixes, and an iterable keeps its
container. The base of an array is always the array of its element, also where the two
have been replaced one by one. -/
namespace ClassProfile

/-- The policy with another fallback. -/
def Policy.withFallback (policy : Policy) (fallback : Identity) : Policy :=
  { policy with fallback }

/-- The array levels on top of the part that a property of a declared type is about. -/
def Shape.partLevels : Shape → Nat
  | array element => element.levels
  | generic _ (first :: _) => first.unwrapped.element.levels
  | _ => 0

namespace Policy

variable {policy : Policy} {shape part : Shape} {fallback identity : Identity}

theorem levels_of_part (found : policy.part shape = .ok part) (unnamed : part.identity? = none) :
    part.levels = shape.partLevels := by
  cases part_eq_ok_iff.mp found with
  | array => rfl
  | iterable iterable => rfl
  | whole notArray notIterable =>
    cases shape with
    | array element => exact absurd rfl (notArray element)
    | generic base arguments => contradiction
    | _ => rfl

/-- Which elements a description holds is settled by the type as it is declared. -/
theorem flags_around (policy : Policy) (shape : Shape) (inner other : Identity) :
    (policy.around shape other).isArray = (policy.around shape inner).isArray ∧
      (policy.around shape other).isIterable = (policy.around shape inner).isIterable := by
  unfold around
  split
  · exact ⟨rfl, rfl⟩
  · split <;> exact ⟨rfl, rfl⟩
  · exact ⟨rfl, rfl⟩

/-- The base of an iterable is its container as it is declared, whatever it holds. -/
theorem around_of_isIterable {inner : Identity}
    (iterable : (policy.around shape inner).isIterable = true) (other : Identity) :
    ∃ arguments, shape = .generic (policy.around shape inner).base arguments ∧
      (policy.around shape other).base = (policy.around shape inner).base := by
  unfold around at iterable ⊢
  split at iterable
  · contradiction
  · split at iterable
    · next base first rest listed =>
      rw [if_pos listed, if_pos listed]
      exact ⟨_, rfl, rfl⟩
    · contradiction
  · contradiction

theorem resolve_of_named (found : policy.part shape = .ok part)
    (named : part.identity? = some identity) :
    policy.resolve shape =
      .ok ⟨{ policy.around shape identity with isOpaque := false }, []⟩ := by
  obtain ⟨failures, nothing, resolved⟩ := resolve_around found
  obtain rfl : failures = [] := nothing.mpr (by rw [named, Option.isSome_some])
  rwa [reduction_of_identity? named] at resolved

theorem resolve_of_unnamed (found : policy.part shape = .ok part)
    (unnamed : part.identity? = none) :
    ∃ failures, policy.resolve shape =
      .ok ⟨{ policy.around shape (policy.fallback.arrays shape.partLevels) with
        isOpaque := true }, failures⟩ := by
  obtain ⟨failures, nothing, resolved⟩ := resolve_around found
  have something : failures ≠ [] := by simp [nothing, unnamed]
  rw [(reduction_of_unnamed unnamed).1, levels_of_part found unnamed,
    List.isEmpty_eq_false_iff.mpr something] at resolved
  exact ⟨failures, resolved⟩

/-- An array is described as the array of its element, with or without the fallback. Under
two fallbacks a declared type is refused alike or gives descriptions with the same flags.
They are the same if they are not opaque. Otherwise each is about its own fallback, below
array levels that are as many in both and that the declared type alone settles; and an
iterable has its container for its base. -/
theorem resolve_fallback_innermost :
    (∀ (policy : Policy) (element : Shape), ∃ resolution component,
      policy.resolve (.array element) = .ok resolution ∧
        resolution.type.element? = some component ∧
        resolution.type.base = component.array) ∧
    ∀ shape : Shape, ∃ levels, ∀ (policy : Policy) (fallback : Identity),
      (∃ fault, policy.resolve shape = .error fault ∧
        (policy.withFallback fallback).resolve shape = .error fault) ∨
      ∃ one other, policy.resolve shape = .ok one ∧
        (policy.withFallback fallback).resolve shape = .ok other ∧
        other.type.isArray = one.type.isArray ∧
        other.type.isIterable = one.type.isIterable ∧
        other.type.isOpaque = one.type.isOpaque ∧
        (one.type.isOpaque = false → other.type = one.type) ∧
        (one.type.isOpaque = true →
          one.type.deciding = policy.fallback.arrays levels ∧
            other.type.deciding = fallback.arrays levels) ∧
        (one.type.isIterable = true → ∃ arguments,
          shape = .generic one.type.base arguments ∧ other.type.base = one.type.base) := by
  constructor
  · intro policy element
    have found : policy.part (.array element) = .ok element := rfl
    obtain ⟨failures, -, resolved⟩ := resolve_around found
    exact ⟨_, _, resolved, rfl, rfl⟩
  · intro shape
    refine ⟨shape.partLevels, ?_⟩
    intro policy fallback
    cases found : policy.part shape with
    | error malformed => exact .inl ⟨_, resolve_of_malformed found, resolve_of_malformed found⟩
    | ok part =>
      -- The part is the same under the other fallback, as policies name it by their iterables.
      have otherFound : (policy.withFallback fallback).part shape = .ok part := found
      cases named : part.identity? with
      | some identity =>
        refine .inr ⟨_, _, resolve_of_named found named, resolve_of_named otherFound named, rfl,
          rfl, rfl, fun _ => rfl, nofun, ?_⟩
        intro iterable
        exact around_of_isIterable iterable identity
      | none =>
        obtain ⟨failures, resolved⟩ := resolve_of_unnamed found named
        obtain ⟨others, otherResolved⟩ := resolve_of_unnamed otherFound named
        obtain ⟨arrays, iterables⟩ := policy.flags_around shape
          (policy.fallback.arrays shape.partLevels) (fallback.arrays shape.partLevels)
        refine .inr ⟨_, _, resolved, otherResolved, arrays, iterables, rfl, nofun, ?_, ?_⟩
        · intro _
          exact ⟨policy.deciding_around shape _, policy.deciding_around shape _⟩
        · intro iterable
          exact around_of_isIterable iterable _

/-- An iterable of arrays of arrays of a type variable. -/
def stowage : Shape :=
  .generic (.named "java.util.List")
    [.wildcard (some (.array (.array (.typeVariable "T")))) none]

theorem resolve_fallback_innermost_stowage : ∃ levels one other,
    standard.resolve stowage = .ok one ∧
    (standard.withFallback (.named "acme.Crate")).resolve stowage = .ok other ∧
    one.type.isOpaque = true ∧
    one.type.deciding = standard.fallback.arrays levels ∧
    other.type.deciding = (Identity.named "acme.Crate").arrays levels ∧
    other.type.base = .named "java.util.List" := by
  obtain ⟨failures, named⟩ : ∃ failures, standard.resolve stowage =
      .ok ⟨⟨.named "java.util.List", true, true, some (standard.fallback.arrays 1), true⟩,
        failures⟩ := ⟨_, rfl⟩
  obtain ⟨-, innermost⟩ := resolve_fallback_innermost
  obtain ⟨levels, both⟩ := innermost stowage
  obtain ⟨fault, refused, -⟩ | ⟨one, other, resolved, otherResolved, -, -, -, -, about, kept⟩ :=
    both standard (.named "acme.Crate")
  · rw [named] at refused
    contradiction
  · obtain rfl := Except.ok.inj (named.symm.trans resolved)
    obtain ⟨deciding, otherDeciding⟩ := about rfl
    obtain ⟨arguments, -, container⟩ := kept rfl
    exact ⟨levels, _, other, named, otherResolved, rfl, deciding, otherDeciding, container⟩

end Policy
end ClassProfile
