import ClassProfile.Policy
import ClassProfile.Proofs.Identity
import ClassProfile.Proofs.Shape

/-! Qualified names, taken apart at the last dot. The type of that name keeps its simple name
below any number of array levels, and loses its namespace with the first of them. A leading
dot alone makes no namespace; the type then counts as unqualified where namespaces are listed. -/
namespace ClassProfile

/-- A name consists of a namespace, if there is one, and of what stands after the last dot. -/
inductive Qualifies : Option String → String → String → Prop where
  | bare (noDot : '.' ∉ last.toList) : Qualifies none last last
  | leading (noDot : '.' ∉ last.toList) : Qualifies none last ("." ++ last)
  | within (nonempty : space ≠ "") (noDot : '.' ∉ last.toList) :
      Qualifies (some space) last (space ++ "." ++ last)

/-- This many pairs of brackets. -/
def brackets : Nat → String
  | 0 => ""
  | levels + 1 => brackets levels ++ "[]"

theorem exists_qualifies (name : String) : ∃ space? last, Qualifies space? last name := by
  obtain absent | ⟨before, after, absent, split⟩ := Text.absent_or_split '.' name.toList
  · exact ⟨none, name, .bare absent⟩
  · have noDot : '.' ∉ (String.ofList after).toList := by rwa [String.toList_ofList]
    cases before with
    | nil =>
      obtain rfl : name = "." ++ String.ofList after := by
        rw [← String.toList_inj, split]
        simp
      exact ⟨none, _, .leading noDot⟩
    | cons c rest =>
      obtain rfl : name = String.ofList (c :: rest) ++ "." ++ String.ofList after := by
        rw [← String.toList_inj, split]
        simp
      exact ⟨some _, _, .within (by simp) noDot⟩

namespace Identity

theorem name_arrays (type : Identity) (levels : Nat) :
    (type.arrays levels).name = type.name ++ brackets levels := by
  induction levels with
  | zero => rw [arrays, brackets, String.append_empty]
  | succ levels ih => rw [arrays, array, name, ih, brackets, String.append_assoc]

theorem simpleName_arrays (type : Identity) (levels : Nat) :
    (type.arrays levels).simpleName = type.simpleName ++ brackets levels := by
  induction levels with
  | zero => rw [arrays, brackets, String.append_empty]
  | succ levels ih => rw [arrays, array, simpleName, ih, brackets, String.append_assoc]

variable {space? : Option String} {last name : String}

theorem splitLast_of_qualifies (qualifies : Qualifies space? last name) :
    (space? = none ∧ last = name ∧ Text.splitLast '.' name.toList = none) ∨
      ∃ before, Text.splitLast '.' name.toList = some (before, last.toList) ∧
        space? = if before = [] then none else some (String.ofList before) := by
  cases qualifies with
  | bare noDot => exact .inl ⟨rfl, rfl, Text.splitLast_eq_none noDot⟩
  | leading noDot =>
    refine .inr ⟨[], ?_, rfl⟩
    simpa using Text.splitLast_append [] noDot
  | @within space last nonempty noDot =>
    refine .inr ⟨space.toList, ?_, ?_⟩
    · simpa using Text.splitLast_append space.toList noDot
    · simp [nonempty]

theorem simpleName_of_qualifies (qualifies : Qualifies space? last name) :
    (named name).simpleName = last := by
  rw [named, simpleName]
  obtain ⟨-, rfl, found⟩ | ⟨before, found, -⟩ := splitLast_of_qualifies qualifies
  · rw [found]
  · rw [found]
    exact String.ofList_toList

theorem named_of_not_mem (other : name ∉ primitiveNames) : named name = plain name false := by
  rw [named, List.contains_eq_mem, decide_eq_false other]

theorem namespaceName?_of_qualifies (qualifies : Qualifies space? last name)
    (other : name ∉ primitiveNames) : (named name).namespaceName? = space? := by
  rw [named_of_not_mem other, namespaceName?]
  obtain ⟨rfl, -, found⟩ | ⟨before, found, rfl⟩ := splitLast_of_qualifies qualifies
  · rw [found]
  · rw [found]
    cases before <;> rfl

theorem isAmbient_of_qualifies (qualifies : Qualifies space? last name)
    (other : name ∉ primitiveNames) (policy : Policy) :
    policy.isAmbient (named name) = true ↔ space?.getD "" ∈ policy.ambientNamespaces := by
  rw [← namespaceName?_of_qualifies qualifies other, named_of_not_mem other]
  simp [Policy.isAmbient, isPrimitive, isArray, component?]

/-- A name falls into its parts, and the array of that many levels is called by the name and by
its last part, with as many pairs of brackets. It belongs to no namespace and is ambient under
no policy, unless there are no levels. The type itself, where its name is no keyword, belongs
to the namespace in its name, and is ambient exactly if that namespace is listed as it is, or
the empty one if there is none. -/
theorem arrays_named_falls_apart (name : String) (levels : Nat) :
    (∃ space? last, Qualifies space? last name) ∧
    ∀ space? last, Qualifies space? last name →
      ((named name).arrays levels).name = name ++ brackets levels ∧
      ((named name).arrays levels).simpleName = last ++ brackets levels ∧
      (0 < levels → ((named name).arrays levels).namespaceName? = none ∧
        ∀ policy : Policy, policy.isAmbient ((named name).arrays levels) = false) ∧
      (levels = 0 → name ∉ primitiveNames →
        ((named name).arrays levels).namespaceName? = space? ∧
          ∀ policy : Policy, policy.isAmbient ((named name).arrays levels) = true ↔
            space?.getD "" ∈ policy.ambientNamespaces) := by
  refine ⟨exists_qualifies name, fun space? last qualifies => ⟨?_, ?_, ?_, ?_⟩⟩
  · exact name_arrays (named name) levels
  · rw [simpleName_arrays, simpleName_of_qualifies qualifies]
  · intro positive
    obtain ⟨below, rfl⟩ := Nat.exists_eq_add_of_lt positive
    exact ⟨rfl, fun policy => by simp [arrays, array, Policy.isAmbient, isArray, component?]⟩
  · rintro rfl other
    exact ⟨namespaceName?_of_qualifies qualifies other, isAmbient_of_qualifies qualifies other⟩

/-- A name with two dots in a row; a policy that lists what stands before the first of them. -/
theorem arrays_named_falls_apart_pier :
    Qualifies (some "acme.") "Pier" "acme..Pier" ∧ "acme..Pier" ∉ primitiveNames ∧
      ((named "acme..Pier").arrays 2).simpleName = "Pier[][]" ∧
      ((named "acme..Pier").arrays 2).namespaceName? = none ∧
      (named "acme..Pier").namespaceName? = some "acme." ∧
      ∀ policy : Policy, policy.ambientNamespaces = ["acme"] →
        policy.isAmbient (named "acme..Pier") = false := by
  have qualifies : Qualifies (some "acme.") "Pier" ("acme." ++ "." ++ "Pier") :=
    .within (by decide) (by decide)
  have other : "acme..Pier" ∉ primitiveNames := by decide
  obtain ⟨-, arrayParts⟩ := arrays_named_falls_apart "acme..Pier" 2
  obtain ⟨-, parts⟩ := arrays_named_falls_apart "acme..Pier" 0
  obtain ⟨-, simple, array, -⟩ := arrayParts _ _ qualifies
  obtain ⟨-, -, -, type⟩ := parts _ _ qualifies
  obtain ⟨space, ambient⟩ := type rfl other
  refine ⟨qualifies, other, simple, (array (by decide)).1, space, fun policy listed => ?_⟩
  rw [← Bool.not_eq_true]
  intro holds
  have member := (ambient policy).mp holds
  rw [listed] at member
  contradiction

end Identity
end ClassProfile
