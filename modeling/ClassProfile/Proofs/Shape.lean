import ClassProfile.Shape

/-! Types inside shapes. The types written out in a shape are the types that occur
in it, at any depth. A type that a shape names may be an array that is written
nowhere; what lies below its array levels does occur. -/
namespace ClassProfile

namespace Identity

/-- What is left of a type below all its array levels. -/
def innermost : Identity → Identity
  | plain name isPrimitive => plain name isPrimitive
  | ofArray _ _ component => component.innermost

/-- The array of arrays of a type, with this many levels. -/
def arrays (type : Identity) : Nat → Identity
  | 0 => type
  | levels + 1 => (type.arrays levels).array

theorem eq_of_not_isArray {i j : Identity} (name : i.name = j.name)
    (primitive : i.isPrimitive = j.isPrimitive) (iArray : i.isArray = false)
    (jArray : j.isArray = false) : i = j := by
  cases i with
  | plain iName iPrimitive =>
    cases j with
    | plain jName jPrimitive =>
      obtain rfl : iName = jName := name
      obtain rfl : iPrimitive = jPrimitive := primitive
      rfl
    | ofArray jName jPrimitive component => contradiction
  | ofArray iName iPrimitive component => contradiction

theorem innermost_of_isArray {type : Identity} (bare : type.isArray = false) :
    type.innermost = type := by
  cases type with
  | plain name isPrimitive => rfl
  | ofArray name isPrimitive component => contradiction

end Identity

namespace Shape

/-- A type occurs in a shape: below arrays, as the base or in any argument of a
generic, or in either bound of a wildcard. -/
inductive Occurs (type : Identity) : Shape → Prop where
  | scalar : Occurs type (.scalar type)
  | array (inside : Occurs type element) : Occurs type (.array element)
  | base : Occurs type (.generic type arguments)
  | argument (member : argument ∈ arguments) (inside : Occurs type argument) :
      Occurs type (.generic base arguments)
  | upper (inside : Occurs type bound) : Occurs type (.wildcard (some bound) lower)
  | lower (inside : Occurs type bound) : Occurs type (.wildcard upper (some bound))

theorem occurs_array_iff {type : Identity} {element : Shape} :
    (Shape.array element).Occurs type ↔ element.Occurs type := by
  constructor
  · intro occurs
    cases occurs with
    | array inside => exact inside
  · exact .array

mutual

theorem mem_written_iff : (shape : Shape) → (type ∈ shape.written ↔ shape.Occurs type)
  | .scalar named => by
    rw [written, List.mem_singleton]
    constructor
    · rintro rfl
      exact .scalar
    · rintro ⟨⟩
      rfl
  | .array element => by
    rw [written, mem_written_iff element, occurs_array_iff]
  | .generic base arguments => by
    rw [written, List.mem_cons, mem_writtenAll_iff arguments]
    constructor
    · rintro (rfl | ⟨argument, member, inside⟩)
      · exact .base
      · exact .argument member inside
    · intro occurs
      cases occurs with
      | base => exact .inl rfl
      | argument member inside => exact .inr ⟨_, member, inside⟩
  | .wildcard upper lower => by
    rw [written, List.mem_append, mem_writtenBound_iff upper, mem_writtenBound_iff lower]
    constructor
    · rintro (⟨bound, rfl, inside⟩ | ⟨bound, rfl, inside⟩)
      · exact .upper inside
      · exact .lower inside
    · intro occurs
      cases occurs with
      | upper inside => exact .inl ⟨_, rfl, inside⟩
      | lower inside => exact .inr ⟨_, rfl, inside⟩
  | .typeVariable name => by
    rw [written]
    constructor
    · intro member
      contradiction
    · rintro ⟨⟩

theorem mem_writtenAll_iff :
    (shapes : List Shape) → (type ∈ writtenAll shapes ↔ ∃ shape ∈ shapes, shape.Occurs type)
  | [] => by simp [writtenAll]
  | shape :: rest => by
    rw [writtenAll, List.mem_append, mem_written_iff shape, mem_writtenAll_iff rest]
    simp

theorem mem_writtenBound_iff : (bound : Option Shape) →
    (type ∈ writtenBound bound ↔ ∃ shape, bound = some shape ∧ shape.Occurs type)
  | none => by simp [writtenBound]
  | some shape => by
    rw [writtenBound, mem_written_iff shape]
    simp

end

instance (type : Identity) (shape : Shape) : Decidable (shape.Occurs type) :=
  decidable_of_iff _ (mem_written_iff shape)

/-- A shape stands in a shape: it is the whole, or it stands in the element of an array,
in an argument of a generic or in a bound of a wildcard. -/
inductive Within (part : Shape) : Shape → Prop where
  | whole : Within part part
  | array (inside : Within part element) : Within part (.array element)
  | argument (member : argument ∈ arguments) (inside : Within part argument) :
      Within part (.generic base arguments)
  | upper (inside : Within part bound) : Within part (.wildcard (some bound) lower)
  | lower (inside : Within part bound) : Within part (.wildcard upper (some bound))

/-- The element of an array, and any other shape itself. -/
def element : Shape → Shape
  | array element => element
  | shape => shape

theorem occurs_element_iff {shape : Shape} {type : Identity} :
    shape.element.Occurs type ↔ shape.Occurs type := by
  fun_cases element shape with
  | case1 element => exact occurs_array_iff.symm
  | case2 shape => exact Iff.rfl

/-- What lies below all outer wildcards with an upper bound. -/
inductive Unwraps : Shape → Shape → Prop where
  | bare (bare : ∀ upper lower, shape ≠ .wildcard (some upper) lower) : Unwraps shape shape
  | bound (below : Unwraps upper target) : Unwraps (.wildcard (some upper) lower) target

theorem unwraps_unwrapped (shape : Shape) : shape.Unwraps shape.unwrapped := by
  fun_induction unwrapped shape with
  | case1 lower upper ih => exact .bound ih
  | case2 shape bare => exact .bare bare

theorem Unwraps.unwrapped_eq {shape target : Shape} (unwraps : shape.Unwraps target) :
    shape.unwrapped = target := by
  induction unwraps with
  | bare bare => rw [unwrapped.eq_2 _ bare]
  | bound below ih => rw [unwrapped, ih]

theorem Unwraps.occurs {shape target : Shape} {type : Identity} (unwraps : shape.Unwraps target)
    (inside : target.Occurs type) : shape.Occurs type := by
  induction unwraps with
  | bare bare => exact inside
  | bound below ih => exact .upper (ih inside)

/-- Below the array levels of the type that a shape names lies one that occurs in it. -/
theorem occurs_of_identity? {shape : Shape} {identity : Identity}
    (found : shape.identity? = some identity) :
    ∃ type, shape.Occurs type ∧ type.innermost = identity.innermost := by
  fun_induction identity? shape generalizing identity with
  | case1 type =>
    obtain rfl := Option.some.inj found
    exact ⟨type, .scalar, rfl⟩
  | case2 element ih =>
    obtain ⟨component, named, rfl⟩ := Option.map_eq_some_iff.mp found
    obtain ⟨type, occurs, same⟩ := ih named
    exact ⟨type, .array occurs, same⟩
  | case3 base arguments =>
    obtain rfl := Option.some.inj found
    exact ⟨base, .base, rfl⟩
  | case4 upper lower ih =>
    obtain ⟨type, occurs, same⟩ := ih found
    exact ⟨type, .upper occurs, same⟩
  | case5 => contradiction
  | case6 => contradiction

end Shape
end ClassProfile
