import ClassProfile.Proofs.Resolution.Spine

/-! What a shape names next to what is written out in it. The type that stands at the end of
the spine is the first one written out, and the shape names it below as many array levels as
the spine passes. A spine that ends otherwise names nothing, even where types are written out
beside it, in lower bounds. -/
namespace ClassProfile.Shape

/-- The number of arrays that the spine of a shape passes. -/
def spineLevels : Shape → Nat
  | array element => element.spineLevels + 1
  | wildcard (some upper) _ => upper.spineLevels
  | _ => 0

/-- The spine ends in a type variable or in a wildcard without an upper bound. -/
def Unnamed (shape : Shape) : Prop :=
  (∃ name, shape.spineEnd = typeVariable name) ∨ ∃ lower, shape.spineEnd = wildcard none lower

theorem unnamed_iff {shape : Shape} : shape.Unnamed ↔ shape.identity? = none := by
  unfold Unnamed
  fun_induction identity? shape with
  | case1 type => simp [spineEnd]
  | case2 element ih => rw [spineEnd, ih, Option.map_eq_none_iff]
  | case3 base arguments => simp [spineEnd]
  | case4 upper lower ih => rw [spineEnd, ih]
  | case5 lower => simp [spineEnd]
  | case6 name => simp [spineEnd]

/-- The first type written out in a shape that names a type. -/
theorem exists_written_of_identity? {shape : Shape} {type : Identity}
    (named : shape.identity? = some type) :
    ∃ first rest, shape.written = first :: rest ∧ type = first.arrays shape.spineLevels := by
  fun_induction identity? shape generalizing type with
  | case1 first =>
    obtain rfl := Option.some.inj named
    exact ⟨first, [], by rw [written], rfl⟩
  | case2 element ih =>
    obtain ⟨component, namedBelow, rfl⟩ := Option.map_eq_some_iff.mp named
    obtain ⟨first, rest, walked, rfl⟩ := ih namedBelow
    exact ⟨first, rest, by rw [written, walked], rfl⟩
  | case3 base arguments =>
    obtain rfl := Option.some.inj named
    exact ⟨base, writtenAll arguments, by rw [written], rfl⟩
  | case4 upper lower ih =>
    obtain ⟨first, rest, walked, rfl⟩ := ih named
    exact ⟨first, rest ++ writtenBound lower, by rw [written, writtenBound, walked]; rfl, rfl⟩
  | case5 => contradiction
  | case6 => contradiction

theorem reduce_eq_error_iff {shape : Shape} {failure : Irreducible} :
    shape.reduce = .error failure ↔ shape.identity? = none ∧ failure = ⟨shape.kind⟩ := by
  rw [reduce]
  split
  · next type named => simp [named]
  · next unnamed => simp [unnamed, eq_comm]

theorem identity?_unwrapped (shape : Shape) : shape.unwrapped.identity? = shape.identity? := by
  fun_induction unwrapped shape with
  | case1 lower upper ih => rw [ih, identity?]
  | case2 => rfl

theorem unwrapped_ne (shape upper : Shape) (lower : Option Shape) :
    shape.unwrapped ≠ .wildcard (some upper) lower := by
  fun_induction unwrapped shape with
  | case1 _ _ ih => exact ih
  | case2 shape bare => exact bare upper lower

/-- A shape names a type exactly if its spine ends in none of what has no name, and then
the type is, below the array levels of the spine, the first one written out. It cannot be
reduced exactly otherwise. Nothing of this changes where outer wildcards are unwrapped, and
no wildcard with an upper bound is left then. -/
theorem identity?_agrees_written (shape : Shape) :
    (∀ type, shape.identity? = some type ↔ ¬shape.Unnamed ∧ ∃ first rest,
      shape.written = first :: rest ∧ type = first.arrays shape.spineLevels) ∧
    (shape.identity? = none ↔ shape.Unnamed) ∧
    (∀ failure, shape.reduce = .error failure ↔ shape.Unnamed ∧ failure = ⟨shape.kind⟩) ∧
    shape.unwrapped.identity? = shape.identity? ∧
    ∀ upper lower, shape.unwrapped ≠ .wildcard (some upper) lower := by
  refine ⟨fun type => ⟨?_, ?_⟩, unnamed_iff.symm, ?_, shape.identity?_unwrapped,
    shape.unwrapped_ne⟩
  · intro named
    refine ⟨?_, exists_written_of_identity? named⟩
    rw [unnamed_iff, named]
    exact Option.some_ne_none type
  · rintro ⟨named, first, rest, walked, rfl⟩
    obtain ⟨type, found⟩ := Option.ne_none_iff_exists'.mp (mt unnamed_iff.mpr named)
    obtain ⟨other, others, walkedToo, rfl⟩ := exists_written_of_identity? found
    rw [walked] at walkedToo
    rw [found, (List.cons.inj walkedToo).1]
  · intro failure
    rw [unnamed_iff, reduce_eq_error_iff]

end ClassProfile.Shape
