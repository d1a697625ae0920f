import ClassProfile.Identity

/-! The namespace of a type, told from the text of its name. -/
namespace ClassProfile

/-- The text stands before the last dot of the name, or is empty as there is none. -/
def StandsBefore (space name : String) : Prop :=
  (∃ last, '.' ∉ last ∧ name.toList = space.toList ++ '.' :: last) ∨
    '.' ∉ name.toList ∧ space = ""

theorem Text.absent_or_split (separator : Char) (text : List Char) :
    separator ∉ text ∨ ∃ before after, separator ∉ after ∧ text = before ++ separator :: after := by
  by_cases present : separator ∈ text.reverse
  · obtain ⟨after, before, split, absent⟩ := List.eq_append_cons_of_mem present
    refine .inr ⟨before.reverse, after.reverse, mt List.mem_reverse.mp absent, ?_⟩
    simpa using congrArg List.reverse split
  · exact .inl (mt List.mem_reverse.mpr present)

theorem standsBefore_iff_of_absent {space name : String} (absent : '.' ∉ name.toList) :
    StandsBefore space name ↔ space = "" := by
  refine ⟨?_, fun empty => .inr ⟨absent, empty⟩⟩
  rintro (⟨last, -, dotted⟩ | ⟨-, empty⟩)
  · simp [dotted] at absent
  · exact empty

theorem standsBefore_iff_of_split {space name : String} {before after : List Char}
    (absent : '.' ∉ after) (split : name.toList = before ++ '.' :: after) :
    StandsBefore space name ↔ space = String.ofList before := by
  rw [← String.toList_inj, String.toList_ofList]
  constructor
  · rintro (⟨last, lastAbsent, dotted⟩ | ⟨noDot, -⟩)
    · have found := Text.splitLast_append space.toList lastAbsent
      rw [← dotted, split, Text.splitLast_append before absent] at found
      exact (Prod.ext_iff.mp (Option.some.inj found)).1.symm
    · simp [split] at noDot
  · rintro rfl
    exact .inl ⟨after, absent, split⟩

/-- The namespace of a type that is neither primitive nor an array, the empty one included, is
what stands before the last dot of its name. -/
theorem Identity.standsBefore_iff {type : Identity} (notPrimitive : type.isPrimitive = false)
    (notArray : type.isArray = false) {space : String} :
    StandsBefore space type.name ↔ space = type.namespaceName?.getD "" := by
  cases type with
  | ofArray name isPrimitive component => contradiction
  | plain name isPrimitive =>
    obtain rfl : isPrimitive = false := notPrimitive
    rw [namespaceName?, Identity.name]
    obtain absent | ⟨before, after, absent, split⟩ := Text.absent_or_split '.' name.toList
    · rw [standsBefore_iff_of_absent absent, Text.splitLast_eq_none absent]
      rfl
    · rw [standsBefore_iff_of_split absent split, split, Text.splitLast_append before absent]
      cases before <;> rfl

end ClassProfile
