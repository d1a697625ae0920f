/-! Cutting text at a separator: at its last occurrence, or at all of them. -/
namespace ClassProfile.Text

/-- What stands before and after the last separator, if there is one. -/
def splitLast (separator : Char) : List Char → Option (List Char × List Char)
  | [] => none
  | c :: rest =>
    match splitLast separator rest with
    | some (before, after) => some (c :: before, after)
    | none => if c = separator then some ([], rest) else none

theorem splitLast_eq_none {separator : Char} {text : List Char} (absent : separator ∉ text) :
    splitLast separator text = none := by
  induction text with
  | nil => rfl
  | cons c rest ih =>
    simp only [List.mem_cons, not_or] at absent
    simp [splitLast, ih absent.2, Ne.symm absent.1]

theorem splitLast_append {separator : Char} {after : List Char} (before : List Char)
    (absent : separator ∉ after) :
    splitLast separator (before ++ separator :: after) = some (before, after) := by
  induction before with
  | nil => simp [splitLast, splitLast_eq_none absent]
  | cons c rest ih => simp [splitLast, ih]

/-- The parts of a text between the separators. There is always one. -/
def parts (separator : Char) : List Char → List (List Char)
  | [] => [[]]
  | c :: rest =>
    if c = separator then [] :: parts separator rest
    else match parts separator rest with
      | part :: more => (c :: part) :: more
      | [] => [[c]]

end ClassProfile.Text
