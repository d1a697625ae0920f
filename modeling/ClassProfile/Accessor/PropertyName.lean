import ClassProfile.Text.LetterCase

/-! The name of a property as its accessor's name suggests it. -/
namespace ClassProfile

/-- What follows `get` or `is`, if it starts in upper case. -/
def remainder? : List Char → Option (List Char)
  | 'g' :: 'e' :: 't' :: c :: rest => if Text.isUpper c then some (c :: rest) else none
  | 'i' :: 's' :: c :: rest => if Text.isUpper c then some (c :: rest) else none
  | _ => none

/-- The text with its first character in lower case, unless its second one is in
upper case too: an abbreviation stays as it is. -/
def decapitalized : List Char → List Char
  | [] => []
  | [c] => Text.lower c
  | c :: d :: rest =>
    if Text.isUpper c && Text.isUpper d then c :: d :: rest else Text.lower c ++ d :: rest

/-- The decapitalised remainder of a getter's name, and any other name as it is. -/
def propertyName (accessorName : String) : String :=
  match remainder? accessorName.toList with
  | some rest => String.ofList (decapitalized rest)
  | none => accessorName

end ClassProfile
