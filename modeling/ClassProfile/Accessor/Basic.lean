import ClassProfile.Shape

/-! Accessors: the getters of a type as a scan of its signature reports them. -/
namespace ClassProfile

/-- An accessor. Its property is named for it unless a name is given. -/
structure Accessor where
  name : String
  returnType : Shape
  failures : List Identity
  propertyName? : Option String

end ClassProfile
