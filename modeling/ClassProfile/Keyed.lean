/-! Lists whose items are known by a text. Sorting is by code point and leaves
items with equal keys as they come; thinning keeps the first item of each key. -/
namespace ClassProfile

/-- The items without those whose key occurs earlier. -/
def distinctBy (key : α → String) : List α → List α
  | [] => []
  | item :: rest => item :: (distinctBy key rest).filter fun later => key later != key item

def sortedBy (key : α → String) (items : List α) : List α :=
  items.mergeSort fun x y => decide (key x ≤ key y)

end ClassProfile
