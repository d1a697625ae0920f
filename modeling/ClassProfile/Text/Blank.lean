import ClassProfile.Text.Ranges

/-! Blank characters: the spaces, the line and paragraph separators and the
controls that act as such, the four information separators included. The
zero-width space and the byte order mark are not blank. -/
namespace ClassProfile.Text

def blankRanges : List (Nat × Nat) := [
  (0x9, 0xD), (0x1C, 0x20), (0x85, 0x85), (0xA0, 0xA0), (0x1680, 0x1680), (0x2000, 0x200A),
  (0x2028, 0x2029), (0x202F, 0x202F), (0x205F, 0x205F), (0x3000, 0x3000)]

/-- A character that separates words and stands for nothing itself. -/
def isBlank (c : Char) : Bool := within blankRanges c.toNat

end ClassProfile.Text
