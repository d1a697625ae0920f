import ClassProfile.Text.Hex
import ClassProfile.Text.Printable

/-! Text shown in quotes within a message. Single quotes stand around it unless
it holds a single quote and no double one. The quote, the backslash and
characters that are not printable are escaped, by number in the shortest of the
three widths where no letter is set aside for them. -/
namespace ClassProfile.Text

/-- The quote that spares the text its escapes. -/
def quoteFor (text : List Char) : Char :=
  if text.contains '\'' && !text.contains '"' then '"' else '\''

def shown (quote c : Char) : List Char :=
  if c = quote ∨ c = '\\' then ['\\', c]
  else if c = '\n' then ['\\', 'n']
  else if c = '\r' then ['\\', 'r']
  else if c = '\t' then ['\\', 't']
  else if isPrintable c then [c]
  else if c.toNat < 0x100 then '\\' :: 'x' :: hexDigits 2 c.toNat
  else if c.toNat < 0x10000 then '\\' :: 'u' :: hexDigits 4 c.toNat
  else '\\' :: 'U' :: hexDigits 8 c.toNat

def quoted (text : String) : String :=
  let quote := quoteFor text.toList
  String.ofList (quote :: text.toList.flatMap (shown quote) ++ [quote])

end ClassProfile.Text
