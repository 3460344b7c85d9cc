/-
Text between double quotes, in which every character can be seen.
-/
import TextAdventure.Text.Printable

namespace TextAdventure
namespace Text

/-- A character inside quotes.  One that cannot be seen, or would merge with
the quote before it, is shown as its code point. -/
def escape (c : Char) : List Char :=
  if c = '\x00' then ['\\', '0']
  else if c = '\t' then ['\\', 't']
  else if c = '\n' then ['\\', 'n']
  else if c = '\r' then ['\\', 'r']
  else if c = '"' ∨ c = '\\' then ['\\', c]
  else if extenders.contains c ∨ unprintables.contains c then
    ['\\', 'u', '\x7b'] ++ Nat.toDigits 16 c.toNat ++ ['\x7d']
  else [c]

def quoted (s : String) : String :=
  String.ofList ('"' :: s.toList.flatMap escape ++ ['"'])

end Text
end TextAdventure
