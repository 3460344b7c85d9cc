/-
White space: what separates words and is trimmed from the ends of a text.
-/
import TextAdventure.Text.CharSet

namespace TextAdventure
namespace Text

/-- The characters with the white-space property, line breaks included. -/
def blanks : CharSet :=
  ⟨[0x9, 0xE, 0x20, 0x21, 0x85, 0x86, 0xA0, 0xA1, 0x1680, 0x1681, 0x2000, 0x200B,
    0x2028, 0x202A, 0x202F, 0x2030, 0x205F, 0x2060, 0x3000, 0x3001]⟩

def isBlank (c : Char) : Bool := blanks.contains c

/-- Remove what satisfies `p` from both ends. -/
def strip (p : Char → Bool) (cs : List Char) : List Char :=
  ((cs.dropWhile p).reverse.dropWhile p).reverse

def trim (s : String) : String :=
  String.ofList (strip isBlank s.toList)

/-- What stands between the characters that satisfy `p`.  There is one field
more than there are such characters, and a field may be empty. -/
def fields (p : Char → Bool) : List Char → List (List Char)
  | [] => [[]]
  | c :: rest =>
    if p c then [] :: fields p rest
    else match fields p rest with
      | [] => [[c]]
      | field :: others => (c :: field) :: others

theorem fields_ne_nil (p : Char → Bool) (cs : List Char) : fields p cs ≠ [] := by
  cases cs with
  | nil => simp [fields]
  | cons c rest =>
    rw [fields]
    split
    · simp
    · split <;> simp

/-- A separator divides the fields of a text into those before and after it. -/
theorem fields_append_cons {p : Char → Bool} {c : Char} (hc : p c = true) (a b : List Char) :
    fields p (a ++ c :: b) = fields p a ++ fields p b := by
  induction a with
  | nil => simp [fields, hc]
  | cons d rest ih =>
    simp only [List.cons_append, fields, ih]
    split
    · rfl
    · cases h : fields p rest with
      | nil => exact absurd h (fields_ne_nil p rest)
      | cons field others => rfl

end Text
end TextAdventure
