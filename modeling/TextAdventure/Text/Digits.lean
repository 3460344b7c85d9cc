/-
Numbers written in decimal digits.
-/

namespace TextAdventure
namespace Text

def digitValue (c : Char) : Nat := c.toNat - '0'.toNat

/-- The number that a text of decimal digits writes, continuing from `n`. -/
def digitsFrom (n : Nat) : List Char → Option Nat
  | [] => some n
  | c :: rest => if c.isDigit then digitsFrom (10 * n + digitValue c) rest else none

/-- The number that a text writes, if it is made of digits alone and has one. -/
def natOfDigits : List Char → Option Nat
  | [] => none
  | cs => digitsFrom 0 cs

/-- The number that digits write, a minus sign perhaps before them. -/
def intOfDigits : List Char → Option Int
  | '-' :: digits => (natOfDigits digits).map fun n => -(n : Int)
  | digits => (natOfDigits digits).map fun n => (n : Int)

/-- The greatest number that takes 64 bits. -/
def maxWord : Nat := UInt64.size - 1

/-- A number of at most 64 bits, which a plus sign may precede. -/
def wordOfDigits (cs : List Char) : Option Nat :=
  let digits := match cs with
    | '+' :: rest => rest
    | _ => cs
  (natOfDigits digits).filter (· ≤ maxWord)

end Text
end TextAdventure
