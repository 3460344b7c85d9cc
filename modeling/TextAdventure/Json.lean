/-
JSON values, as they are written.

A value keeps how its numbers and strings are written, since it is for the
reader to say which of them it can take: not every number is an integer of 64
bits, and not every string is a text.
-/
import TextAdventure.Text.Digits

namespace TextAdventure
namespace Json

open Text

/-- A part of a string: a character that stands for itself or for which a short
escape stands, or a code unit of sixteen bits that is given by its number. -/
inductive Piece where
  | char (c : Char)
  | unit (n : Nat)
  deriving DecidableEq

namespace Piece

def isHigh (n : Nat) : Bool := 0xD800 ≤ n && n < 0xDC00

def isLow (n : Nat) : Bool := 0xDC00 ≤ n && n < 0xE000

/-- The characters that pieces write.  Two units write one character when the
first is a high half and the second a low one, and no other half writes any. -/
def chars? : List Piece → Option (List Char)
  | [] => some []
  | .char c :: rest => (chars? rest).map (c :: ·)
  | .unit n :: .unit m :: rest =>
    if isHigh n && isLow m then
      (chars? rest).map (Char.ofNat (0x10000 + (n - 0xD800) * 0x400 + (m - 0xDC00)) :: ·)
    else if isHigh n || isLow n then none
    else (chars? (.unit m :: rest)).map (Char.ofNat n :: ·)
  | .unit n :: rest =>
    if isHigh n || isLow n then none else (chars? rest).map (Char.ofNat n :: ·)

/-- The text that pieces write, if they write one. -/
def text? (pieces : List Piece) : Option String :=
  (chars? pieces).map String.ofList

def ofText (s : String) : List Piece := s.toList.map .char

end Piece

end Json

inductive Json where
  | null
  | bool (value : Bool)
  | number (literal : List Char)
  | string (pieces : List Json.Piece)
  | array (items : List Json)
  | object (members : List (List Json.Piece × Json))

namespace Json

open Text

def text (s : String) : Json := .string (Piece.ofText s)

def int (n : Int) : Json := .number (toString n).toList

def text? : Json → Option String
  | .string pieces => Piece.text? pieces
  | _ => none

def bool? : Json → Option Bool
  | .bool b => some b
  | _ => none

/-- The integer that a number writes.  One with a fraction or an exponent is
no integer, and neither is minus zero. -/
def int? : Json → Option Int
  | .number ['-', '0'] => none
  | .number literal => intOfDigits literal
  | _ => none

def int64? (j : Json) : Option Int64 :=
  match j.int? with
  | some n =>
    if Int64.minValue.toInt ≤ n ∧ n ≤ Int64.maxValue.toInt then some (.ofInt n) else none
  | none => none

def uint64? (j : Json) : Option UInt64 :=
  match j.int? with
  | some n => if 0 ≤ n ∧ n ≤ maxWord then some (.ofNat n.toNat) else none
  | none => none

end Json

end TextAdventure
