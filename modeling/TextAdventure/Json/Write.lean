/-
How JSON is written: one member or item a line, indented by two spaces.
-/
import TextAdventure.Json

namespace TextAdventure
namespace Json

/-- The four hexadecimal digits of a code unit. -/
def hexUnit (n : Nat) : List Char :=
  [n / 0x1000, n / 0x100, n / 0x10, n].map fun d => Nat.digitChar (d % 16)

namespace Piece

/-- A character is escaped only where it has to be. -/
def write : Piece → List Char
  | .char c =>
    if c = '"' then ['\\', '"']
    else if c = '\\' then ['\\', '\\']
    else if c = '\x08' then ['\\', 'b']
    else if c = '\x0c' then ['\\', 'f']
    else if c = '\n' then ['\\', 'n']
    else if c = '\r' then ['\\', 'r']
    else if c = '\t' then ['\\', 't']
    else if c.toNat < 0x20 then '\\' :: 'u' :: hexUnit c.toNat
    else [c]
  | .unit n => '\\' :: 'u' :: hexUnit n

def writeAll (pieces : List Piece) : List Char :=
  '"' :: pieces.flatMap write ++ ['"']

end Piece

/-- The start of a line that is indented `depth` times. -/
def newLine (depth : Nat) : List Char :=
  '\n' :: List.replicate (2 * depth) ' '

mutual
def write (depth : Nat) : Json → List Char
  | .null => ['n', 'u', 'l', 'l']
  | .bool true => ['t', 'r', 'u', 'e']
  | .bool false => ['f', 'a', 'l', 's', 'e']
  | .number literal => literal
  | .string pieces => Piece.writeAll pieces
  | .array [] => ['[', ']']
  | .array (first :: others) =>
    '[' :: newLine (depth + 1) ++ write (depth + 1) first
      ++ writeItems (depth + 1) others ++ newLine depth ++ [']']
  | .object [] => ['\x7b', '\x7d']
  | .object (first :: others) =>
    '\x7b' :: newLine (depth + 1) ++ writeMember (depth + 1) first
      ++ writeMembers (depth + 1) others ++ newLine depth ++ ['\x7d']

def writeItems (depth : Nat) : List Json → List Char
  | [] => []
  | j :: rest => ',' :: newLine depth ++ write depth j ++ writeItems depth rest

def writeMember (depth : Nat) : List Piece × Json → List Char
  | (key, j) => Piece.writeAll key ++ ':' :: ' ' :: write depth j

def writeMembers (depth : Nat) : List (List Piece × Json) → List Char
  | [] => []
  | m :: rest => ',' :: newLine depth ++ writeMember depth m ++ writeMembers depth rest
end

def toText (j : Json) : String := String.ofList (write 0 j)

end Json
end TextAdventure
