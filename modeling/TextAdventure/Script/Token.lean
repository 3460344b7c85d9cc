/-
The tokens of a script.
-/
import TextAdventure.Condition

namespace TextAdventure
namespace Script

/-- A range of bytes of the source, without the byte at `stop`. -/
structure Span where
  start : Nat
  stop : Nat
  deriving DecidableEq

/-- Something read from the source, and where it stands there. -/
structure Spanned (α : Type) where
  node : α
  span : Span
  deriving DecidableEq

/-- Keywords are words like any others: whether a word is one depends on where
it stands. -/
inductive Token where
  | leftBracket
  | rightBracket
  | leftParen
  | rightParen
  | comma
  | arrow
  | compare (comparison : Comparison)
  | string (text : String)
  | integer (value : Int64)
  | word (name : String)
  deriving DecidableEq

namespace Token

/-- How a token is named in a message.  A string is given with its escapes
resolved. -/
def text : Token → String
  | .leftBracket => "["
  | .rightBracket => "]"
  | .leftParen => "("
  | .rightParen => ")"
  | .comma => ","
  | .arrow => "->"
  | .compare comparison => comparison.text
  | .string text => s!"\"{text}\""
  | .integer value => toString value.toInt
  | .word name => name

end Token

end Script
end TextAdventure
