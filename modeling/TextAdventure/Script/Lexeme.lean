/-
Lexemes: the pieces into which the text of a script is cut.

Every character belongs to one lexeme.  Where no token can be read, a lexeme
holds what is at fault and reading goes on behind it, so that one pass finds
every fault.
-/
import TextAdventure.Script.Token
import TextAdventure.Text.Digits
import TextAdventure.Text.Quoted

namespace TextAdventure
namespace Script

open Text

inductive Reading where
  /-- White space or a comment. -/
  | skipped
  | token (token : Token)
  | fault (message : String)
  deriving DecidableEq

structure Lexeme where
  text : List Char
  reading : Reading
  deriving DecidableEq

namespace Lexeme

/-! ## Character classes

Scripts are written in ASCII outside of strings and comments. -/

def isSpace (c : Char) : Bool :=
  c == ' ' || c == '\t' || c == '\r' || c == '\n'

def startsWord (c : Char) : Bool :=
  c.isAlpha || c == '_'

def continuesWord (c : Char) : Bool :=
  c.isAlphanum || c == '_' || c == '\''

/-! ## Strings -/

/-- The characters and complete escapes at the head of a text, up to a quote.
They also end at a backslash that starts no escape. -/
def stringBody : List Char → List Char
  | [] => []
  | '"' :: _ => []
  | ['\\'] => []
  | '\\' :: c :: rest => if c = '\n' then [] else '\\' :: c :: stringBody rest
  | c :: rest => c :: stringBody rest

/-- Resolve escapes.  One that has no meaning stays as it is written. -/
def unescape : List Char → List Char
  | [] => []
  | '\\' :: 'n' :: rest => '\n' :: unescape rest
  | '\\' :: 't' :: rest => '\t' :: unescape rest
  | '\\' :: '\\' :: rest => '\\' :: unescape rest
  | '\\' :: '"' :: rest => '"' :: unescape rest
  | '\\' :: c :: rest => '\\' :: c :: unescape rest
  | c :: rest => c :: unescape rest

/-! ## Integers -/

def integer (text : List Char) : Reading :=
  match intOfDigits text with
  | some n =>
    if Int64.minValue.toInt ≤ n ∧ n ≤ Int64.maxValue.toInt then .token (.integer (.ofInt n))
    else .fault s!"invalid integer literal: {String.ofList text}"
  | none => .fault s!"invalid integer literal: {String.ofList text}"

/-! ## Cutting -/

/-- The rest of the lexeme that starts with `c`, where `rest` follows `c`, and
what the lexeme means. -/
def continued (c : Char) (rest : List Char) : List Char × Reading :=
  if isSpace c then (rest.takeWhile isSpace, .skipped)
  else if startsWord c then
    let more := rest.takeWhile continuesWord
    (more, .token (.word (String.ofList (c :: more))))
  else if c.isDigit then
    let more := rest.takeWhile Char.isDigit
    (more, integer (c :: more))
  else match c, rest with
    | '"', _ =>
      let body := stringBody rest
      match rest.drop body.length with
      | '"' :: _ => (body ++ ['"'], .token (.string (String.ofList (unescape body))))
      | _ => (body, .fault "unterminated string")
    | '-', '-' :: _ => (rest.takeWhile (· != '\n'), .skipped)
    | '-', '>' :: _ => (['>'], .token .arrow)
    | '-', d :: _ =>
      if d.isDigit then
        let more := rest.takeWhile Char.isDigit
        (more, integer (c :: more))
      else ([], .fault s!"unexpected character: {quoted (String.singleton c)}")
    | '!', '=' :: _ => (['='], .token (.compare .ne))
    | '<', '=' :: _ => (['='], .token (.compare .le))
    | '>', '=' :: _ => (['='], .token (.compare .ge))
    | '<', _ => ([], .token (.compare .lt))
    | '>', _ => ([], .token (.compare .gt))
    | '=', _ => ([], .token (.compare .eq))
    | '[', _ => ([], .token .leftBracket)
    | ']', _ => ([], .token .rightBracket)
    | '(', _ => ([], .token .leftParen)
    | ')', _ => ([], .token .rightParen)
    | ',', _ => ([], .token .comma)
    | _, _ => ([], .fault s!"unexpected character: {quoted (String.singleton c)}")

def cut : List Char → List Lexeme
  | [] => []
  | c :: rest =>
    let (more, reading) := continued c rest
    ⟨c :: more, reading⟩ :: cut (rest.drop more.length)
termination_by text => text.length
decreasing_by simp only [List.length_drop, List.length_cons]; omega

/-- The number of bytes that a text takes in UTF-8. -/
def byteLength : List Char → Nat
  | [] => 0
  | c :: rest => c.utf8Size + byteLength rest

/-- Say where lexemes stand, the first of them at `offset`. -/
def locate (offset : Nat) : List Lexeme → List (Spanned Reading)
  | [] => []
  | l :: rest =>
    let stop := offset + byteLength l.text
    ⟨l.reading, ⟨offset, stop⟩⟩ :: locate stop rest

end Lexeme

namespace Reading

def token? : Spanned Reading → Option (Spanned Token)
  | ⟨.token t, span⟩ => some ⟨t, span⟩
  | _ => none

def fault? : Spanned Reading → Option (Spanned String)
  | ⟨.fault message, span⟩ => some ⟨message, span⟩
  | _ => none

end Reading

/-- The readings of a source, each where it stands. -/
def readings (source : String) : List (Spanned Reading) :=
  Lexeme.locate 0 (Lexeme.cut source.toList)

def tokens (source : String) : List (Spanned Token) :=
  (readings source).filterMap Reading.token?

/-- What is at fault in the lexemes of a source, in the order of the text. -/
def lexicalFaults (source : String) : List (Spanned String) :=
  (readings source).filterMap Reading.fault?

end Script
end TextAdventure
