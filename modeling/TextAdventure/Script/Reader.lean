/-
Readers: how a part of a tree is read from tokens.

A reader looks ahead at the next tokens and never goes back.  So it is stuck
at one token only, and that is the first that cannot continue what was read.
-/
import TextAdventure.Script.Token

namespace TextAdventure
namespace Script

/-- A place between tokens. -/
structure Cursor where
  /-- The end of the last token that was read. -/
  stop : Nat
  ahead : List (Spanned Token)
  deriving DecidableEq

namespace Cursor

def start (c : Cursor) : Nat :=
  match c.ahead with
  | [] => c.stop
  | t :: _ => t.span.start

end Cursor

inductive Reply (α : Type) where
  | done (value : α) (rest : Cursor)
  /-- No token that is next at this cursor, or none at all, can be read. -/
  | stuck (cursor : Cursor)
  deriving DecidableEq

def Reader (α : Type) := Cursor → Reply α

namespace Reader

variable {α β : Type}

def pure (value : α) : Reader α := fun c => .done value c

def bind (p : Reader α) (f : α → Reader β) : Reader β := fun c =>
  match p c with
  | .done value rest => f value rest
  | .stuck cursor => .stuck cursor

instance : Monad Reader where
  pure := pure
  bind := bind

def fail : Reader α := fun c => .stuck c

/-- The next token, which is left to be read. -/
def peek : Reader (Option Token) := fun c => .done (c.ahead.head?.map (·.node)) c

def nextIs (t : Token) : Reader Bool := fun c =>
  .done (c.ahead.head?.any fun next => next.node == t) c

/-- Read a token that has a value. -/
def take (value : Token → Option α) : Reader α := fun c =>
  match c.ahead with
  | [] => .stuck c
  | t :: rest =>
    match value t.node with
    | some a => .done a ⟨t.span.stop, rest⟩
    | none => .stuck c

def expect (t : Token) : Reader Unit :=
  take fun next => if next = t then some () else none

/-- Read a part together with its span, from its first token to its last. -/
def spanned (p : Reader α) : Reader (Spanned α) := fun c =>
  match p c with
  | .done value rest => .done ⟨value, ⟨c.start, rest.stop⟩⟩ rest
  | .stuck cursor => .stuck cursor

def manyUpTo (starts : Token → Bool) (p : Reader α) : Nat → Reader (List α)
  | 0 => pure []
  | n + 1 => do
    match ← peek with
    | some t =>
      if starts t then
        let first ← p
        let others ← manyUpTo starts p n
        return first :: others
      else return []
    | none => return []

/-- Read parts as long as the next token starts one.  Each takes a token at
least, so there are no more of them than tokens. -/
def many (starts : Token → Bool) (p : Reader α) : Reader (List α) := fun c =>
  manyUpTo starts p c.ahead.length c

/-- What follows each keyword that may come next. -/
abbrev Keywords (α : Type) := String → Option (Reader α)

namespace Keywords

def starts (keywords : Keywords α) : Token → Bool
  | .word w => (keywords w).isSome
  | _ => false

end Keywords

/-- Read one of the keywords and what follows it. -/
def choose (keywords : Keywords α) : Reader α := do
  let continued ← take fun t =>
    match t with
    | .word w => keywords w
    | _ => none
  continued

end Reader

end Script
end TextAdventure
