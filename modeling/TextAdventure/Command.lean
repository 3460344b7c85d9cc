/-
Commands: what a player enters at one turn.
-/
import TextAdventure.Text.Lowercase
import TextAdventure.Word

namespace TextAdventure

open Text

/-- The words of a command and the tokens they were typed as.  Positions count
from one: the verb is first and the noun second. -/
structure Command where
  words : List Word
  tokens : List String

namespace Command

def empty : Command := ⟨[], []⟩

instance : Inhabited Command := ⟨empty⟩

/-- A command of which only the words are given is typed as their names. -/
def ofWords (words : List Word) : Command :=
  ⟨words, words.map fun w => lower w.name⟩

def word (c : Command) : Nat → Word
  | 0 => .none
  | p + 1 => c.words.getD p .none

def token? (c : Command) : Nat → Option String
  | 0 => none
  | p + 1 => c.tokens[p]?

def length (c : Command) : Nat := c.words.length

def isEmpty (c : Command) : Bool := c.words.isEmpty

/-- Whether the words from position `p` on fit a pattern. -/
def fitsFrom (c : Command) (p : Nat) : List Word → Bool
  | [] => true
  | w :: rest => (c.word p).fits w && c.fitsFrom (p + 1) rest

/-- Whether each word of a pattern fits the word at its position.  Words past
the end of the pattern are not looked at. -/
def fits (c : Command) (pattern : List Word) : Bool :=
  c.fitsFrom 1 pattern

def sameWords : List Word → List Word → Bool
  | [], [] => true
  | a :: as, b :: bs => a.same b && sameWords as bs
  | _, _ => false

/-- Commands are the same when their words are, however they were typed. -/
def same (c other : Command) : Bool :=
  sameWords c.words other.words

def text (c : Command) : String :=
  " ".intercalate c.tokens

end Command

end TextAdventure
