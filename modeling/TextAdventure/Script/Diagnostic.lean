/-
Diagnostics: what is wrong in a script, and where.
-/
import TextAdventure.Script.Token
import TextAdventure.Text.Lines

namespace TextAdventure
namespace Script

open Text

structure Diagnostic where
  span : Span
  message : String
  /-- What is said of the place itself, if anything is. -/
  label : Option String
  deriving DecidableEq

namespace Diagnostic

def plain (span : Span) (message : String) : Diagnostic := ⟨span, message, none⟩

def text (d : Diagnostic) : String := s!"error: {d.message}"

end Diagnostic

/-- The number of the line, from one on, on which the byte at `offset` stands.
What lies past the end stands on the last line. -/
def lineOf (source : String) (offset : Nat) : Nat :=
  ((encode source).take offset).count 10 + 1

/-- Why a script does not compile. -/
inductive CompileError where
  /-- The first thing that cannot be read. -/
  | unreadable (line : Nat) (fault : Spanned String)
  /-- Everything that is wrong with a script that can be read. -/
  | invalid (diagnostics : List Diagnostic)
  deriving DecidableEq

namespace CompileError

/-- That something cannot be read, on the line on which it starts. -/
def unreadableIn (source : String) (fault : Spanned String) : CompileError :=
  .unreadable (lineOf source fault.span.start) fault

def summary : List Diagnostic → String
  | [] => "semantic error"
  | [only] => only.message
  | first :: rest => s!"{first.message} (and {rest.length} more)"

def message : CompileError → String
  | .unreadable line fault => s!"syntax error at line {line}: {fault.node}"
  | .invalid diagnostics => summary diagnostics

def diagnostics : CompileError → List Diagnostic
  | .unreadable _ fault => [.plain fault.span fault.node]
  | .invalid diagnostics => diagnostics

end CompileError

/-- A value, or what is wrong with what it was to be made from.  Unlike a
failure, which stops at the first thing wrong, it gathers all of them. -/
inductive Checked (α : Type) where
  | valid (value : α)
  | wrong (first : Diagnostic) (others : List Diagnostic)

namespace Checked

variable {α β γ : Type}

def error (span : Span) (message : String) : Checked α := .wrong (.plain span message) []

def diagnostics : Checked α → List Diagnostic
  | .valid _ => []
  | .wrong first others => first :: others

def value? : Checked α → Option α
  | .valid value => some value
  | .wrong _ _ => none

def map (f : α → β) : Checked α → Checked β
  | .valid value => .valid (f value)
  | .wrong first others => .wrong first others

/-- Join two values, or gather what is wrong with either, the first one's
before the second one's. -/
def map₂ (f : α → β → γ) : Checked α → Checked β → Checked γ
  | .valid a, .valid b => .valid (f a b)
  | .valid _, .wrong first others => .wrong first others
  | .wrong first others, b => .wrong first (others ++ b.diagnostics)

/-- All values of a list, or all that is wrong in it. -/
def all : List (Checked α) → Checked (List α)
  | [] => .valid []
  | c :: rest => map₂ (· :: ·) c (all rest)

/-- A value subject to a list of complaints. -/
def given (complaints : List Diagnostic) (c : Checked α) : Checked α :=
  match complaints with
  | [] => c
  | first :: others => .wrong first (others ++ c.diagnostics)

end Checked

end Script
end TextAdventure
