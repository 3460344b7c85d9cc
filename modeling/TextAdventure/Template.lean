/-
Message templates, in which `{word:N}` stands for the token at position `N`.
-/
import TextAdventure.Command
import TextAdventure.Text.Digits

namespace TextAdventure
namespace Template

open Text

/-- The opening of a placeholder, and the rest of the template after it. -/
def opening : List Char → Option (List Char)
  | '\x7b' :: 'w' :: 'o' :: 'r' :: 'd' :: ':' :: rest => some rest
  | _ => none

/-- Whether a character may stand in the number of a position. -/
def writesPosition (c : Char) : Bool := c.isDigit || c == '+'

/-- The position that the text after an opening names, and the rest of the
template after its closing brace. -/
def position (template : List Char) : Option (Nat × List Char) :=
  match template.dropWhile writesPosition with
  | '\x7d' :: after =>
    match wordOfDigits (template.takeWhile writesPosition) with
    | some p => some (p, after)
    | none => none
  | _ => none

theorem length_of_opening {cs rest : List Char} (h : opening cs = some rest) :
    rest.length < cs.length := by
  unfold opening at h
  split at h
  · simp only [Option.some.injEq] at h
    subst h
    simp only [List.length_cons]
    omega
  · simp at h

theorem length_of_position {cs after : List Char} {p : Nat}
    (h : position cs = some (p, after)) : after.length < cs.length := by
  have hle := (List.dropWhile_suffix writesPosition : cs.dropWhile writesPosition <:+ cs).length_le
  unfold position at h
  split at h
  · next hdrop =>
    rw [hdrop, List.length_cons] at hle
    split at h
    · simp only [Option.some.injEq, Prod.mk.injEq] at h
      exact h.2 ▸ hle
    · simp at h
  · simp at h

/-- Put tokens in the places held for them.  A position that the command does
not have leaves nothing.  An opening that no position follows is copied, and
the search goes on behind it. -/
def fill (command : Command) (template : List Char) : List Char :=
  match _ho : opening template with
  | some rest =>
    match _hp : position rest with
    | some (p, after) => ((command.token? p).getD "").toList ++ fill command after
    | none => "\x7bword:".toList ++ fill command rest
  | none =>
    match template with
    | [] => []
    | c :: rest => c :: fill command rest
termination_by template.length
decreasing_by
  · exact Nat.lt_trans (length_of_position _hp) (length_of_opening _ho)
  · exact length_of_opening _ho
  · exact Nat.lt_succ_self _

end Template

/-- The text that a template makes of a command. -/
def Command.fill (c : Command) (template : String) : String :=
  String.ofList (Template.fill c template.toList)

end TextAdventure
