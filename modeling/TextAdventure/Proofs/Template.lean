/-
Templates as pieces.

A template is made of characters that are copied and of places that are held for
tokens.  Which stretch of it is which does not depend on the command, so that
two messages of one template differ in the tokens put in those places and in
nothing else.
-/
import TextAdventure.Template

namespace TextAdventure
namespace Template

open Text

/-- What a place for a token begins with. -/
def opener : List Char := "\x7bword:".toList

inductive Piece where
  | copied (c : Char)
  /-- A place for the token at the position that the digits name. -/
  | held (digits : List Char)

namespace Piece

/-- A piece as it is written in the template. -/
def spelled : Piece → List Char
  | .copied c => [c]
  | .held digits => opener ++ digits ++ ['\x7d']

/-- What a piece comes to in the message for a command. -/
def filled (command : Command) : Piece → List Char
  | .copied c => [c]
  | .held digits => (((wordOfDigits digits).bind command.token?).getD "").toList

end Piece

def pieces (template : List Char) : List Piece :=
  match _ho : opening template with
  | some rest =>
    match _hp : position rest with
    | some (_, after) => .held (rest.takeWhile writesPosition) :: pieces after
    | none => opener.map .copied ++ pieces rest
  | none =>
    match template with
    | [] => []
    | c :: rest => .copied c :: pieces rest
termination_by template.length
decreasing_by
  · exact Nat.lt_trans (length_of_position _hp) (length_of_opening _ho)
  · exact length_of_opening _ho
  · exact Nat.lt_succ_self _

theorem eq_of_opening {cs rest : List Char} (h : opening cs = some rest) :
    cs = opener ++ rest := by
  unfold opening at h
  split at h
  · rw [← Option.some.inj h]
    rfl
  · exact absurd h nofun

theorem eq_of_position {cs after : List Char} {p : Nat} (h : position cs = some (p, after)) :
    cs = cs.takeWhile writesPosition ++ '\x7d' :: after ∧
      wordOfDigits (cs.takeWhile writesPosition) = some p := by
  have hsplit := (List.takeWhile_append_dropWhile (p := writesPosition) (l := cs)).symm
  unfold position at h
  split at h
  · next hdrop =>
    split at h
    · next hdigits =>
      obtain ⟨rfl, rfl⟩ := Prod.mk.inj (Option.some.inj h)
      rw [hdrop] at hsplit
      exact ⟨hsplit, hdigits⟩
    · exact absurd h nofun
  · exact absurd h nofun

/-- The pieces are all of the template, in order. -/
theorem spelled_pieces (template : List Char) :
    (pieces template).flatMap Piece.spelled = template := by
  fun_induction pieces template with
  | case1 template rest ho p after hp ih =>
    have hrest : rest.takeWhile writesPosition ++ (['\x7d'] ++ after) = rest :=
      (eq_of_position hp).1.symm
    rw [List.flatMap_cons, ih, Piece.spelled, List.append_assoc, List.append_assoc, hrest]
    exact (eq_of_opening ho).symm
  | case2 template rest ho hp ih =>
    rw [List.flatMap_append, ih, eq_of_opening ho]
    rfl
  | case3 => rfl
  | case4 c rest ho ih => rw [List.flatMap_cons, ih]; rfl

/-! ## Filling -/

theorem fill_nil (command : Command) : fill command [] = [] := by
  rw [fill]
  rfl

theorem fill_of_position {command : Command} {template rest after : List Char} {p : Nat}
    (ho : opening template = some rest) (hp : position rest = some (p, after)) :
    fill command template = ((command.token? p).getD "").toList ++ fill command after := by
  fun_cases fill command template with
  | case1 template rest' ho' p' after' hp' =>
    obtain rfl := Option.some.inj (ho.symm.trans ho')
    obtain ⟨rfl, rfl⟩ := Prod.mk.inj (Option.some.inj (hp.symm.trans hp'))
    rfl
  | case2 template rest' ho' hp' =>
    obtain rfl := Option.some.inj (ho.symm.trans ho')
    exact absurd (hp.symm.trans hp') nofun
  | case3 ho' => exact absurd (ho.symm.trans ho') nofun
  | case4 c others ho' => exact absurd (ho.symm.trans ho') nofun

theorem fill_of_opening {command : Command} {template rest : List Char}
    (ho : opening template = some rest) (hp : position rest = none) :
    fill command template = opener ++ fill command rest := by
  fun_cases fill command template with
  | case1 template rest' ho' p' after' hp' =>
    obtain rfl := Option.some.inj (ho.symm.trans ho')
    exact absurd (hp.symm.trans hp') nofun
  | case2 template rest' ho' hp' =>
    obtain rfl := Option.some.inj (ho.symm.trans ho')
    rfl
  | case3 ho' => exact absurd (ho.symm.trans ho') nofun
  | case4 c others ho' => exact absurd (ho.symm.trans ho') nofun

theorem fill_cons {command : Command} {c : Char} {rest : List Char}
    (ho : opening (c :: rest) = none) :
    fill command (c :: rest) = c :: fill command rest := by
  generalize htemplate : c :: rest = template at ho
  fun_cases fill command template with
  | case1 template rest' ho' p' after' hp' => exact absurd (ho.symm.trans ho') nofun
  | case2 template rest' ho' hp' => exact absurd (ho.symm.trans ho') nofun
  | case3 ho' => exact absurd htemplate nofun
  | case4 c' others ho' =>
    obtain ⟨rfl, rfl⟩ := List.cons.inj htemplate
    rfl

/-- A message is its template with every piece filled. -/
theorem fill_eq (command : Command) (template : List Char) :
    fill command template = (pieces template).flatMap (Piece.filled command) := by
  fun_induction pieces template with
  | case1 template rest ho p after hp ih =>
    rw [fill_of_position ho hp, ih, List.flatMap_cons, Piece.filled, (eq_of_position hp).2]
    rfl
  | case2 template rest ho hp ih =>
    rw [fill_of_opening ho hp, ih, List.flatMap_append]
    rfl
  | case3 => exact fill_nil command
  | case4 c rest ho ih =>
    rw [fill_cons ho, ih]
    rfl

end Template

theorem Command.fill_eq (c : Command) (template : String) :
    c.fill template =
      String.ofList ((Template.pieces template.toList).flatMap (Template.Piece.filled c)) := by
  rw [fill, Template.fill_eq]

end TextAdventure
