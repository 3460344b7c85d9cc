/-
What a run does at each line.

A run stops before a line is read or reads it; what it reads is skipped or is
one turn, and the turn is played to its end, fails, or was never to be had.
-/
import TextAdventure.Game

namespace TextAdventure
namespace Game

variable {input : Input} {g : Game} {played : Nat} {text : String} {echo : List Shown}
  {command : Command} {rest : List Line}

/-! ## Turns -/

/-- A turn that is taken adds one record to the past, of what was entered. -/
theorem past_takeTurn (g : Game) (command : Command) :
    ((g.takeTurn command).result = .error .gameOver ∧ (g.takeTurn command).game = g) ∨
    ((g.takeTurn command).result ≠ .error .gameOver ∧ ∃ record,
      (g.takeTurn command).game.past = record :: g.past ∧ record.input = command.text) := by
  unfold takeTurn
  split
  · exact .inl ⟨rfl, rfl⟩
  · next result scene hne heq =>
    refine .inr ⟨hne, _, rfl, ?_⟩
    cases result <;> rfl

/-- A turn leaves the game as it was set up. -/
theorem adventure_takeTurn (g : Game) (command : Command) :
    (g.takeTurn command).game.adventure = g.adventure := by
  unfold takeTurn
  split <;> rfl

theorem config_takeTurn (g : Game) (command : Command) :
    (g.takeTurn command).game.config = g.config := by
  unfold takeTurn
  split <;> rfl

/-! ## Lines -/

theorem runFrom_of_stops (h : g.stops played = true) (lines : List Line) :
    runFrom input g played lines = ⟨played, none, [], lines, g⟩ := by
  cases lines with
  | nil => rw [runFrom, if_pos h]
  | cons line rest => cases line <;> rw [runFrom, if_pos h]

theorem runFrom_nil (h : g.stops played = false) :
    runFrom input g played [] = ⟨played, none, input.prompt, [], g⟩ := by
  rw [runFrom, h]
  rfl

theorem runFrom_of_skipped (h : g.stops played = false) (htake : input.take text = none) :
    runFrom input g played (.ok text :: rest) =
      (runFrom input g played rest).after input.prompt := by
  rw [runFrom, h]
  simp only [Bool.false_eq_true, if_false, htake]

theorem runFrom_of_turn (h : g.stops played = false)
    (htake : input.take text = some (echo, command)) {outcome : Outcome}
    (hturn : (g.takeTurn command).result = .ok outcome) :
    runFrom input g played (.ok text :: rest) =
      (runFrom input (g.takeTurn command).game (played + 1) rest).after
        (input.prompt ++ echo ++ (g.takeTurn command).shown) := by
  rw [runFrom, h]
  simp only [Bool.false_eq_true, if_false, htake, hturn]

theorem runFrom_of_ended (h : g.stops played = false)
    (htake : input.take text = some (echo, command))
    (hturn : (g.takeTurn command).result = .error .gameOver) :
    runFrom input g played (.ok text :: rest) =
      ⟨played, none, input.prompt ++ echo ++ (g.takeTurn command).shown, rest,
        (g.takeTurn command).game⟩ := by
  rw [runFrom, h]
  simp only [Bool.false_eq_true, if_false, htake, hturn]

theorem runFrom_of_fault (h : g.stops played = false)
    (htake : input.take text = some (echo, command)) {fault : Fault}
    (hturn : (g.takeTurn command).result = .error fault) (hne : fault ≠ .gameOver) :
    runFrom input g played (.ok text :: rest) =
      ⟨played, some fault, input.prompt ++ echo ++ (g.takeTurn command).shown, rest,
        (g.takeTurn command).game⟩ := by
  rw [runFrom, h]
  simp only [Bool.false_eq_true, if_false, htake, hturn]

end Game
end TextAdventure
