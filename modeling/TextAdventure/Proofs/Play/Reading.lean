/-
What a run reads.

A run goes over its lines one by one, and what it does at a line depends on how
far it has come.  It is told here as a relation, with one rule for each thing
that can happen, so that what holds of every run is proved rule by rule.
-/
import TextAdventure.Proofs.Play.Sessions

namespace TextAdventure

/-- How a run goes on that has played so many turns, and what it comes to. -/
inductive Goes (input : Input) : Game → Nat → List Line → Ran → Prop
  | stopped {g played lines} (hstops : g.stops played = true) :
      Goes input g played lines ⟨played, none, [], lines, g⟩
  | exhausted {g played} (hstops : g.stops played = false) :
      Goes input g played [] ⟨played, none, input.prompt, [], g⟩
  | unreadable {g played rest} (hstops : g.stops played = false) (cause : Unreadable) :
      Goes input g played (.error cause :: rest)
        ⟨played, some (.unreadable cause), input.prompt, rest, g⟩
  | skipped {g played text rest r} (hstops : g.stops played = false)
      (htake : input.take text = none) (hrest : Goes input g played rest r) :
      Goes input g played (.ok text :: rest) (r.after input.prompt)
  | turn {g played text rest echo command outcome r} (hstops : g.stops played = false)
      (htake : input.take text = some (echo, command))
      (hturn : (g.takeTurn command).result = .ok outcome)
      (hrest : Goes input (g.takeTurn command).game (played + 1) rest r) :
      Goes input g played (.ok text :: rest)
        (r.after (input.prompt ++ echo ++ (g.takeTurn command).shown))
  | failed {g played text rest echo command fault} (hstops : g.stops played = false)
      (htake : input.take text = some (echo, command))
      (hturn : (g.takeTurn command).result = .error fault) (hends : fault.endsTurn = true) :
      Goes input g played (.ok text :: rest)
        ⟨played, some fault, input.prompt ++ echo ++ (g.takeTurn command).shown, rest,
          (g.takeTurn command).game⟩

theorem Fault.ne_gameOver {fault : Fault} (h : fault.endsTurn = true) : fault ≠ .gameOver := by
  rintro rfl
  exact absurd h nofun

namespace Game

theorem endsTurn_of_stops {g : Game} {played : Nat} (h : g.stops played = false)
    {command : Command} {fault : Fault} (hturn : (g.takeTurn command).result = .error fault) :
    fault.endsTurn = true := by
  obtain ⟨r, hbegun⟩ := begun_takeTurn (running_of_stops h) command
  exact hbegun.endsTurn fault hturn

theorem goes_runFrom (input : Input) (g : Game) (played : Nat) (lines : List Line) :
    Goes input g played lines (runFrom input g played lines) := by
  induction lines generalizing g played with
  | nil =>
    cases h : g.stops played with
    | true => rw [runFrom_of_stops h]; exact .stopped h
    | false => rw [runFrom_nil h]; exact .exhausted h
  | cons line rest ih =>
    cases h : g.stops played with
    | true => rw [runFrom_of_stops h]; exact .stopped h
    | false =>
      cases line with
      | error cause => rw [runFrom_of_unreadable h]; exact .unreadable h cause
      | ok text =>
        cases htake : input.take text with
        | none => rw [runFrom_of_skipped h htake]; exact .skipped h htake (ih g played)
        | some taken =>
          cases hturn : (g.takeTurn taken.2).result with
          | ok outcome =>
            rw [runFrom_of_turn h htake hturn]
            exact .turn h htake hturn (ih _ _)
          | error fault =>
            have hends := endsTurn_of_stops h hturn
            rw [runFrom_of_fault h htake hturn (Fault.ne_gameOver hends)]
            exact .failed h htake hturn hends

end Game

namespace Goes

variable {input : Input} {g : Game} {played : Nat} {lines : List Line} {r r' : Ran}

theorem eq_runFrom (h : Goes input g played lines r) : g.runFrom input played lines = r := by
  induction h with
  | stopped hstops => exact Game.runFrom_of_stops hstops _
  | exhausted hstops => exact Game.runFrom_nil hstops
  | unreadable hstops cause => exact Game.runFrom_of_unreadable hstops cause
  | skipped hstops htake hrest ih => rw [Game.runFrom_of_skipped hstops htake, ih]
  | turn hstops htake hturn hrest ih => rw [Game.runFrom_of_turn hstops htake hturn, ih]
  | failed hstops htake hturn hends =>
    exact Game.runFrom_of_fault hstops htake hturn (Fault.ne_gameOver hends)

theorem unique (h : Goes input g played lines r) (h' : Goes input g played lines r') : r = r' := by
  rw [← h.eq_runFrom, h'.eq_runFrom]

/-- A run that does not fail goes on until it stops or no line is left. -/
theorem stops_or_exhausted (h : Goes input g played lines r) (hdone : r.fault = none) :
    r.game.stops r.played = true ∨ r.remaining = [] := by
  induction h with
  | stopped hstops => exact .inl hstops
  | exhausted hstops => exact .inr rfl
  | unreadable hstops cause => exact absurd hdone nofun
  | skipped _ _ _ ih | turn _ _ _ _ ih => exact ih hdone
  | failed _ _ _ _ => exact absurd hdone nofun

theorem config (h : Goes input g played lines r) : r.game.config = g.config := by
  induction h with
  | stopped _ | exhausted _ | unreadable _ _ => rfl
  | skipped _ _ _ ih => exact ih
  | turn _ _ _ _ ih => exact ih.trans (Game.config_takeTurn _ _)
  | failed _ _ _ _ => exact Game.config_takeTurn _ _

/-- A run that begins within its limit ends within it. -/
theorem played_le (h : Goes input g played lines r) {limit : Nat}
    (hlimit : g.config.maxTurns = some limit) (hplayed : played ≤ limit) : r.played ≤ limit := by
  induction h with
  | stopped _ | exhausted _ | unreadable _ _ | failed _ _ _ _ => exact hplayed
  | skipped _ _ _ ih => exact ih hlimit hplayed
  | turn hstops _ _ _ ih =>
    refine ih (by rw [Game.config_takeTurn, hlimit]) ?_
    rw [Game.stops, hlimit, Bool.or_eq_false_iff] at hstops
    exact Nat.lt_of_not_le (of_decide_eq_false hstops.2)

/-- The lines that a run reads are the first ones, and as many commands are in
them as turns are played.  If it stops, it stops right behind a command. -/
theorem exists_read (h : Goes input g played lines r) :
    ∃ read, lines = read ++ r.remaining ∧
      (read = [] → r.game = g ∧ r.played = played) ∧
      (r.fault = none → r.played = played + (input.commands read).1.length) ∧
      (r.game.stops r.played = true → read = [] ∨ ∃ before text taken,
        read = before ++ [.ok text] ∧ input.take text = some taken) := by
  induction h with
  | stopped hstops => exact ⟨[], rfl, fun _ => ⟨rfl, rfl⟩, fun _ => rfl, fun _ => .inl rfl⟩
  | exhausted hstops => exact ⟨[], rfl, fun _ => ⟨rfl, rfl⟩, fun _ => rfl, fun _ => .inl rfl⟩
  | @unreadable g played rest hstops cause =>
    refine ⟨[.error cause], rfl, nofun, nofun, fun hstopped => ?_⟩
    rw [hstops] at hstopped
    exact absurd hstopped Bool.false_ne_true
  | @skipped g played text rest r hstops htake hrest ih =>
    obtain ⟨read, rfl, hnone, hcount, hlast⟩ := ih
    refine ⟨.ok text :: read, rfl, nofun, fun hdone => ?_, fun hstopped => .inr ?_⟩
    · rw [Input.commands, htake]
      exact hcount hdone
    · rcases hlast hstopped with rfl | ⟨before, text', taken, rfl, htaken⟩
      · -- nothing more was read, and here the run did not stop
        obtain ⟨hgame, hplayed⟩ := hnone rfl
        rw [Ran.after, hgame, hplayed, hstops] at hstopped
        exact absurd hstopped Bool.false_ne_true
      · exact ⟨.ok text :: before, text', taken, rfl, htaken⟩
  | @turn g played text rest echo command outcome r hstops htake hturn hrest ih =>
    obtain ⟨read, rfl, hnone, hcount, hlast⟩ := ih
    refine ⟨.ok text :: read, rfl, nofun, fun hdone => ?_, fun hstopped => .inr ?_⟩
    · rw [Input.commands, htake]
      show r.played = played + (_ + 1)
      rw [hcount hdone, Nat.add_assoc, Nat.add_comm 1]
    · rcases hlast hstopped with rfl | ⟨before, text', taken, rfl, htaken⟩
      · exact ⟨[], text, _, rfl, htake⟩
      · exact ⟨.ok text :: before, text', taken, rfl, htaken⟩
  | @failed g played text rest echo command fault hstops htake hturn hends =>
    exact ⟨[.ok text], rfl, nofun, nofun, fun _ => .inr ⟨[], text, _, rfl, htake⟩⟩

end Goes
end TextAdventure
