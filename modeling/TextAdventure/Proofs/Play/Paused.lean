/-
A run that is paused at its limit.

Whether a run stops is asked before a line is read, so the lines that are left
are those that another run takes up, and it finds the game as it was left.  Runs
of `m` turns each, `k` of them one after the other, come to one run of `k * m`
turns, wherever their limits fall.
-/
import Mathlib.Algebra.GroupWithZero.Nat
import TextAdventure.Proofs.Play.Reading

namespace TextAdventure

namespace Game

/-- The same game, a run of which plays so many turns at most. -/
def limited (g : Game) (limit : Nat) : Game :=
  { g with config := { g.config with maxTurns := some limit } }

/-- What comes of several runs, each of which takes up what the one before it
left.  None follows one that fails. -/
def runs (input : Input) (g : Game) (lines : List Line) : Nat → List Ran
  | 0 => []
  | k + 1 =>
    let r := g.run input lines
    r :: if r.fault.isNone then r.game.runs input r.remaining k else []

end Game

namespace Ran

/-- A run that has not begun. -/
def waiting (g : Game) (lines : List Line) : Ran := ⟨0, none, [], lines, g⟩

def limited (r : Ran) (limit : Nat) : Ran := { r with game := r.game.limited limit }

theorem after_after (r : Ran) (shown shown' : List Shown) :
    (r.after shown').after shown = r.after (shown ++ shown') := by
  show Ran.mk _ _ (shown ++ (shown' ++ r.shown)) _ _ = _
  rw [← List.append_assoc]
  rfl

end Ran

/-! ## Limits -/

namespace Game

variable {g : Game} {played limit : Nat}

theorem stops_of_limit (h : g.config.maxTurns = some limit) (played : Nat) :
    g.stops played = (!g.state.running || decide (limit ≤ played)) := by
  rw [stops, h]
  rfl

theorem takeTurn_limited (g : Game) (limit : Nat) (command : Command) :
    (g.limited limit).takeTurn command =
      { g.takeTurn command with game := (g.takeTurn command).game.limited limit } := by
  have hsame : (g.limited limit).adventure.takeTurn command
      ⟨(g.limited limit).state, [], (g.limited limit).draws⟩ =
        g.adventure.takeTurn command ⟨g.state, [], g.draws⟩ := rfl
  unfold takeTurn
  rw [hsame]
  generalize g.adventure.takeTurn command ⟨g.state, [], g.draws⟩ = done
  obtain ⟨result, scene⟩ := done
  cases result with
  | ok outcome => rfl
  | error fault => cases fault <;> rfl

theorem running_of_stops_eq_false (h : g.config.maxTurns = some limit)
    (hstops : g.stops played = false) : g.state.running = true ∧ played < limit := by
  rw [stops_of_limit h, Bool.or_eq_false_iff, Bool.not_eq_false'] at hstops
  exact ⟨hstops.1, Nat.lt_of_not_le (of_decide_eq_false hstops.2)⟩

theorem stops_limited_eq_false (hrunning : g.state.running = true) (hplayed : played < limit) :
    (g.limited limit).stops played = false := by
  rw [stops_of_limit rfl]
  show (!g.state.running || decide (limit ≤ played)) = false
  rw [hrunning, decide_eq_false (Nat.not_le_of_lt hplayed)]
  rfl

end Game

namespace Goes

variable {input : Input} {g : Game} {played limit m : Nat} {text : String} {echo : List Shown}
  {command : Command} {lines rest : List Line} {r r' : Ran}

theorem turn_limited (hstops : (g.limited limit).stops played = false)
    (htake : input.take text = some (echo, command)) {outcome : Outcome}
    (hturn : (g.takeTurn command).result = .ok outcome)
    (hrest : Goes input ((g.takeTurn command).game.limited limit) (played + 1) rest r) :
    Goes input (g.limited limit) played (.ok text :: rest)
      (r.after (input.prompt ++ echo ++ (g.takeTurn command).shown)) := by
  have hsame := Game.takeTurn_limited g limit command
  have hgoes := Goes.turn hstops htake (by rw [hsame]; exact hturn) (by rw [hsame]; exact hrest)
  rwa [hsame] at hgoes

theorem failed_limited (hstops : (g.limited limit).stops played = false)
    (htake : input.take text = some (echo, command)) {fault : Fault}
    (hturn : (g.takeTurn command).result = .error fault) (hends : fault.endsTurn = true) :
    Goes input (g.limited limit) played (.ok text :: rest)
      (({ played, fault := some fault, shown := input.prompt ++ echo ++ (g.takeTurn command).shown,
          remaining := rest, game := (g.takeTurn command).game } : Ran).limited limit) := by
  have hsame := Game.takeTurn_limited g limit command
  have hgoes : Goes input (g.limited limit) played (.ok text :: rest) _ :=
    .failed hstops htake (by rw [hsame]; exact hturn) hends
  rwa [hsame] at hgoes

/-- Nothing comes of a game that has ended, nor of no lines. -/
theorem idle (hprompt : input.prompt = []) (h : g.state.running = false ∨ lines = []) :
    Goes input g played lines ⟨played, none, [], lines, g⟩ := by
  cases hstops : g.stops played with
  | true => exact .stopped hstops
  | false =>
    rcases h with hended | rfl
    · rw [Game.stops, hended] at hstops
      cases hstops
    · rw [← hprompt]
      exact .exhausted hstops

/-- A run goes on in the same way if some turns were played before it, and its
limit allows for them. -/
theorem shift (h : Goes input g played lines r) (hlimit : g.config.maxTurns = some limit)
    (before : Nat) :
    Goes input (g.limited (before + limit)) (before + played) lines
      (({ r with played := before + r.played } : Ran).limited (before + limit)) := by
  have hgoes : ∀ {g : Game} {played : Nat}, g.config.maxTurns = some limit →
      g.stops played = false → (g.limited (before + limit)).stops (before + played) = false := by
    intro g played hlimit hstops
    obtain ⟨hrunning, hplayed⟩ := Game.running_of_stops_eq_false hlimit hstops
    exact Game.stops_limited_eq_false hrunning (Nat.add_lt_add_left hplayed before)
  induction h with
  | stopped hstops =>
    refine .stopped ?_
    rw [Game.stops_of_limit rfl, decide_eq_decide.2 Nat.add_le_add_iff_left]
    rwa [Game.stops_of_limit hlimit] at hstops
  | exhausted hstops => exact .exhausted (hgoes hlimit hstops)
  | unreadable hstops cause => exact .unreadable (hgoes hlimit hstops) cause
  | skipped hstops htake hrest ih => exact .skipped (hgoes hlimit hstops) htake (ih hlimit)
  | turn hstops htake hturn hrest ih =>
    exact .turn_limited (hgoes hlimit hstops) htake hturn
      (ih (by rw [Game.config_takeTurn, hlimit]))
  | failed hstops htake hturn hends =>
    exact .failed_limited (hgoes hlimit hstops) htake hturn hends

theorem stops_limited (hlimit : g.config.maxTurns = some m) (hm : m ≤ limit)
    (hstops : g.stops played = false) : (g.limited limit).stops played = false := by
  obtain ⟨hrunning, hplayed⟩ := Game.running_of_stops_eq_false hlimit hstops
  exact Game.stops_limited_eq_false hrunning (Nat.lt_of_lt_of_le hplayed hm)

/-- A run that fails does so with any greater limit. -/
theorem relimit (h : Goes input g played lines r) (hlimit : g.config.maxTurns = some m)
    (hm : m ≤ limit) (hfault : r.fault ≠ none) :
    Goes input (g.limited limit) played lines (r.limited limit) := by
  induction h with
  | stopped _ | exhausted _ => exact absurd rfl hfault
  | unreadable hstops cause => exact .unreadable (stops_limited hlimit hm hstops) cause
  | skipped hstops htake hrest ih =>
    exact .skipped (stops_limited hlimit hm hstops) htake (ih hlimit hfault)
  | turn hstops htake hturn hrest ih =>
    exact .turn_limited (stops_limited hlimit hm hstops) htake hturn
      (ih (by rw [Game.config_takeTurn, hlimit]) hfault)
  | failed hstops htake hturn hends =>
    exact .failed_limited (stops_limited hlimit hm hstops) htake hturn hends

/-- With a greater limit a run that does not fail goes on from where it ended. -/
theorem andThen (h : Goes input g played lines r) (hprompt : input.prompt = [])
    (hlimit : g.config.maxTurns = some m) (hm : m ≤ limit) (hdone : r.fault = none)
    (h' : Goes input (r.game.limited limit) r.played r.remaining r') :
    Goes input (g.limited limit) played lines (r'.after r.shown) := by
  induction h with
  | stopped _ => exact h'
  | exhausted _ =>
    show Goes _ _ _ _ (r'.after input.prompt)
    rw [hprompt]
    exact h'
  | unreadable _ _ | failed _ _ _ _ => exact absurd hdone nofun
  | skipped hstops htake hrest ih =>
    have hgoes := Goes.skipped (stops_limited hlimit hm hstops) htake (ih hlimit hdone h')
    rwa [Ran.after_after] at hgoes
  | turn hstops htake hturn hrest ih =>
    have hgoes := Goes.turn_limited (stops_limited hlimit hm hstops) htake hturn
      (ih (by rw [Game.config_takeTurn, hlimit]) hdone h')
    rwa [Ran.after_after] at hgoes

end Goes

/-! ## Calls -/

/-- Behind a run that does not fail the last of further runs is the same if
there is none, since they wait for nothing. -/
theorem Ran.getLastD_of_done {r : Ran} (hdone : r.fault = none) (rest : List Ran) :
    (rest.getLastD r).fault = (rest.getLastD (.waiting r.game r.remaining)).fault ∧
    (rest.getLastD r).remaining = (rest.getLastD (.waiting r.game r.remaining)).remaining ∧
    (rest.getLastD r).game = (rest.getLastD (.waiting r.game r.remaining)).game := by
  cases rest with
  | nil => exact ⟨hdone, rfl, rfl⟩
  | cons r' others => exact ⟨rfl, rfl, rfl⟩

namespace Game

variable {input : Input} {g : Game} {m : Nat}

/-- What is left by a run that does not fail goes on with the limit of both as
it does by itself. -/
theorem goes_behind (hprompt : input.prompt = []) (hlimit : g.config.maxTurns = some m)
    {lines : List Line} {r whole : Ran} {limit : Nat} (hr : Goes input g 0 lines r)
    (hdone : r.fault = none) (hwhole : Goes input (r.game.limited limit) 0 r.remaining whole) :
    Goes input (r.game.limited (m + limit)) r.played r.remaining
      (({ whole with played := r.played + whole.played } : Ran).limited (m + limit)) := by
  by_cases hidle : r.game.state.running = false ∨ r.remaining = []
  · rw [hwhole.unique (.idle hprompt hidle)]
    exact .idle hprompt hidle
  · -- the game is running and lines are left, so the run has reached its limit
    rw [not_or, Bool.not_eq_false] at hidle
    have hstops := (hr.stops_or_exhausted hdone).resolve_right hidle.2
    rw [stops_of_limit (hr.config ▸ hlimit), hidle.1] at hstops
    have hplayed : r.played = m :=
      Nat.le_antisymm (hr.played_le hlimit (Nat.zero_le m)) (of_decide_eq_true hstops)
    rw [hplayed]
    exact hwhole.shift rfl m

theorem goes_runs (hprompt : input.prompt = []) (hlimit : g.config.maxTurns = some m) (k : Nat)
    (lines : List Line) :
    let calls := g.runs input lines k
    let last := calls.getLastD (.waiting g lines)
    Goes input (g.limited (k * m)) 0 lines
      ⟨(calls.map Ran.played).sum, last.fault, calls.flatMap Ran.shown, last.remaining,
        last.game.limited (k * m)⟩ := by
  induction k generalizing g lines with
  | zero =>
    refine .stopped ?_
    rw [stops_of_limit rfl, Nat.zero_mul, decide_eq_true (Nat.le_refl 0), Bool.or_true]
  | succ k ih =>
    have hr : Goes input g 0 lines (g.run input lines) := goes_runFrom input g 0 lines
    have hlimits : (k + 1) * m = m + k * m := by rw [Nat.succ_mul, Nat.add_comm]
    rw [hlimits]
    dsimp only [runs]
    generalize g.run input lines = r at hr
    cases hfault : r.fault with
    | some fault =>
      have hne : r.fault ≠ none := by rw [hfault]; exact Option.some_ne_none fault
      have hgoes := hr.relimit hlimit (Nat.le_add_right m (k * m)) hne
      simp only [Option.isNone_some, Bool.false_eq_true, if_false, List.map_singleton,
        List.sum_singleton, List.flatMap_singleton]
      exact hgoes
    | none =>
      have hrest := ih (hr.config ▸ hlimit) r.remaining
      have hgoes := hr.andThen hprompt hlimit (Nat.le_add_right m (k * m)) hfault
        (goes_behind hprompt hlimit hr hfault hrest)
      obtain ⟨hlast, hremaining, hgame⟩ :=
        Ran.getLastD_of_done hfault (r.game.runs input r.remaining k)
      simp only [Option.isNone_none, if_true, List.getLastD_cons, hlast, hremaining, hgame]
      exact hgoes

/-- Runs that are called one after the other, each for so many turns, come to a
single run for all of these turns.  They leave the game and the lines alike, fail
alike, and together play as many turns and show the same.  No run plays more turns
than it may, and one that has reached its limit, or has ended the game, has read no
line behind the command that did so. -/
theorem runs_as_one (v : Vocabulary) (g : Game) (lines : List Line) (m k : Nat) :
    let input := Input.plain v
    let calls := (g.limited m).runs input lines k
    let last := calls.getLastD (.waiting (g.limited m) lines)
    let whole := (g.limited (k * m)).run input lines
    (last.game.state = whole.game.state ∧ last.game.transcript = whole.game.transcript ∧
      last.game.draws = whole.game.draws ∧ last.remaining = whole.remaining ∧
      last.fault = whole.fault ∧ (calls.map Ran.played).sum = whole.played ∧
      calls.flatMap Ran.shown = whole.shown) ∧
    ∀ (g' : Game) (lines' : List Line),
      let r := (g'.limited m).run input lines'
      r.played ≤ m ∧ ∃ read, lines' = read ++ r.remaining ∧
        (r.fault = none → (input.commands read).1.length = r.played) ∧
        (r.played = m ∨ r.game.state.running = false → read = [] ∨
          ∃ before text taken, read = before ++ [.ok text] ∧ input.take text = some taken) := by
  intro input calls last whole
  have hgoes : Goes input (g.limited (k * m)) 0 lines _ :=
    goes_runs (g := g.limited m) rfl rfl k lines
  have hwhole : whole = _ := hgoes.eq_runFrom
  refine ⟨?_, ?_⟩
  · rw [hwhole]
    exact ⟨rfl, rfl, rfl, rfl, rfl, rfl, rfl⟩
  · intro g' lines' r
    have hgoes : Goes input (g'.limited m) 0 lines' r := goes_runFrom _ _ _ _
    obtain ⟨read, hread, -, hcount, hlast⟩ := hgoes.exists_read
    have hlimit : r.game.config.maxTurns = some m := by rw [hgoes.config]; rfl
    refine ⟨hgoes.played_le rfl (Nat.zero_le m), read, hread, fun hdone => ?_, fun hend => ?_⟩
    · rw [hcount hdone, Nat.zero_add]
    · refine hlast ?_
      rw [stops_of_limit hlimit, Bool.or_eq_true, Bool.not_eq_true', decide_eq_true_eq]
      exact hend.symm.imp_right fun hplayed => hplayed.ge

end Game
end TextAdventure
