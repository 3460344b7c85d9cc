/-
The transcript of a session.

A session is any mixture of single commands and of runs.  Whatever is called,
the game takes turns one after the other, and each that is begun leaves one
record, also if it fails.  So the transcript, read from its beginning, is all
that happened: its outputs are what the display has shown, its numbers count on
from where the game began, and its faults are those that the calls returned.
-/
import Mathlib.Data.List.Forall2
import TextAdventure.Proofs.Play.Reachable
import TextAdventure.Proofs.Play.Replay

namespace TextAdventure

/-! ## Calls -/

inductive Call where
  /-- A command is entered. -/
  | turn (command : Command)
  /-- Commands are read from lines, as many as a run takes. -/
  | run (input : Input) (lines : List Line)

/-- What comes of calls. -/
structure Session where
  /-- The turns that were asked for, also of a game that had ended. -/
  turns : List Turned
  /-- What the display of the game shows. -/
  shown : List Shown
  /-- What the calls returned instead of an answer. -/
  faults : List Fault
  game : Game

/-- What a result is instead of an answer, as a list. -/
def faultsOf {α : Type} : Except Fault α → List Fault
  | .ok _ => []
  | .error fault => [fault]

namespace Input

/-- The same commands without prompts and echoes, which do not belong to the
display of a game. -/
def silent (input : Input) : Input where
  prompt := []
  take line := (input.take line).map fun taken => ([], taken.2)

theorem silent_take (input : Input) (line : String) :
    input.silent.take line = (input.take line).map fun taken => ([], taken.2) := rfl

end Input

namespace Game

/-- The turns of a run that has played so many, in order. -/
def runTurns (input : Input) (g : Game) (played : Nat) : List Line → List Turned
  | [] => []
  | .error _ :: _ => []
  | .ok text :: rest =>
    if g.stops played then []
    else match input.take text with
      | none => runTurns input g played rest
      | some (_, command) =>
        match (g.takeTurn command).result with
        | .ok _ =>
          g.takeTurn command :: runTurns input (g.takeTurn command).game (played + 1) rest
        | .error _ => [g.takeTurn command]

/-- What comes of a run that has played so many turns. -/
def runSession (input : Input) (g : Game) (played : Nat) (lines : List Line) : Session where
  turns := runTurns input g played lines
  shown := (runFrom input.silent g played lines).shown
  faults := (runFrom input g played lines).fault.toList
  game := (runFrom input g played lines).game

def answer (g : Game) : Call → Session
  | .turn command =>
    let turned := g.takeTurn command
    ⟨[turned], turned.shown, faultsOf turned.result, turned.game⟩
  | .run input lines => g.runSession input 0 lines

end Game

namespace Session

def append (s s' : Session) : Session :=
  ⟨s.turns ++ s'.turns, s.shown ++ s'.shown, s.faults ++ s'.faults, s'.game⟩

end Session

/-- What comes of calls that are made one after the other. -/
def Game.session (g : Game) : List Call → Session
  | [] => ⟨[], [], [], g⟩
  | call :: rest => (g.answer call).append ((g.answer call).game.session rest)

/-- Whether a game has just been started, or been taken up from a state. -/
inductive Game.Fresh : Game → Prop
  | started (a : Adventure) (config : Config) (draws : Draws) : Fresh (.new a config draws)
  | resumed {a : Adventure} {config : Config} {draws : Draws} {s : State} {g : Game}
      (h : Game.resume a config draws s = .ok g) : Fresh g

theorem Game.Fresh.past_eq_nil {g : Game} (h : g.Fresh) : g.past = [] := by
  cases h with
  | started a config draws => rfl
  | resumed h =>
    unfold Game.resume at h
    split at h
    · exact absurd h nofun
    · rw [← Except.ok.inj h]
      rfl

/-! ## Turns -/

namespace Fault

/-- Whether a turn can end with this, once it has begun. -/
def endsTurn : Fault → Bool
  | .gameOver => false
  | .unreadable _ => false
  | _ => true

end Fault

theorem Effect.Fails.endsTurn {world : World} {command : Command} {s : State} {e : Effect}
    {fault : Fault} (h : Effect.Fails world command s e fault) : fault.endsTurn = true := by
  cases h <;> rfl

/-- A turn takes its number from the state in which it is begun. -/
theorem Course.outcome_turn {a : Adventure} {command : Command} {s : State} {draws left : Draws}
    {deeds : List (Command × Effect)} {outcome : Outcome}
    (h : Course a command s draws deeds (.ok outcome) left) : outcome.turn = s.turns := by
  generalize hresult : (Except.ok outcome : Except Fault Outcome) = result at h
  cases h with
  | cut htried => exact absurd hresult nofun
  | stopped htried hstopped => rw [Except.ok.inj hresult]
  | unanswered htried hrunning hmissed => rw [Except.ok.inj hresult]
  | @answered _ s' _ _ r _ _ _ htried hrunning hsplit hmissed hr =>
    cases hfault : (r.enacted ⟨a.world, command⟩ s').fault with
    | none =>
      rw [Enacted.answer_of_done hfault] at hresult
      rw [Except.ok.inj hresult]
    | some fault =>
      rw [Enacted.answer_of_fault hfault] at hresult
      exact absurd hresult nofun

theorem Course.endsTurn {a : Adventure} {command : Command} {s : State} {draws left : Draws}
    {deeds : List (Command × Effect)} {fault : Fault}
    (h : Course a command s draws deeds (.error fault) left) : fault.endsTurn = true := by
  obtain ⟨x, -, s', -, hfails⟩ :=
    exists_fails_of_enact (P := fun _ => True) (fun _ _ _ _ _ _ => trivial) trivial h.enact_fault
  exact hfails.endsTurn

/-- What a record tells of a turn. -/
structure Record.Tells (t : Turned) (r : Record) : Prop where
  output : r.output = Shown.renderAll t.shown
  fault : ∀ fault, r.fault = some fault ↔ t.result = .error fault
  outcome : ∀ outcome, t.result = .ok outcome → r.turn = outcome.turn ∧ r.matched = outcome.matched
  unmatched : r.fault ≠ none → r.matched = none

namespace Game

variable {g : Game} {command : Command}

theorem takeTurn_of_ended (h : g.state.running = false) (command : Command) :
    g.takeTurn command = ⟨.error .gameOver, [], g⟩ := by
  have hended : g.adventure.takeTurn command ⟨g.state, [], g.draws⟩ =
      (.error .gameOver, ⟨g.state, [], g.draws⟩) := Adventure.takeTurn_of_ended h
  unfold takeTurn
  rw [hended]

end Game

/-- How a turn that is begun goes. -/
structure Turned.Begun (g : Game) (t : Turned) (r : Record) : Prop where
  past : t.game.past = r :: g.past
  tells : r.Tells t
  turn : r.turn = g.state.turns + 1
  turns : t.game.state.turns = g.state.turns + 1
  endsTurn : ∀ fault, t.result = .error fault → fault.endsTurn = true

namespace Game

variable {g : Game}

theorem recordOf_tells (command : Command) (state : State) (shown : List Shown)
    (result : Except Fault Outcome) (g : Game) :
    (recordOf command state shown result).Tells ⟨result, shown, g⟩ := by
  cases result with
  | ok outcome =>
    refine ⟨rfl, fun fault => iff_of_false nofun nofun, ?_, fun h => absurd rfl h⟩
    intro outcome' h
    rw [← Except.ok.inj h]
    exact ⟨rfl, rfl⟩
  | error fault =>
    refine ⟨rfl, fun fault' => ?_, nofun, fun _ => rfl⟩
    show some fault = some fault' ↔ Except.error fault = .error fault'
    rw [Option.some.injEq, Except.error.injEq]

theorem begun_takeTurn (h : g.state.running = true) (command : Command) :
    ∃ r, (g.takeTurn command).Begun g r := by
  have hrunning : (Scene.mk g.state [] g.draws).state.running = true := h
  obtain ⟨deeds, result, left, hcourse, heq⟩ :=
    Adventure.exists_course g.adventure command hrunning
  have hturns : (enact g.adventure.world g.state.beginTurn deeds).state.turns =
      g.state.turns + 1 := turns_enact _ _ _
  have hends : ∀ fault, result = .error fault → fault.endsTurn = true := by
    rintro fault rfl
    exact hcourse.endsTurn
  have hnumber : ∀ outcome, result = .ok outcome → outcome.turn = g.state.turns + 1 := by
    rintro outcome rfl
    exact hcourse.outcome_turn
  unfold takeTurn
  rw [heq]
  split
  · next hover =>
    have hbad := hends .gameOver (Prod.mk.inj hover).1
    exact absurd hbad nofun
  · next result' scene _ hsame =>
    obtain ⟨rfl, rfl⟩ := Prod.mk.inj hsame
    refine ⟨_, rfl, recordOf_tells _ _ _ _ _, ?_, hturns, hends⟩
    cases result with
    | ok outcome => exact hnumber outcome rfl
    | error fault => exact hturns

end Game

/-! ## Runs -/

namespace Game

variable {input : Input} {g : Game} {played : Nat} {text : String} {echo : List Shown}
  {command : Command} {rest : List Line}

theorem runSession_of_stops (h : g.stops played = true) (lines : List Line) :
    runSession input g played lines = ⟨[], [], [], g⟩ := by
  have hturns : runTurns input g played lines = [] := by
    cases lines with
    | nil => rfl
    | cons line rest =>
      cases line with
      | error cause => rfl
      | ok text => rw [runTurns, if_pos h]
  rw [runSession, hturns, runFrom_of_stops h, runFrom_of_stops h]
  rfl

theorem runSession_nil (h : g.stops played = false) :
    runSession input g played [] = ⟨[], [], [], g⟩ := by
  rw [runSession, runFrom_nil h, runFrom_nil h]
  rfl

theorem runFrom_of_unreadable (h : g.stops played = false) (cause : Unreadable) :
    runFrom input g played (.error cause :: rest) =
      ⟨played, some (.unreadable cause), input.prompt, rest, g⟩ := by
  rw [runFrom, h]
  rfl

theorem runSession_of_unreadable (h : g.stops played = false) (cause : Unreadable) :
    runSession input g played (.error cause :: rest) = ⟨[], [], [.unreadable cause], g⟩ := by
  rw [runSession, runFrom_of_unreadable h, runFrom_of_unreadable h]
  rfl

theorem runSession_of_skipped (h : g.stops played = false) (htake : input.take text = none) :
    runSession input g played (.ok text :: rest) = runSession input g played rest := by
  have hsilent : input.silent.take text = none := by
    rw [Input.silent_take, htake, Option.map_none]
  rw [runSession, runTurns, h, runFrom_of_skipped h htake, runFrom_of_skipped h hsilent]
  simp only [Bool.false_eq_true, if_false, htake]
  rfl

theorem runSession_of_turn (h : g.stops played = false)
    (htake : input.take text = some (echo, command)) {outcome : Outcome}
    (hturn : (g.takeTurn command).result = .ok outcome) :
    runSession input g played (.ok text :: rest) =
      (g.answer (.turn command)).append
        (runSession input (g.takeTurn command).game (played + 1) rest) := by
  have hsilent : input.silent.take text = some ([], command) := by
    rw [Input.silent_take, htake, Option.map_some]
  rw [runSession, runTurns, h, runFrom_of_turn h htake hturn, runFrom_of_turn h hsilent hturn,
    answer, hturn]
  simp only [Bool.false_eq_true, if_false, htake, hturn]
  rfl

theorem runSession_of_fault (h : g.stops played = false)
    (htake : input.take text = some (echo, command)) {fault : Fault}
    (hturn : (g.takeTurn command).result = .error fault) (hne : fault ≠ .gameOver) :
    runSession input g played (.ok text :: rest) = g.answer (.turn command) := by
  have hsilent : input.silent.take text = some ([], command) := by
    rw [Input.silent_take, htake, Option.map_some]
  rw [runSession, runTurns, h, runFrom_of_fault h htake hturn hne,
    runFrom_of_fault h hsilent hturn hne, answer, hturn]
  simp only [Bool.false_eq_true, if_false, htake, hturn]
  rfl

/-- Prompts and echoes have no part in what is played. -/
theorem sameCourse_silent (input : Input) (g : Game) (played : Nat) (lines : List Line) :
    Ran.SameCourse (runFrom input g played lines) (runFrom input.silent g played lines) := by
  induction lines generalizing g played with
  | nil =>
    cases h : g.stops played with
    | true => rw [runFrom_of_stops h, runFrom_of_stops h]; exact ⟨rfl, rfl, rfl⟩
    | false => rw [runFrom_nil h, runFrom_nil h]; exact ⟨rfl, rfl, rfl⟩
  | cons line rest ih =>
    cases h : g.stops played with
    | true => rw [runFrom_of_stops h, runFrom_of_stops h]; exact ⟨rfl, rfl, rfl⟩
    | false =>
      cases line with
      | error cause => rw [runFrom_of_unreadable h, runFrom_of_unreadable h]; exact ⟨rfl, rfl, rfl⟩
      | ok text =>
        have hsilent := input.silent_take text
        cases htake : input.take text with
        | none =>
          rw [htake, Option.map_none] at hsilent
          have hrest := ih g played
          rw [runFrom_of_skipped h htake, runFrom_of_skipped h hsilent]
          exact ⟨hrest.game, hrest.played, hrest.fault⟩
        | some taken =>
          obtain ⟨echo, command⟩ := taken
          rw [htake, Option.map_some] at hsilent
          cases hturn : (g.takeTurn command).result with
          | ok outcome =>
            have hrest := ih (g.takeTurn command).game (played + 1)
            rw [runFrom_of_turn h htake hturn, runFrom_of_turn h hsilent hturn]
            exact ⟨hrest.game, hrest.played, hrest.fault⟩
          | error fault =>
            by_cases hover : fault = .gameOver
            · subst hover
              rw [runFrom_of_ended h htake hturn, runFrom_of_ended h hsilent hturn]
              exact ⟨rfl, rfl, rfl⟩
            · rw [runFrom_of_fault h htake hturn hover, runFrom_of_fault h hsilent hturn hover]
              exact ⟨rfl, rfl, rfl⟩

theorem running_of_stops (h : g.stops played = false) : g.state.running = true := by
  rw [stops, Bool.or_eq_false_iff, Bool.not_eq_false'] at h
  exact h.1

end Game

/-! ## Records -/

/-- Whether a turn was begun, and not asked for after the game had ended. -/
def Turned.isBegun (t : Turned) : Bool :=
  match t.result with
  | .error .gameOver => false
  | _ => true

/-- Whether turns lead from one game to another, each beginning where the one
before it ended. -/
inductive Leads : Game → List Turned → Game → Prop
  | nowhere {g} : Leads g [] g
  | further {g ts g'} (command : Command) (h : Leads (g.takeTurn command).game ts g') :
      Leads g (g.takeTurn command :: ts) g'

theorem Leads.append {g g' g'' : Game} {ts ts' : List Turned} (h : Leads g ts g')
    (h' : Leads g' ts' g'') : Leads g (ts ++ ts') g'' := by
  induction h with
  | nowhere => exact h'
  | further command _ ih => exact .further command (ih h')

/-- Whether records, in the order of the turns, tell all of a session of a
game. -/
structure Session.Told (g : Game) (s : Session) (records : List Record) : Prop where
  past : s.game.past = records.reverse ++ g.past
  /-- The turns of the session are turns of the game, and nothing else is done
  to it. -/
  leads : Leads g s.turns s.game
  turns : List.Forall₂ (fun t r => Record.Tells t r) (s.turns.filter Turned.isBegun) records
  numbered : ∀ i (h : i < records.length), records[i].turn = g.state.turns + .ofNat (i + 1)
  counted : s.game.state.turns = g.state.turns + .ofNat records.length
  displayed : String.join (records.map Record.output) = Shown.renderAll s.shown
  /-- What a call returns otherwise is no fault of a turn. -/
  faults : records.filterMap Record.fault = s.faults.filter Fault.endsTurn

namespace Session.Told

variable {g : Game} {s s' : Session} {records more : List Record}

/-- Calls that come to nothing. -/
theorem nothing {faults : List Fault} (h : faults.filter Fault.endsTurn = []) :
    Session.Told g ⟨[], [], faults, g⟩ [] where
  past := rfl
  leads := .nowhere
  turns := .nil
  numbered := nofun
  counted := (UInt64.add_zero g.state.turns).symm
  displayed := rfl
  faults := h.symm

theorem append (h : s.Told g records) (h' : s'.Told s.game more) :
    (s.append s').Told g (records ++ more) where
  past := by
    show s'.game.past = _
    rw [h'.past, h.past, List.reverse_append, List.append_assoc]
  leads := h.leads.append h'.leads
  turns := by
    show List.Forall₂ _ ((s.turns ++ s'.turns).filter _) _
    rw [List.filter_append]
    exact List.rel_append h.turns h'.turns
  numbered := by
    intro i hi
    rw [List.getElem_append]
    split
    · next hfirst => exact h.numbered i hfirst
    · next hlast =>
      have hlength : i - records.length < more.length := by
        rw [List.length_append] at hi
        omega
      rw [h'.numbered _ hlength, h.counted, UInt64.add_assoc, ← UInt64.ofNat_add]
      congr 2
      omega
  counted := by
    show s'.game.state.turns = _
    rw [h'.counted, h.counted, List.length_append, UInt64.add_assoc, ← UInt64.ofNat_add]
  displayed := by
    show _ = Shown.renderAll (s.shown ++ s'.shown)
    rw [Shown.renderAll, List.map_append, List.map_append, String.join_append, String.join_append,
      h.displayed, h'.displayed]
    rfl
  faults := by
    show _ = (s.faults ++ s'.faults).filter _
    rw [List.filterMap_append, List.filter_append, h.faults, h'.faults]

end Session.Told

namespace Game

variable {g : Game}

/-- A turn leaves one record if it is begun, and else none. -/
theorem exists_told_turn (g : Game) (command : Command) :
    ∃ records, (g.answer (.turn command)).Told g records := by
  cases hrunning : g.state.running with
  | false =>
    have hover := takeTurn_of_ended hrunning command
    have hleads : Leads g [g.takeTurn command] (g.takeTurn command).game :=
      .further command .nowhere
    rw [hover] at hleads
    rw [answer, hover]
    exact ⟨[], rfl, hleads, .nil, nofun, (UInt64.add_zero g.state.turns).symm, rfl, rfl⟩
  | true =>
    obtain ⟨r, hbegun⟩ := begun_takeTurn hrunning command
    have hfilter : [g.takeTurn command].filter Turned.isBegun = [g.takeTurn command] := by
      refine List.filter_eq_self.2 (List.forall_mem_singleton.2 ?_)
      unfold Turned.isBegun
      split
      · next hover => exact absurd (hbegun.endsTurn _ hover) nofun
      · rfl
    refine ⟨[r], hbegun.past, .further command .nowhere, ?_, ?_, hbegun.turns, ?_, ?_⟩
    · show List.Forall₂ _ ([g.takeTurn command].filter _) _
      rw [hfilter]
      exact .cons hbegun.tells .nil
    · intro i hi
      obtain rfl : i = 0 := Nat.lt_one_iff.1 hi
      exact hbegun.turn
    · show "" ++ r.output = _
      rw [String.empty_append]
      exact hbegun.tells.output
    · show _ = (faultsOf (g.takeTurn command).result).filter _
      cases hresult : (g.takeTurn command).result with
      | ok outcome =>
        have hnone : r.fault = none := by
          cases hfault : r.fault with
          | none => rfl
          | some fault =>
            have herror := (hbegun.tells.fault fault).1 hfault
            rw [hresult] at herror
            exact absurd herror nofun
        rw [List.filterMap_cons_none hnone]
        rfl
      | error fault =>
        rw [List.filterMap_cons_some ((hbegun.tells.fault fault).2 hresult), faultsOf,
          List.filter_singleton, hbegun.endsTurn fault hresult]
        rfl

/-- A run leaves a record for each turn that it takes. -/
theorem exists_told_run (input : Input) (g : Game) (played : Nat) (lines : List Line) :
    ∃ records, (g.runSession input played lines).Told g records := by
  induction lines generalizing g played with
  | nil =>
    refine ⟨[], ?_⟩
    cases h : g.stops played with
    | true =>
      rw [runSession_of_stops h]
      exact .nothing rfl
    | false =>
      rw [runSession_nil h]
      exact .nothing rfl
  | cons line rest ih =>
    cases h : g.stops played with
    | true =>
      rw [runSession_of_stops h]
      exact ⟨[], .nothing rfl⟩
    | false =>
      cases line with
      | error cause =>
        rw [runSession_of_unreadable h]
        exact ⟨[], .nothing rfl⟩
      | ok text =>
        cases htake : input.take text with
        | none =>
          rw [runSession_of_skipped h htake]
          exact ih g played
        | some taken =>
          obtain ⟨echo, command⟩ := taken
          obtain ⟨records, htold⟩ := exists_told_turn g command
          cases hturn : (g.takeTurn command).result with
          | ok outcome =>
            obtain ⟨more, hrest⟩ := ih (g.takeTurn command).game (played + 1)
            rw [runSession_of_turn h htake hturn]
            exact ⟨records ++ more, htold.append hrest⟩
          | error fault =>
            -- a run takes no turn of a game that has ended
            obtain ⟨r, hbegun⟩ := begun_takeTurn (running_of_stops h) command
            have hne : fault ≠ .gameOver := by
              rintro rfl
              exact absurd (hbegun.endsTurn _ hturn) nofun
            rw [runSession_of_fault h htake hturn hne]
            exact ⟨records, htold⟩

theorem exists_told_session (g : Game) (calls : List Call) :
    ∃ records, (g.session calls).Told g records := by
  induction calls generalizing g with
  | nil => exact ⟨[], .nothing rfl⟩
  | cons call rest ih =>
    obtain ⟨records, htold⟩ : ∃ records, (g.answer call).Told g records := by
      cases call with
      | turn command => exact exists_told_turn g command
      | run input lines => exact exists_told_run input g 0 lines
    obtain ⟨more, hrest⟩ := ih (g.answer call).game
    exact ⟨records ++ more, htold.append hrest⟩

/-! ## Games that have ended -/

/-- Nothing that is called makes a game go on that has ended. -/
theorem session_of_ended (h : g.state.running = false) (calls : List Call) :
    (g.session calls).game = g ∧ (g.session calls).shown = [] := by
  have hstops : g.stops 0 = true := by rw [stops, h]; rfl
  have hanswer : ∀ call, (g.answer call).game = g ∧ (g.answer call).shown = [] := by
    intro call
    cases call with
    | turn command =>
      rw [answer, takeTurn_of_ended h]
      exact ⟨rfl, rfl⟩
    | run input lines =>
      rw [answer, runSession_of_stops hstops]
      exact ⟨rfl, rfl⟩
  induction calls with
  | nil => exact ⟨rfl, rfl⟩
  | cons call rest ih =>
    obtain ⟨hgame, hshown⟩ := hanswer call
    rw [session, hgame]
    refine ⟨ih.1, ?_⟩
    show (g.answer call).shown ++ (g.session rest).shown = []
    rw [hshown, ih.2, List.append_nil]

/-! ## The transcript -/

/-- The transcript tells all of a session: its records are those of the turns
that were begun, whose numbers count on from the number at the start, and what
they have put out is what the display shows.  A game that has ended stays as it
is, whatever is called.  As long as the count of turns does not overflow, the
numbers are those of whole numbers. -/
theorem transcript_tells_session (h : g.Fresh) (calls : List Call) :
    let s := g.session calls
    s.Told g s.game.transcript ∧
    (g.state.turns.toNat + s.game.transcript.length < UInt64.size →
      s.game.transcript.length = s.game.state.turns.toNat - g.state.turns.toNat ∧
      ∀ i (hi : i < s.game.transcript.length),
        s.game.transcript[i].turn.toNat = g.state.turns.toNat + i + 1) ∧
    (s.game.state.running = false → ∀ more,
      (s.game.session more).game = s.game ∧ (s.game.session more).shown = []) := by
  intro s
  obtain ⟨records, htold⟩ := exists_told_session g calls
  have hrecords : s.game.transcript = records := by
    rw [transcript, htold.past, h.past_eq_nil, List.append_nil, List.reverse_reverse]
  rw [hrecords]
  have hcount : ∀ n ≤ records.length, g.state.turns.toNat + records.length < UInt64.size →
      (g.state.turns + .ofNat n).toNat = g.state.turns.toNat + n := by
    intro n hn hsmall
    rw [UInt64.toNat_add, UInt64.toNat_ofNat', Nat.add_mod_mod]
    exact Nat.mod_eq_of_lt (Nat.lt_of_le_of_lt (Nat.add_le_add_left hn _) hsmall)
  refine ⟨htold, fun hsmall => ⟨?_, fun i hi => ?_⟩, session_of_ended⟩
  · rw [htold.counted, hcount _ (Nat.le_refl _) hsmall, Nat.add_sub_cancel_left]
  · rw [htold.numbered i hi, hcount _ hi hsmall, Nat.add_assoc]

end Game

namespace Sample

/-- There is no attic, so the first action fails. -/
def cellar : Adventure where
  world := { World.empty with
    rooms := [⟨"Cellar", "A cellar.", []⟩]
    rooms_nodup := List.pairwise_singleton _ _ }
  vocabulary := .empty
  occurs := [⟨[], [.print "Drip. "]⟩]
  actions := [⟨[.unrecognized 2], [.goto "Attic"]⟩, ⟨[], [.quit]⟩]
  start := "Cellar"
  start_mem := ⟨_, List.mem_cons_self, rfl⟩

/-- A turn that fails, a run that ends the game, and a turn for which it is too
late. -/
def calls : List Call := [
  .turn (cellar.vocabulary.parse "up there"),
  .run (.console cellar.vocabulary true) [.ok "", .ok "stop", .ok "go on"],
  .turn (cellar.vocabulary.parse "go on")]

end Sample

namespace Game

theorem transcript_tells_session_sample :
    ∃ g, Game.resume Sample.cellar ⟨none, false⟩ (.ofBytes [])
        { Sample.cellar.initialState with turns := 4 } = .ok g ∧ g.Fresh ∧
      (g.session Sample.calls).Told g (g.session Sample.calls).game.transcript ∧
      (g.session Sample.calls).game.transcript = [
        ⟨5, "up there", none, "Drip. ", some (.unknownRoom "Attic")⟩,
        ⟨6, "stop", some 1, "Drip. ", none⟩] ∧
      (g.session Sample.calls).game.state.running = false ∧
      ((g.session Sample.calls).game.session Sample.calls).shown = [] := by
  have hresume : Game.resume Sample.cellar ⟨none, false⟩ (.ofBytes [])
      { Sample.cellar.initialState with turns := 4 } = .ok
        { Game.new Sample.cellar ⟨none, false⟩ (.ofBytes []) with
          state := { Sample.cellar.initialState with turns := 4 } } := rfl
  have hfresh := Fresh.resumed hresume
  obtain ⟨htold, -, hended⟩ := transcript_tells_session hfresh Sample.calls
  have hstopped : (Game.session { Game.new Sample.cellar ⟨none, false⟩ (.ofBytes []) with
      state := { Sample.cellar.initialState with turns := 4 } } Sample.calls).game.state.running =
        false := by decide +kernel
  exact ⟨_, hresume, hfresh, htold, by decide +kernel, hstopped, (hended hstopped _).2⟩

end Game

end TextAdventure
