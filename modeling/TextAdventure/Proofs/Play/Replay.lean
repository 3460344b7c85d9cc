/-
A transcript replays.

A record keeps the text of the command that was entered, and a command is read
again from its text.  So the commands on record lead a new game with the same
draws through the same turns: it stops where the first one stopped, whether at
the end of input, at the limit, with the game, or in a turn that failed.
-/
import TextAdventure.Proofs.Play.Runs
import TextAdventure.Proofs.Text.Lines
import TextAdventure.Proofs.Text.Tokens

namespace TextAdventure

open Text

namespace Input

theorem plain_take (v : Vocabulary) (line : String) :
    (plain v).take line =
      if (v.parse line).isEmpty then none else some ([], v.parse line) := rfl

/-- A command that plain input takes from a line is the one that it takes from
the text of that command. -/
theorem take_text {v : Vocabulary} {line : String} {echo : List Shown} {command : Command}
    (h : (plain v).take line = some (echo, command)) :
    (plain v).take command.text = some ([], command) := by
  rw [plain_take] at h
  split at h
  · exact absurd h.symm (Option.some_ne_none _)
  · next hfull =>
    obtain ⟨-, rfl⟩ := Prod.mk.inj (Option.some.inj h)
    rw [plain_take, v.parse_text, if_neg hfull]

end Input

/-- The line that enters the command on record again. -/
def Record.line (record : Record) : Line := .ok record.input

/-- Whether two runs play the same turns and end in the same way.  What they
show may differ by prompts and echoes, and the lines they leave by those that
were skipped. -/
structure Ran.SameCourse (r r' : Ran) : Prop where
  game : r'.game = r.game
  played : r'.played = r.played
  fault : r'.fault = r.fault

namespace Game

/-- A run that begins anywhere adds records to the past, and the lines of these
records lead the same game through the same turns. -/
theorem runFrom_lines_of_records (v : Vocabulary) {lines : List Line}
    (hlines : ∀ line ∈ lines, ∃ text, line = .ok text) (g : Game) (played : Nat) :
    ∃ added, (runFrom (.plain v) g played lines).game.past = added ++ g.past ∧
      Ran.SameCourse (runFrom (.plain v) g played lines)
        (runFrom (.plain v) g played (added.reverse.map Record.line)) := by
  induction lines generalizing g played with
  | nil => exact ⟨[], by cases h : g.stops played <;> simp [runFrom, h], rfl, rfl, rfl⟩
  | cons line rest ih =>
    obtain ⟨⟨text, rfl⟩, hrest⟩ := List.forall_mem_cons.1 hlines
    cases hstops : g.stops played with
    | true =>
      refine ⟨[], ?_, ?_⟩
      · rw [runFrom_of_stops hstops]
        rfl
      · rw [runFrom_of_stops hstops, runFrom_of_stops hstops]
        exact ⟨rfl, rfl, rfl⟩
    | false =>
      cases htake : (Input.plain v).take text with
      | none =>
        obtain ⟨added, hpast, hsame⟩ := ih hrest g played
        rw [runFrom_of_skipped hstops htake]
        exact ⟨added, hpast, hsame.game, hsame.played, hsame.fault⟩
      | some taken =>
        obtain ⟨echo, command⟩ := taken
        have hagain := Input.take_text htake
        rcases past_takeTurn g command with ⟨hover, hgame⟩ | ⟨hnotover, record, hrecord, hinput⟩
        · -- no record was added, and without a line the second run is over at once
          rw [runFrom_of_ended hstops htake hover, hgame]
          refine ⟨[], rfl, ?_⟩
          rw [List.reverse_nil, List.map_nil, runFrom_nil hstops]
          exact ⟨rfl, rfl, rfl⟩
        · have hline : record.line = .ok command.text := congrArg Except.ok hinput
          cases hturn : (g.takeTurn command).result with
          | ok outcome =>
            obtain ⟨added, hpast, hsame⟩ := ih hrest (g.takeTurn command).game (played + 1)
            rw [runFrom_of_turn hstops htake hturn]
            refine ⟨added ++ [record], ?_, ?_⟩
            · show (runFrom _ (g.takeTurn command).game (played + 1) rest).game.past = _
              rw [hpast, hrecord, List.append_assoc]
              rfl
            · rw [List.reverse_append, List.reverse_singleton, List.singleton_append,
                List.map_cons, hline, runFrom_of_turn hstops hagain hturn]
              exact ⟨hsame.game, hsame.played, hsame.fault⟩
          | error fault =>
            have hne : fault ≠ .gameOver := fun hover => hnotover (by rw [hturn, hover])
            rw [runFrom_of_fault hstops htake hturn hne]
            refine ⟨[record], hrecord, ?_⟩
            rw [List.reverse_singleton, List.map_singleton, hline,
              runFrom_of_fault hstops hagain hturn hne]
            exact ⟨rfl, rfl, rfl⟩

end Game

/-! ## What is typed at a game -/

/-- Lines one by one, or a text that has yet to be divided into lines. -/
inductive Typed where
  | apart (lines : List String)
  | whole (text : String)

namespace Typed

def read : Typed → List Line
  | .apart lines => lines.map .ok
  | .whole text => linesOfBytes (encode text)

theorem exists_text_of_mem_read {typed : Typed} {line : Line} (h : line ∈ typed.read) :
    ∃ text, line = .ok text := by
  cases typed with
  | apart lines =>
    obtain ⟨text, -, rfl⟩ := List.mem_map.1 h
    exact ⟨text, rfl⟩
  | whole text =>
    rw [read, linesOfBytes_encode] at h
    obtain ⟨cs, -, rfl⟩ := List.mem_map.1 h
    exact ⟨_, rfl⟩

end Typed

/-- A game that is played from the transcript of another, from the same draws,
comes to the same state and the same transcript, in as many turns, and fails in
the same turn if the other did. -/
theorem Game.replays_transcript (a : Adventure) (config : Config) (draws : Draws)
    (typed : Typed) :
    let first := (Game.new a config draws).run (.plain a.vocabulary) typed.read
    let second := (Game.new a config draws).run (.plain a.vocabulary)
      (first.game.transcript.map Record.line)
    second.game.state = first.game.state ∧ second.game.transcript = first.game.transcript ∧
      second.game.draws = first.game.draws ∧ second.played = first.played ∧
        second.fault = first.fault := by
  intro first second
  obtain ⟨added, hpast, hsame⟩ := runFrom_lines_of_records a.vocabulary
    (fun _ hline => Typed.exists_text_of_mem_read hline) (Game.new a config draws) 0
  have hadded : first.game.past = added := by
    rw [show first.game.past = added ++ [] from hpast, List.append_nil]
  have hsecond : first.SameCourse second := by
    show first.SameCourse ((Game.new a config draws).run _ (first.game.past.reverse.map _))
    rw [hadded]
    exact hsame
  refine ⟨?_, ?_, ?_, hsecond.played, hsecond.fault⟩
  · rw [hsecond.game]
  · rw [hsecond.game]
  · rw [hsecond.game]

end TextAdventure
