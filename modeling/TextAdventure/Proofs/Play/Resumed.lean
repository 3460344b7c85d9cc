/-
A game that is taken up from a snapshot goes on as the one it was taken of.

A snapshot holds the whole state, and a turn depends on the adventure, the state
and the draws alone.  The room of the state is asked for again when the game is
taken up; in a game of a script it is always found, since every state of such a
game names its room as the script does.
-/
import TextAdventure.Proofs.Play.Runs
import TextAdventure.Proofs.Script.WellNamed
import TextAdventure.Proofs.Snapshot

namespace TextAdventure
namespace Game

/-- The turns of a game at which commands are entered one after the other. -/
def play (g : Game) : List Command → List Turned
  | [] => []
  | command :: rest => g.takeTurn command :: (g.takeTurn command).game.play rest

variable {g g' : Game}

/-- Whether a game goes on from where another one is, without its past up to
`before`. -/
structure Continues (before : List Record) (g g' : Game) : Prop where
  adventure : g'.adventure = g.adventure
  state : g'.state = g.state
  draws : g'.draws = g.draws
  past : g.past = g'.past ++ before

/-- Whether two turns have the same outcome or fail alike, show the same, and
leave games that are at the same point. -/
structure SameTurn (before : List Record) (t t' : Turned) : Prop where
  result : t'.result = t.result
  shown : t'.shown = t.shown
  game : Continues before t.game t'.game

variable {before : List Record}

/-- The states of a game are the ones that its turns reach. -/
theorem reachable_takeTurn (h : g.adventure.Reachable g.state) (command : Command) :
    g.adventure.Reachable (g.takeTurn command).game.state := by
  have hnext := h.turn command [] g.draws
  unfold takeTurn
  split
  · exact h
  · next heq =>
    rw [heq] at hnext
    exact hnext

theorem Continues.takeTurn (h : Continues before g g') (command : Command) :
    SameTurn before (g.takeTurn command) (g'.takeTurn command) := by
  have hturn : g'.adventure.takeTurn command ⟨g'.state, [], g'.draws⟩ =
      g.adventure.takeTurn command ⟨g.state, [], g.draws⟩ := by
    rw [h.adventure, h.state, h.draws]
  unfold Game.takeTurn
  rw [hturn]
  split
  · exact ⟨rfl, rfl, h⟩
  · refine ⟨rfl, rfl, h.adventure, rfl, rfl, ?_⟩
    show _ :: g.past = _ :: g'.past ++ before
    rw [h.past, List.cons_append]

theorem Continues.play (h : Continues before g g') (commands : List Command) :
    List.Forall₂ (SameTurn before) (g.play commands) (g'.play commands) := by
  induction commands generalizing g g' with
  | nil => exact .nil
  | cons command rest ih =>
    have hturn := h.takeTurn command
    exact .cons hturn (ih hturn.game)

/-- A game is taken up from a state whose room there is. -/
theorem resume_of_hasRoom {a : Adventure} {s : State} (h : a.world.HasRoom s.room)
    (config : Config) (draws : Draws) :
    resume a config draws s = .ok { new a config draws with state := s } := by
  have hroom := h.ne_none
  rw [resume, World.requireRoom]
  cases hfound : a.world.room? s.room with
  | none => exact absurd hfound hroom
  | some room => rfl

end Game

namespace Script

/-- In a game of a script, the snapshot of any state can be taken up, and
whatever is entered then, the game that goes on from it and the one that it was
taken of have the same turns. -/
theorem Tree.resumes_from_snapshot {tree : Tree} {a : Adventure} (h : tree.compile = .ok a)
    {g : Game} (hgame : g.adventure = a) (hs : a.Reachable g.state) (config : Config) :
    ∃ s g', State.ofSnapshot? g.state.toSnapshot = some s ∧
      Game.resume a config g.draws s = .ok g' ∧ g'.config = config ∧ g'.past = [] ∧
      Game.Continues g.past g g' ∧
      ∀ commands, List.Forall₂ (Game.SameTurn g.past) (g.play commands) (g'.play commands) := by
  have hplaced := (Tree.wellNamed h).wellPlaced_of_reachable hs
  have hresume := Game.resume_of_hasRoom hplaced.room config g.draws
  have hsame : Game.Continues g.past g { Game.new a config g.draws with state := g.state } :=
    ⟨hgame.symm, rfl, rfl, rfl⟩
  exact ⟨g.state, _, g.state.ofSnapshot?_toSnapshot, hresume, rfl, rfl, hsame, hsame.play⟩

theorem Tree.resumes_from_snapshot_sample : ∃ a, Sample.tree.compile = .ok a ∧
    ∀ config draws command, ∃ g, g = ((Game.new a config draws).takeTurn command).game ∧
      ∃ s g', State.ofSnapshot? g.state.toSnapshot = some s ∧
        Game.resume a config g.draws s = .ok g' ∧ g'.config = config ∧ g'.past = [] ∧
        Game.Continues g.past g g' ∧
        ∀ commands, List.Forall₂ (Game.SameTurn g.past) (g.play commands) (g'.play commands) := by
  obtain ⟨a, ha, -⟩ : ∃ a, Sample.tree.compile = .ok a ∧ true = true :=
    Tree.exists_of_compilesTo (by decide +kernel)
  refine ⟨a, ha, fun config draws command => ⟨_, rfl, ?_⟩⟩
  have hreach := Game.reachable_takeTurn (g := Game.new a config draws) .start command
  exact Tree.resumes_from_snapshot ha (Game.adventure_takeTurn _ command) hreach config

end Script
end TextAdventure
