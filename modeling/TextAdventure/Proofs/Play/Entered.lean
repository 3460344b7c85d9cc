/-
Two ways to read commands.

The console skips the lines that are blank, and plain input those that have no
words.  A line of punctuation alone is not blank and has no words, so for the
console it is the empty command, which takes a turn.  That is all in which they
differ: the blanks around a line, which the console takes away, are no part of
its tokens.
-/
import TextAdventure.Proofs.Play.Reading

namespace TextAdventure

open Text

/-- Whether every line of a text that is not blank has a word in it. -/
def Worded (text : String) : Prop :=
  ∀ line ∈ (charLines text.toList).map String.ofList,
    trim line ≠ "" → Vocabulary.tokens line ≠ []

instance (text : String) : Decidable (Worded text) :=
  inferInstanceAs (Decidable (∀ line ∈ (charLines text.toList).map String.ofList,
    trim line ≠ "" → Vocabulary.tokens line ≠ []))

namespace Input

/-! ## Commands of a text -/

/-- What an input makes of a line. -/
def command? (input : Input) (line : String) : Option Command :=
  (input.take line).map Prod.snd

theorem silent_take_eq (input : Input) (line : String) :
    input.silent.take line = (input.command? line).map fun command => ([], command) := by
  rw [silent_take, command?, Option.map_map]
  rfl

theorem commands_ok (input : Input) (lines : List String) :
    input.commands (lines.map .ok) = (lines.filterMap input.command?, none) := by
  induction lines with
  | nil => rfl
  | cons line rest ih =>
    rw [List.map_cons, commands]
    cases htake : input.take line with
    | none =>
      have hcommand : input.command? line = none := by rw [command?, htake]; rfl
      rw [List.filterMap_cons_none hcommand, ← ih]
    | some taken =>
      have hcommand : input.command? line = some taken.2 := by rw [command?, htake]; rfl
      rw [List.filterMap_cons_some hcommand, ih]

theorem isEmpty_parse (v : Vocabulary) (line : String) :
    (v.parse line).isEmpty = true ↔ Vocabulary.tokens line = [] := by
  show (List.map _ _).isEmpty = true ↔ _
  rw [List.isEmpty_iff, List.map_eq_nil_iff]

theorem plain_command? (v : Vocabulary) (line : String) :
    (plain v).command? line =
      if Vocabulary.tokens line = [] then none else some (v.parse line) := by
  rw [command?, plain_take]
  by_cases h : Vocabulary.tokens line = []
  · rw [if_pos h, if_pos ((isEmpty_parse v line).2 h)]
    rfl
  · rw [if_neg h, if_neg (mt (isEmpty_parse v line).1 h)]
    rfl

theorem console_command? (v : Vocabulary) (typed : Bool) (line : String) :
    (console v typed).command? line = if trim line = "" then none else some (v.parse line) := by
  rw [command?, console]
  dsimp only
  split
  · rfl
  · rw [Option.map_some, v.parse_trim]

/-- Plain input leaves out the commands without words. -/
theorem plain_command?_eq_filter (v : Vocabulary) (typed : Bool) (line : String) :
    (plain v).command? line = ((console v typed).command? line).filter (!·.isEmpty) := by
  rw [plain_command?, console_command?]
  by_cases hblank : trim line = ""
  · rw [if_pos hblank, if_pos (Vocabulary.tokens_of_blank hblank)]
    rfl
  · rw [if_neg hblank, Option.filter_some]
    by_cases hempty : Vocabulary.tokens line = []
    · rw [if_pos hempty, (isEmpty_parse v line).2 hempty]
      rfl
    · rw [if_neg hempty, Bool.eq_false_iff.2 (mt (isEmpty_parse v line).1 hempty)]
      rfl

theorem console_command?_eq_plain (v : Vocabulary) (typed : Bool) {line : String}
    (h : trim line ≠ "" → Vocabulary.tokens line ≠ []) :
    (console v typed).command? line = (plain v).command? line := by
  rw [plain_command?, console_command?]
  by_cases hblank : trim line = ""
  · rw [if_pos hblank, if_pos (Vocabulary.tokens_of_blank hblank)]
  · rw [if_neg hblank, if_neg (h hblank)]

variable (v : Vocabulary) (typed : Bool) (lines : List String)

theorem filter_commands :
    ((console v typed).commands (lines.map .ok)).1.filter (!·.isEmpty) =
      ((plain v).commands (lines.map .ok)).1 := by
  rw [commands_ok, commands_ok, List.filter_filterMap]
  exact List.filterMap_congr fun line _ => (plain_command?_eq_filter v typed line).symm

/-- The commands are the same exactly if no line without words counts. -/
theorem commands_eq_iff :
    (console v typed).commands (lines.map .ok) = (plain v).commands (lines.map .ok) ↔
      ∀ line ∈ lines, trim line ≠ "" → Vocabulary.tokens line ≠ [] := by
  refine ⟨fun h line hline hblank hempty => ?_, fun h => ?_⟩
  · have hcommand : v.parse line ∈ lines.filterMap (console v typed).command? := by
      refine List.mem_filterMap.2 ⟨line, hline, ?_⟩
      rw [console_command?, if_neg hblank]
    rw [commands_ok, commands_ok] at h
    rw [(Prod.mk.inj h).1] at hcommand
    obtain ⟨other, -, hother⟩ := List.mem_filterMap.1 hcommand
    rw [plain_command?] at hother
    split at hother
    · exact absurd hother nofun
    · next hfull =>
      rw [← isEmpty_parse v other, Option.some.inj hother, isEmpty_parse] at hfull
      exact hfull hempty
  · rw [commands_ok, commands_ok]
    congr 1
    exact List.filterMap_congr fun line hline => console_command?_eq_plain v typed (h line hline)

end Input

/-! ## Runs -/

namespace Game

/-- A run asks of its input only what it makes of the lines. -/
theorem runFrom_congr {input input' : Input} (hprompt : input.prompt = input'.prompt)
    {lines : List Line} (htake : ∀ line, .ok line ∈ lines → input.take line = input'.take line)
    (g : Game) (played : Nat) : runFrom input g played lines = runFrom input' g played lines := by
  induction lines generalizing g played with
  | nil => rw [runFrom, runFrom, hprompt]
  | cons line rest ih =>
    have hrest := ih fun line hline => htake line (List.mem_cons_of_mem _ hline)
    cases line with
    | error cause => rw [runFrom, runFrom, hprompt]
    | ok text =>
      rw [runFrom, runFrom, htake text List.mem_cons_self, hprompt]
      simp only [hrest]

/-- Runs whose inputs make the same commands of the lines play the same turns. -/
theorem sameCourse_of_command? {input input' : Input} {lines : List Line}
    (h : ∀ line, .ok line ∈ lines → input.command? line = input'.command? line) (g : Game) :
    Ran.SameCourse (g.run input lines) (g.run input' lines) := by
  have hsilent : ∀ line, .ok line ∈ lines → input.silent.take line = input'.silent.take line := by
    intro line hline
    rw [Input.silent_take_eq, Input.silent_take_eq, h line hline]
  have hleft := sameCourse_silent input g 0 lines
  have hright := sameCourse_silent input' g 0 lines
  have hprompt : input.silent.prompt = input'.silent.prompt := rfl
  rw [← runFrom_congr hprompt hsilent] at hright
  exact ⟨hright.game.symm.trans hleft.game, hright.played.symm.trans hleft.played,
    hright.fault.symm.trans hleft.fault⟩

end Game

namespace Input

/-- From a text, plain input reads the commands of the console except the empty
ones.  The console reads an empty one at each line of punctuation alone, so the two
read the same commands exactly if there is no such line; and then they lead any game
through the same turns. -/
theorem console_reads_as_plain (v : Vocabulary) (typed : Bool) (text : String) :
    let lines := linesOfBytes (encode text)
    let onConsole := (console v typed).commands lines
    let inEngine := (plain v).commands lines
    onConsole.2 = none ∧ inEngine.2 = none ∧ inEngine.1 = onConsole.1.filter (!·.isEmpty) ∧
      (onConsole = inEngine ↔ Worded text) ∧
      (Worded text → ∀ g : Game,
        Ran.SameCourse (g.run (plain v) lines) (g.run (console v typed) lines)) := by
  intro lines onConsole inEngine
  have hlines : lines = ((charLines text.toList).map String.ofList).map .ok := by
    rw [List.map_map]
    exact linesOfBytes_encode text
  refine ⟨?_, ?_, ?_, ?_, fun hworded g => ?_⟩
  · show ((console v typed).commands lines).2 = none
    rw [hlines, commands_ok]
  · show ((plain v).commands lines).2 = none
    rw [hlines, commands_ok]
  · show ((plain v).commands lines).1 = ((console v typed).commands lines).1.filter _
    rw [hlines, filter_commands]
  · show (console v typed).commands lines = (plain v).commands lines ↔ _
    rw [hlines]
    exact commands_eq_iff v typed _
  · refine Game.sameCourse_of_command? (fun line hline => ?_) g
    rw [hlines, List.mem_map_of_injective fun _ _ => Except.ok.inj] at hline
    exact (console_command?_eq_plain v typed (hworded line hline)).symm

theorem console_reads_as_plain_sample :
    let text := "\n   \nTake the lamp!\n"
    let lines := linesOfBytes (encode text)
    Worded text ∧ (console .empty false).commands lines = (plain .empty).commands lines ∧
      ∀ g : Game,
        Ran.SameCourse (g.run (plain .empty) lines) (g.run (console .empty false) lines) := by
  intro text lines
  have hworded : Worded text := by decide +kernel
  obtain ⟨-, -, -, hiff, hruns⟩ := console_reads_as_plain .empty false text
  exact ⟨hworded, hiff.2 hworded, hruns hworded⟩

/-- A line of exclamation marks is a command at the console only. -/
theorem console_reads_more :
    ¬ ∀ (v : Vocabulary) (text : String),
      (console v false).commands (linesOfBytes (encode text)) =
        (plain v).commands (linesOfBytes (encode text)) := by
  intro h
  have hlength := congrArg (fun read => read.1.length) (h .empty "!!!\nlook\n")
  exact absurd hlength (by decide +kernel)

end Input

end TextAdventure
