/-
What the command line answers to a request.
-/
import TextAdventure.Console.Arguments
import TextAdventure.Console.Folder
import TextAdventure.Console.Overview
import TextAdventure.Draws.Seeded
import TextAdventure.Game
import TextAdventure.Script.Compile

namespace TextAdventure
namespace Console

open Text

abbrev Files := String → Except PathFault Node

structure Answer where
  shown : String
  diagnostics : List Script.Diagnostic
  failure : Option String

namespace Answer

def success (shown : String) : Answer := ⟨shown, [], none⟩

def failed (shown message : String) : Answer := ⟨shown, [], some message⟩

def code (a : Answer) : Nat := if a.failure.isSome then 1 else 0

def errorLine (a : Answer) : Option String := a.failure.map fun message => s!"error: {message}"

end Answer

def cannotRead (path why : String) : String := s!"cannot read {path}: {why}"

/-- A syntax error is told in full, other errors are counted. -/
def compileFailure : Script.CompileError → String
  | .invalid diagnostics =>
    let plural := if diagnostics.length = 1 then "" else "s"
    s!"compilation failed with {diagnostics.length} error{plural}"
  | error => error.message

/-- The text of a file, or why it cannot be read. -/
def textOf (typed : List UInt8) (node : Node) : Except Unreadable String :=
  match node.bytes? typed with
  | none => .error .folder
  | some bytes => lineOfBytes bytes

/-- The adventure in a file, or the answer that there is none. -/
def load (files : Files) (typed : List UInt8) (path : String) : Except Answer Adventure :=
  match files path with
  | .error fault => .error (.failed "" (cannotRead path fault.message))
  | .ok node =>
    match textOf typed node with
    | .error cause => .error (.failed "" (cannotRead path cause.message))
    | .ok source =>
      match Script.compile source with
      | .ok adventure => .ok adventure
      | .error error => .error ⟨"", error.diagnostics, some (compileFailure error)⟩

def check (path : String) (a : Adventure) : Answer :=
  .success (s!"  All checks passed for '{path}'.\n" ++ counts a)

def onConsole (shown : List Shown) : String :=
  String.join (shown.map Shown.onConsole)

/-- A game with the options that were given.  The seed is made up by the
caller where none was given. -/
def newGame (a : Adventure) (options : PlayOptions) (entropy : UInt64) : Game :=
  let seed := (options.seed.map UInt64.ofNat).getD entropy
  .new a ⟨options.maxTurns, options.look⟩ (Draws.seeded seed)

def farewell (g : Game) (played : Nat) : String :=
  if g.state.running then "" else s!"\n  Game over after {played} turns.\n"

/-- What a run answers, after what was shown before it. -/
def ofRun (before : String) (r : Ran) : Answer :=
  let shown := before ++ onConsole r.shown
  match r.fault with
  | some fault => .failed shown fault.message
  | none => .success (shown ++ farewell r.game r.played)

/-- The lines of a file.  A folder is found out when its first line is read. -/
def linesOf (typed : List UInt8) (node : Node) : List Line :=
  match node.bytes? typed with
  | none => [.error .folder]
  | some bytes => linesOfBytes bytes

/-- Play an adventure.  The room is described before the file of commands is
looked for. -/
def play (files : Files) (typed : List UInt8) (entropy : UInt64) (options : PlayOptions)
    (a : Adventure) : Answer :=
  let game := newGame a options entropy
  match game.opening with
  | .error fault => .failed "" fault.message
  | .ok shown =>
    let before := onConsole shown
    match options.script with
    | none => ofRun before (game.run (.console a.vocabulary true) (linesOfBytes typed))
    | some path =>
      match files path with
      | .error fault => .failed before (cannotRead path fault.message)
      | .ok node => ofRun before (game.run (.console a.vocabulary false) (linesOf typed node))

/-- What is left to be typed once the adventure has been read. -/
def leftTyped (files : Files) (typed : List UInt8) (path : String) : List UInt8 :=
  match files path with
  | .error _ => typed
  | .ok node => node.unread typed

def answer (files : Files) (typed : List UInt8) (entropy : UInt64) : Request → Answer
  | .check path =>
    match load files typed path with
    | .error answer => answer
    | .ok a => check path a
  | .inspect path =>
    match load files typed path with
    | .error answer => answer
    | .ok a => .success (overview a)
  | .play path options =>
    match load files typed path with
    | .error answer => answer
    | .ok a => play files (leftTyped files typed path) entropy options a

end Console
end TextAdventure
