/-
The command line: files, standard input and standard output.
-/
import TextAdventure.Console

namespace TextAdventure
namespace Main

open Console

def usage : String :=
  "usage: adventure check FILE\n" ++
  "       adventure inspect FILE\n" ++
  "       adventure play FILE [--script FILE] [--seed N] [--max-turns N] [--no-look]\n"

/-- The code of the fault that a folder was read as a file. -/
def folderCode : UInt32 := 21

/-- Where a path leads.  What cannot be read is taken to be missing. -/
def contents (path : String) : IO (Except PathFault Node) :=
  try
    let bytes ← IO.FS.readBinFile path
    return .ok (.file bytes.toList)
  catch
    | .inappropriateType _ code _ =>
      return if code = folderCode then .ok (.folder []) else .error .notFolder
    | .invalidArgument .. => return .error .nameTooLong
    | _ => return .error .missing

def display (text : String) : IO Unit := do
  let output ← IO.getStdout
  output.putStr text
  output.flush

/-- Print an answer, and return its exit code. -/
def report (answer : Answer) : IO UInt32 := do
  display answer.shown
  for d in answer.diagnostics do
    IO.eprintln s!"{d.text} (bytes {d.span.start} to {d.span.stop})"
  match answer.errorLine with
  | some line => IO.eprintln line
  | none => pure ()
  return answer.code.toUInt32

/-- Play on with one who types.  The prompt for a line has been shown when the
line is read, so it is not shown again with what answers the line. -/
partial def converse (input : Input) (game : Game) (played : Nat) : IO UInt32 := do
  if game.stops played then report (.success (farewell game played))
  else
    let line ← (← IO.getStdin).getLine
    if line.isEmpty then report (.success (farewell game played))
    else
      let ran := game.runFrom input played [.ok line]
      let shown := onConsole (ran.shown.drop input.prompt.length)
      match ran.fault with
      | some fault => report (.failed shown fault.message)
      | none =>
        display shown
        converse input ran.game ran.played

def playTyped (options : PlayOptions) (entropy : UInt64) (adventure : Adventure) : IO UInt32 := do
  let game := newGame adventure options entropy
  let input := Input.console adventure.vocabulary true
  match game.opening with
  | .error fault => report (.failed "" fault.message)
  | .ok shown =>
    display (onConsole (shown ++ (game.runFrom input 0 []).shown))
    converse input game 0

def run (request : Request) : IO UInt32 := do
  let entropy := UInt64.ofNat (← IO.rand 0 (UInt64.size - 1))
  match request with
  | .check path =>
    let source ← contents path
    report (answer (fun _ => source) [] entropy request)
  | .inspect path =>
    let source ← contents path
    report (answer (fun _ => source) [] entropy request)
  | .play path options =>
    let source ← contents path
    match load (fun _ => source) [] path with
    | .error answer => report answer
    | .ok adventure =>
      match options.script with
      | none => playTyped options entropy adventure
      | some script =>
        let commands ← contents script
        report (play (fun _ => commands) [] entropy options adventure)

end Main
end TextAdventure

def main (args : List String) : IO UInt32 := do
  match TextAdventure.Console.Request.ofArguments? args with
  | some request => TextAdventure.Main.run request
  | none =>
    IO.eprint TextAdventure.Main.usage
    return 2
