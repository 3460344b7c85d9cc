/-
Input: lines, and the commands that are read from them.
-/
import TextAdventure.Listing
import TextAdventure.Vocabulary

namespace TextAdventure

open Text

/-- A line of input, or why there is none to read. -/
abbrev Line := Except Unreadable String

def lineOfBytes (bytes : List UInt8) : Line :=
  match decode bytes with
  | some line => .ok line
  | none => .error .notText

def linesOfBytes (bytes : List UInt8) : List Line :=
  (byteLines bytes).map lineOfBytes

/-- A way to read commands, one from a line. -/
structure Input where
  /-- What is shown before a line is read. -/
  prompt : List Shown
  /-- What is shown for a line, and its command.  Other lines are skipped. -/
  take : String → Option (List Shown × Command)

namespace Input

/-- Lines without words are skipped. -/
def plain (v : Vocabulary) : Input where
  prompt := []
  take line := if (v.parse line).isEmpty then none else some ([], v.parse line)

/-- Blank lines are skipped.  One who types is prompted; lines that come from a
file are shown after the prompt, as if they had been typed. -/
def console (v : Vocabulary) (typed : Bool) : Input where
  prompt := if typed then [.text "> "] else []
  take line :=
    if trim line = "" then none
    else some (if typed then [] else [.text s!"> {trim line}\n"], v.parse (trim line))

/-- The next command, if there is one, and the lines left after it. -/
def next (input : Input) : List Line → Except Fault (Option Command) × List Line
  | [] => (.ok none, [])
  | .error cause :: rest => (.error (.unreadable cause), rest)
  | .ok line :: rest =>
    match input.take line with
    | none => input.next rest
    | some (_, command) => (.ok (some command), rest)

/-- The commands up to the end of input, or to the first line that cannot be
read. -/
def commands (input : Input) : List Line → List Command × Option Fault
  | [] => ([], none)
  | .error cause :: _ => ([], some (.unreadable cause))
  | .ok line :: rest =>
    match input.take line with
    | none => input.commands rest
    | some (_, command) =>
      let (others, fault) := input.commands rest
      (command :: others, fault)

end Input

end TextAdventure
