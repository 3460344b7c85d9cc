/-
Files in folders, and where a path leads.
-/
import TextAdventure.Text.Blank

namespace TextAdventure
namespace Console

open Text

inductive Node where
  | file (bytes : List UInt8)
  /-- The standard input.  What has been read of it is gone. -/
  | input
  | folder (entries : List (String × Node))

inductive PathFault where
  | missing
  /-- A step was to be taken from a file. -/
  | notFolder
  | nameTooLong
  deriving DecidableEq

namespace PathFault

def message : PathFault → String
  | .missing => "No such file or directory (os error 2)"
  | .notFolder => "Not a directory (os error 20)"
  | .nameTooLong => "File name too long (os error 36)"

end PathFault

/-- The most bytes that a name may have. -/
def longestName : Nat := 255

/-- The most bytes that a path may have. -/
def longestPath : Nat := 4095

namespace Node

/-- The bytes that a file gives, where `typed` is what the standard input
still holds.  A folder gives none. -/
def bytes? (typed : List UInt8) : Node → Option (List UInt8)
  | file bytes => some bytes
  | input => some typed
  | folder _ => none

/-- What the standard input holds once a file has been read. -/
def unread (typed : List UInt8) : Node → List UInt8
  | input => []
  | _ => typed

def entries : Node → List (String × Node)
  | folder entries => entries
  | _ => []

def entry? (name : String) (n : Node) : Option Node :=
  (n.entries.find? fun entry => entry.1 == name).map Prod.snd

/-- Put a file where steps lead from a folder.  Folders on the way are made. -/
def put (bytes : List UInt8) : List String → Node → Node
  | [], _ => file bytes
  | name :: steps, n =>
    let inner := put bytes steps ((n.entry? name).getD (folder []))
    folder ((name, inner) :: n.entries.filter fun entry => entry.1 != name)

/-- Where steps lead from `here`, which lies in the folders `above`, the nearest
first.  The outermost folder lies in itself. -/
def walk (above : List Node) (here : Node) : List String → Except PathFault Node
  | [] => .ok here
  | step :: steps =>
    match here with
    | file _ | input => .error .notFolder
    | folder _ =>
      if step = "" ∨ step = "." then walk above here steps
      else if step = ".." then walk above.tail (above.headD here) steps
      else if longestName < step.utf8ByteSize then .error .nameTooLong
      else
        match here.entry? step with
        | none => .error .missing
        | some there => walk (here :: above) there steps

end Node

/-- The steps of a path, which slashes divide. -/
def stepsOf (path : String) : List String :=
  (fields (· == '/') path.toList).map String.ofList

/-- A folder to work in, and the folders that it lies in, the nearest first. -/
structure Place where
  here : Node
  above : List Node

namespace Place

def root (p : Place) : Node := (p.above.getLast?).getD p.here

/-- Where a path leads.  One that begins with a slash starts at the root. -/
def find (p : Place) (path : String) : Except PathFault Node :=
  if path = "" then .error .missing
  else if longestPath < path.utf8ByteSize then .error .nameTooLong
  else if path.toList.head? = some '/' then p.root.walk [] (stepsOf path)
  else p.here.walk p.above (stepsOf path)

end Place

end Console
end TextAdventure
