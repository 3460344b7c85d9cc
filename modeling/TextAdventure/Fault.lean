/-
What can go wrong when a world is built and when an adventure is played.
-/

namespace TextAdventure

inductive Unreadable where
  | notText
  | folder
  deriving DecidableEq

def Unreadable.message : Unreadable → String
  | .notText => "stream did not contain valid UTF-8"
  | .folder => "Is a directory (os error 21)"

inductive Fault where
  | duplicateRoom (name : String)
  | duplicateItem (name : String)
  | unknownRoom (name : String)
  | unknownItem (name : String)
  /-- A fixed item was to be carried. -/
  | notPortable (item : String)
  /-- A room was to be left by an exit that it does not have. -/
  | noExit (room direction : String)
  | unknownStart (name : String)
  /-- A turn was asked for after the game had ended. -/
  | gameOver
  /-- A line of input cannot be read. -/
  | unreadable (cause : Unreadable)
  deriving DecidableEq

namespace Fault

def message : Fault → String
  | .duplicateRoom name => s!"room already exists: \"{name}\""
  | .duplicateItem name => s!"item already exists: \"{name}\""
  | .unknownRoom name => s!"room not found: \"{name}\""
  | .unknownItem name => s!"item not found: \"{name}\""
  | .notPortable item => s!"item \"{item}\" is not portable and cannot be carried"
  | .noExit room direction => s!"there is no exit {direction} from \"{room}\""
  | .unknownStart name => s!"start room not found: \"{name}\""
  | .gameOver => "the game has ended"
  | .unreadable cause => s!"input error: {cause.message}"

end Fault

end TextAdventure
