/-
The arguments of the command line.
-/
import TextAdventure.Text.Digits

namespace TextAdventure
namespace Console

open Text

structure PlayOptions where
  /-- The file that commands are read from, if they are not typed. -/
  script : Option String
  seed : Option Nat
  maxTurns : Option Nat
  look : Bool
  deriving DecidableEq

inductive Request where
  | check (file : String)
  | inspect (file : String)
  | play (file : String) (options : PlayOptions)
  deriving DecidableEq

/-- Arguments by what they say, each as often as it is said. -/
structure Arguments where
  files : List String
  scripts : List String
  seeds : List Nat
  limits : List Nat
  noLooks : List Unit
  deriving DecidableEq

namespace Arguments

def none : Arguments := ⟨[], [], [], [], []⟩

def addFile (path : List Char) (a : Arguments) : Arguments :=
  { a with files := String.ofList path :: a.files }

def addScript (path : List Char) (a : Arguments) : Arguments :=
  { a with scripts := String.ofList path :: a.scripts }

def addOption (name value : List Char) (a : Arguments) : Option Arguments :=
  match String.ofList name with
  | "script" => some (a.addScript value)
  | "seed" => (wordOfDigits value).map fun n => { a with seeds := n :: a.seeds }
  | "max-turns" => (wordOfDigits value).map fun n => { a with limits := n :: a.limits }
  | _ => Option.none

/-- Whether an argument can be the value of the option before it. -/
def isValue : List Char → Bool
  | '-' :: _ :: _ => false
  | _ => true

/-- Read arguments one by one.  The value of an option is part of its argument
or else the argument after it. -/
def read : List (List Char) → Option Arguments
  | [] => some none
  | ['-', '-'] :: rest => some (rest.foldr addFile none)
  | ('-' :: '-' :: option) :: rest =>
    if option = "no-look".toList then
      (read rest).map fun a => { a with noLooks := () :: a.noLooks }
    else
      match option.dropWhile (· != '='), rest with
      | _ :: value, rest => (read rest).bind (addOption (option.takeWhile (· != '=')) value)
      | [], value :: rest =>
        if isValue value then (read rest).bind (addOption option value) else Option.none
      | [], [] => Option.none
  | ['-', 's'] :: value :: rest =>
    if isValue value then (read rest).map (addScript value) else Option.none
  | ('-' :: 's' :: '=' :: value) :: rest => (read rest).map (addScript value)
  | ('-' :: 's' :: c :: value) :: rest => (read rest).map (addScript (c :: value))
  | ('-' :: _ :: _) :: _ => Option.none
  | path :: rest => (read rest).map (addFile path)

/-- What is given once, if it is given at all. -/
def atMostOne {α : Type} : List α → Option (Option α)
  | [] => some Option.none
  | [value] => some (some value)
  | _ => Option.none

/-- Whether every path that is given says something. -/
def hasPaths (a : Arguments) : Bool := !(a.files ++ a.scripts).any String.isEmpty

def isFileAlone (a : Arguments) : Bool :=
  a == { none with files := a.files }

def options? (a : Arguments) : Option PlayOptions := do
  let script ← atMostOne a.scripts
  let seed ← atMostOne a.seeds
  let maxTurns ← atMostOne a.limits
  let noLook ← atMostOne a.noLooks
  return ⟨script, seed, maxTurns, noLook.isNone⟩

def request? (subcommand : String) (a : Arguments) : Option Request :=
  if !a.hasPaths then Option.none
  else match subcommand, a.files with
  | "check", [path] => if a.isFileAlone then some (.check path) else Option.none
  | "inspect", [path] => if a.isFileAlone then some (.inspect path) else Option.none
  | "play", [path] => a.options?.map (.play path)
  | _, _ => Option.none

end Arguments

def Request.ofArguments? : List String → Option Request
  | [] => none
  | subcommand :: args =>
    (Arguments.read (args.map String.toList)).bind (Arguments.request? subcommand)

end Console
end TextAdventure
