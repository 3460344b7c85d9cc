/-
The grammar of scripts.
-/
import TextAdventure.Script.Reader
import TextAdventure.Script.Tree

namespace TextAdventure
namespace Script
namespace Grammar

open Reader

/-! ## Names and numbers -/

/-- The words that must be quoted to be the name of a room or an item. -/
def isReserved (w : String) : Bool :=
  ["room", "item", "word", "action", "occurs", "start", "when", "then", "and", "or", "not",
    "any", "none", "self", "here", "nowhere", "inventory"].contains w

/-- The words that are not words of a pattern. -/
def endsPattern (w : String) : Bool :=
  ["room", "item", "word", "action", "occurs", "start", "when", "then", "any",
    "none"].contains w

def identifier : Reader String := take fun
  | .word w => some w
  | _ => none

def string : Reader String := take fun
  | .string s => some s
  | _ => none

def integer : Reader Int64 := take fun
  | .integer n => some n
  | _ => none

def comparison : Reader Comparison := take fun
  | .compare c => some c
  | _ => none

def name : Reader (Spanned String) := spanned (take fun
  | .word w => if isReserved w then none else some w
  | .string s => some s
  | _ => none)

def keyword (w : String) : Reader Unit := expect (.word w)

def startsString : Token → Bool
  | .string _ => true
  | _ => false

def description : Reader (Option String) := do
  match ← peek with
  | some (.string _) => some <$> string
  | _ => return none

def place : Reader Place := do
  match ← peek with
  | some (.word "nowhere") =>
    keyword "nowhere"
    return .nowhere
  | some (.word "inventory") =>
    keyword "inventory"
    return .inventory
  | _ => .room <$> name

/-- Whether `word` and a position come next.  Then they are not the direction
that `word` would be alone. -/
def wordPositionAhead : Reader Bool := fun c =>
  match c.ahead with
  | ⟨.word "word", _⟩ :: ⟨.integer _, _⟩ :: _ => .done true c
  | _ => .done false c

/-! ## Patterns -/

def patternWord : Reader String := take fun
  | .word w => if endsPattern w then none else some w
  | _ => none

def startsPattern : Token → Bool
  | .leftBracket => true
  | .word w => w == "any" || w == "none" || !endsPattern w
  | _ => false

def pattern : Reader (Spanned Pattern) := spanned do
  match ← peek with
  | some (.word "any") =>
    keyword "any"
    return .any
  | some (.word "none") =>
    keyword "none"
    return .none
  | some .leftBracket =>
    expect .leftBracket
    let first ← patternWord
    let others ← many (· == .comma) do
      expect .comma
      patternWord
    expect .rightBracket
    return .list (first :: others)
  | _ => .word <$> patternWord

/-! ## Conditions -/

def atoms : Keywords Atom
  | "word" => some do
    let position ← spanned integer
    let pattern ← pattern
    return .word position pattern
  | "unrecognized" => some (.unrecognized <$> spanned integer)
  | "here" => some (.here <$> name)
  | "carrying" => some (.carrying <$> name)
  | "present" => some (.present <$> name)
  | "in" => some (.inRoom <$> name)
  | "exit" => some do
    if ← wordPositionAhead then
      keyword "word"
      .exitWord <$> spanned integer
    else .exit <$> identifier
  | "random" => some (.random <$> spanned integer)
  | "moved" => some (.moved <$> name)
  | "exists" => some (.inPlay <$> name)
  | "flag" => some (.flag <$> identifier)
  | "counter" => some do
    let name ← identifier
    let comparison ← comparison
    let value ← integer
    return .counter name comparison value
  | "string" => some do
    let name ← identifier
    expect (.compare .eq)
    let value ← string
    return .string name value
  | "times" => some (.times <$> spanned integer)
  | "always" => some (return .always)
  | _ => none

def startsGuard : Token → Bool
  | .leftParen => true
  | .word w => w == "not" || (atoms w).isSome
  | _ => false

/-- One condition or several, of which one must hold. -/
def disjunction (unary : Reader Guard) : Reader Guard := do
  let ⟨(first, others), span⟩ ← spanned do
    let first ← unary
    let others ← many (· == .word "or") do
      keyword "or"
      unary
    return (first, others)
  match others with
  | [] => return first
  | _ => return .or (first :: others) span

/-- Conditions in parentheses, all of which must hold.  A single one stands
where its parentheses do. -/
def group (inner : Reader Guard) : Reader Guard := do
  let ⟨(first, others), span⟩ ← spanned do
    expect .leftParen
    let first ← inner
    let others ← many (· == .word "and") do
      keyword "and"
      inner
    expect .rightParen
    return (first, others)
  match others with
  | [] => return first.moveTo span
  | _ => return .and (first :: others) span

/-- A condition without `or`, in which `not` and parentheses are nested to at
most the given depth. -/
def unaryUpTo : Nat → Reader Guard
  | 0 => fail
  | depth + 1 => do
    match ← peek with
    | some (.word "not") =>
      let ⟨inner, span⟩ ← spanned do
        keyword "not"
        unaryUpTo depth
      return .not inner span
    | some .leftParen => group (disjunction (unaryUpTo depth))
    | _ =>
      let ⟨atom, span⟩ ← spanned (choose atoms)
      return .atom atom span

/-- A condition.  What is nested takes a token for each level, so the tokens
that are left bound its depth. -/
def guard : Reader Guard := fun c =>
  disjunction (unaryUpTo c.ahead.length) c

/-- The conditions of a rule, which stand side by side or with `and` between
them. -/
def guards : Reader (List Guard) := do
  if ← nextIs (.word "when") then
    keyword "when"
    let first ← guard
    let others ← many (fun t => t == .word "and" || startsGuard t) do
      if ← nextIs (.word "and") then keyword "and"
      guard
    return first :: others
  else return []

/-! ## Steps -/

def flagSteps : Keywords Step
  | "set" => some (.setFlag <$> identifier)
  | "reset" => some (.resetFlag <$> identifier)
  | _ => none

def counterSteps : Keywords Step
  | "set" => some do
    let name ← identifier
    let value ← integer
    return .setCounter name value
  | "increment" => some (.increment <$> identifier)
  | "decrement" => some (.decrement <$> identifier)
  | "reset" => some (.resetCounter <$> identifier)
  | _ => none

def stringSteps : Keywords Step
  | "set" => some do
    let name ← identifier
    let value ← string
    return .setString name value
  | _ => none

def putSteps (item : Spanned String) : Keywords Step
  | "here" => some (return .putHere item)
  | "in" => some (.put item <$> place)
  | _ => none

def steps : Keywords Step
  | "print" => some (.print <$> string)
  | "println" => some (.println <$> string)
  | "look" => some (return .look)
  | "inventory" => some (return .inventory)
  | "quit" => some (return .quit)
  | "go" => some do
    if ← wordPositionAhead then
      keyword "word"
      .goWord <$> spanned integer
    else .go <$> identifier
  | "goto" => some (.goto <$> name)
  | "get" => some (.get <$> name)
  | "drop" => some (.drop <$> name)
  | "put" => some do
    let item ← name
    choose (putSteps item)
  | "swap" => some do
    let a ← name
    let b ← name
    return .swap a b
  | "destroy" => some (.destroy <$> name)
  | "flag" => some (choose flagSteps)
  | "counter" => some (choose counterSteps)
  | "string" => some (choose stringSteps)
  | _ => none

/-- A `then` clause: one step at least. -/
def clause : Reader (List (Spanned Step)) := do
  keyword "then"
  let first ← spanned (choose steps)
  let others ← many (Keywords.starts steps) (spanned (choose steps))
  return first :: others

def ruleBody : Reader RuleBody := do
  let guards ← guards
  let first ← clause
  let others ← many (· == .word "then") clause
  return ⟨guards, first :: others⟩

/-! ## Declarations -/

def exitClause : Reader ExitClause := do
  keyword "exit"
  let direction ← spanned identifier
  if ← nextIs .arrow then
    expect .arrow
    if ← nextIs (.word "self") then
      keyword "self"
      return ⟨direction, none⟩
    else return ⟨direction, some (← name)⟩
  else return ⟨direction, none⟩

def roomDecl : Reader RoomDecl := do
  let name ← name
  let description ← description
  let exits ← many (· == .word "exit") exitClause
  return ⟨name, description, exits⟩

def itemClauses : Keywords ItemClause
  | "alias" => some (.otherName <$> string)
  | "portable" => some (return .portable)
  | "in" => some (.inPlace <$> place)
  | _ => none

def itemDecl : Reader ItemDecl := do
  let name ← name
  let description ← description
  let clauses ← many (Keywords.starts itemClauses) (spanned (choose itemClauses))
  return ⟨name, description, clauses⟩

def wordDecl : Reader WordDecl := do
  let name ← spanned identifier
  let synonyms ← many startsString string
  return ⟨name, synonyms⟩

def actionDecl : Reader ActionDecl := do
  let verb ← pattern
  let noun ←
    match ← peek with
    | some t => if startsPattern t then some <$> pattern else Reader.pure none
    | none => Reader.pure none
  let body ← ruleBody
  return ⟨verb, noun, body⟩

def declarations : Keywords Declaration
  | "room" => some (.room <$> roomDecl)
  | "item" => some (.item <$> itemDecl)
  | "word" => some (.word <$> wordDecl)
  | "action" => some (.action <$> actionDecl)
  | "occurs" => some (.occurs <$> ruleBody)
  | "start" => some (.start <$> name)
  | _ => none

def finish : Reader Unit := fun c =>
  match c.ahead with
  | [] => .done () c
  | _ :: _ => .stuck c

def script : Reader Tree := do
  let declarations ← many (Keywords.starts declarations) (spanned (choose declarations))
  finish
  return ⟨declarations⟩

end Grammar

/-- What is said of a token that cannot be read. -/
def unexpected (c : Cursor) : Spanned String :=
  match c.ahead with
  | [] => ⟨"found end of input", ⟨c.stop, c.stop⟩⟩
  | t :: _ => ⟨s!"found '{t.node.text}'", t.span⟩

/-- The tree of a script, or what is unexpected in it. -/
def Tree.ofTokens (tokens : List (Spanned Token)) : Except (Spanned String) Tree :=
  match Grammar.script ⟨0, tokens⟩ with
  | .done tree _ => .ok tree
  | .stuck cursor => .error (unexpected cursor)

end Script
end TextAdventure
