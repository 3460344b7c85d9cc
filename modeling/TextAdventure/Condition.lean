/-
Conditions: what must hold for a rule to apply.
-/
import TextAdventure.Command
import TextAdventure.Draws
import TextAdventure.State

namespace TextAdventure

open Text

inductive Comparison where
  | eq
  | ne
  | lt
  | le
  | gt
  | ge
  deriving DecidableEq

namespace Comparison

def holds : Comparison → Int64 → Int64 → Bool
  | .eq, a, b => a == b
  | .ne, a, b => a != b
  | .lt, a, b => decide (a < b)
  | .le, a, b => decide (a ≤ b)
  | .gt, a, b => decide (b < a)
  | .ge, a, b => decide (b ≤ a)

def text : Comparison → String
  | .eq => "="
  | .ne => "!="
  | .lt => "<"
  | .le => "<="
  | .gt => ">"
  | .ge => ">="

end Comparison

inductive Condition where
  | word (position : Nat) (word : Word)
  | unrecognized (position : Nat)
  | here (item : String)
  | carrying (item : String)
  /-- The item is here or carried. -/
  | present (item : String)
  | inRoom (room : String)
  | exit (direction : Word)
  /-- There is an exit in the direction of the word at `position`. -/
  | exitWord (position : Nat)
  | random (percent : Nat)
  | moved (item : String)
  | inPlay (item : String)
  | flag (name : String)
  | counter (name : String) (comparison : Comparison) (value : Int64)
  | string (name value : String)
  /-- No more turns than `limit` have been started. -/
  | times (limit : Nat)
  | not (condition : Condition)
  | all (conditions : List Condition)
  | any (conditions : List Condition)
  | always

/-- What a rule sees of a turn, apart from the state and the draws. -/
structure Scope where
  world : World
  command : Command

namespace Condition

/-- Whether a percentage is left to chance: nothing is drawn for what never
happens or always does. -/
def byChance (percent : Nat) : Bool := 0 < percent && percent < 100

mutual
/-- Whether a draw may be taken to decide a condition. -/
def mayDraw : Condition → Bool
  | .random percent => byChance percent
  | .not c => mayDraw c
  | .all cs => someMayDraw cs
  | .any cs => someMayDraw cs
  | _ => false

def someMayDraw : List Condition → Bool
  | [] => false
  | c :: rest => mayDraw c || someMayDraw rest
end

mutual
/-- Whether two conditions are written alike, words being compared by name. -/
def same : Condition → Condition → Bool
  | .word p w, .word q v => p == q && w.same v
  | .unrecognized p, .unrecognized q => p == q
  | .here i, .here j => i == j
  | .carrying i, .carrying j => i == j
  | .present i, .present j => i == j
  | .inRoom r, .inRoom s => r == s
  | .exit w, .exit v => w.same v
  | .exitWord p, .exitWord q => p == q
  | .random p, .random q => p == q
  | .moved i, .moved j => i == j
  | .inPlay i, .inPlay j => i == j
  | .flag f, .flag g => f == g
  | .counter n o k, .counter m o' k' => n == m && o == o' && k == k'
  | .string n v, .string m u => n == m && v == u
  | .times l, .times m => l == m
  | .not c, .not d => same c d
  | .all cs, .all ds => sameAll cs ds
  | .any cs, .any ds => sameAll cs ds
  | .always, .always => true
  | _, _ => false

def sameAll : List Condition → List Condition → Bool
  | [], [] => true
  | c :: cs, d :: ds => same c d && sameAll cs ds
  | _, _ => false
end

/- The draws are threaded through the evaluation: what is not evaluated takes
none. -/
mutual
/-- Whether a condition holds, and the draws that are left after it. -/
def holds (v : Scope) (s : State) : Condition → Draws → Bool × Draws
  | .word position w, draws => ((v.command.word position).fits w, draws)
  | .unrecognized position, draws => ((v.command.word position).isUnrecognized, draws)
  | .here item, draws => (s.isHere item, draws)
  | .carrying item, draws => (s.isCarried item, draws)
  | .present item, draws => (s.isHere item || s.isCarried item, draws)
  | .inRoom room, draws => (sameName s.room room, draws)
  | .exit direction, draws => (((v.world.room? s.room).any (·.hasExit direction)), draws)
  | .exitWord position, draws =>
    (((v.world.room? s.room).any (·.hasExit (v.command.word position))), draws)
  | .random percent, draws =>
    if byChance percent then
      let (n, draws) := draws.take
      (decide (n < percent), draws)
    else (decide (0 < percent), draws)
  | .moved item, draws => (s.hasMoved v.world item, draws)
  | .inPlay item, draws => (s.inPlay item, draws)
  | .flag name, draws => (s.flag name, draws)
  | .counter name comparison value, draws => (comparison.holds (s.counter name) value, draws)
  | .string name value, draws => (s.string? name == some value, draws)
  | .times limit, draws => (decide (s.turns.toNat ≤ limit), draws)
  | .not c, draws =>
    let (holds, draws) := holds v s c draws
    (!holds, draws)
  | .all cs, draws => allHold v s cs draws
  | .any cs, draws => someHold v s cs draws
  | .always, draws => (true, draws)

def allHold (v : Scope) (s : State) : List Condition → Draws → Bool × Draws
  | [], draws => (true, draws)
  | c :: rest, draws =>
    match holds v s c draws with
    | (true, draws) => allHold v s rest draws
    | (false, draws) => (false, draws)

def someHold (v : Scope) (s : State) : List Condition → Draws → Bool × Draws
  | [], draws => (false, draws)
  | c :: rest, draws =>
    match holds v s c draws with
    | (true, draws) => (true, draws)
    | (false, draws) => someHold v s rest draws
end

end Condition

end TextAdventure
