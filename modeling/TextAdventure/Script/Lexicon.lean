/-
The words of a script: those it declares, and those it merely uses.
-/
import TextAdventure.Script.Tree
import TextAdventure.Vocabulary

namespace TextAdventure
namespace Script

/-! ## Declared words -/

def ItemDecl.aliases (decl : ItemDecl) : List String :=
  decl.clauses.filterMap fun clause =>
    match clause.node with
    | .otherName name => some name
    | _ => none

/-- The word that a declaration adds.  An item is a word if it has aliases. -/
def Declaration.word? : Declaration → Option NamedWord
  | .word decl => some (.withSynonyms decl.name.node decl.synonyms)
  | .item decl =>
    if decl.aliases.isEmpty then none
    else some (.withSynonyms decl.name.node decl.aliases)
  | _ => none

/-- The words that a script declares. -/
def Tree.lexicon (tree : Tree) : Vocabulary :=
  .ofList (tree.declarations.filterMap (·.node.word?))

/-- The declared word that a token stands for, or else a word of its own. -/
def wordFor (lexicon : Vocabulary) (token : String) : NamedWord :=
  (lexicon.find? token).getD (.ofName token)

/-! ## Used words -/

namespace Pattern

def mentions : Pattern → List String
  | .word token => [token]
  | .any => []
  | .none => []
  | .list tokens => tokens

end Pattern

namespace Atom

def mentions : Atom → List String
  | .word _ pattern => pattern.node.mentions
  | .exit direction => [direction]
  | _ => []

end Atom

namespace Guard

mutual
def mentions : Guard → List String
  | .atom a _ => a.mentions
  | .not inner _ => mentions inner
  | .and parts _ => mentionsOf parts
  | .or parts _ => mentionsOf parts

def mentionsOf : List Guard → List String
  | [] => []
  | g :: rest => mentions g ++ mentionsOf rest
end

end Guard

namespace Step

def mentions : Step → List String
  | .go direction => [direction]
  | _ => []

end Step

namespace RuleBody

def mentions (body : RuleBody) : List String :=
  Guard.mentionsOf body.guards ++ body.clauses.flatten.flatMap (·.node.mentions)

end RuleBody

namespace Declaration

/-- The directions of a room's exits. -/
def exitMentions : Declaration → List String
  | .room decl => decl.exits.map (·.direction.node)
  | _ => []

def ruleMentions : Declaration → List String
  | .action decl =>
    decl.verb.node.mentions ++ (decl.noun.elim [] (·.node.mentions)) ++ decl.body.mentions
  | .occurs body => body.mentions
  | _ => []

end Declaration

namespace Tree

/-- The tokens that a script uses as words: its exits first, then its rules. -/
def mentions (tree : Tree) : List String :=
  tree.declarations.flatMap (·.node.exitMentions)
    ++ tree.declarations.flatMap (·.node.ruleMentions)

/-- The words that an adventure knows: what the script declares, and after
that what it uses. -/
def vocabulary (tree : Tree) : Vocabulary :=
  tree.lexicon.merge (.ofList (tree.mentions.map (wordFor tree.lexicon)))

end Tree

end Script
end TextAdventure
