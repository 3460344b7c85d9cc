/-
The same command in other words.

Two lines that are read as the same words may have been typed with different
tokens.  Rules and exits ask for words, and a vocabulary has one word of a name,
so that the two lines lead to the same turn.  Only messages show the tokens, and
they show them in the places that their templates hold for them.
-/
import TextAdventure.Proofs.Script.Compiled
import TextAdventure.Proofs.Template

namespace TextAdventure

/-! ## Words that are the same -/

namespace Vocabulary

variable {v : Vocabulary}

/-- Tokens that are resolved to words of one name are resolved to one word. -/
theorem resolve_eq_of_same {s t : String} (h : (v.resolve s).same (v.resolve t) = true) :
    v.resolve s = v.resolve t := by
  unfold resolve at h ⊢
  cases hs : v.find? s with
  | none =>
    cases ht : v.find? t with
    | none => rfl
    | some w =>
      rw [hs, ht] at h
      exact absurd h Bool.false_ne_true
  | some w =>
    cases ht : v.find? t with
    | none =>
      rw [hs, ht] at h
      exact absurd h Bool.false_ne_true
    | some u =>
      rw [hs, ht] at h
      have hw := List.mem_of_find?_eq_some hs
      have hu := List.mem_of_find?_eq_some ht
      rw [Script.eq_of_mem_of_same hw hu h]

theorem map_resolve_eq_of_sameWords {ss ts : List String}
    (h : Command.sameWords (ss.map v.resolve) (ts.map v.resolve) = true) :
    ss.map v.resolve = ts.map v.resolve := by
  induction ss generalizing ts with
  | nil =>
    cases ts with
    | nil => rfl
    | cons t ts => exact absurd h Bool.false_ne_true
  | cons s ss ih =>
    cases ts with
    | nil => exact absurd h Bool.false_ne_true
    | cons t ts =>
      obtain ⟨hst, hrest⟩ := Bool.and_eq_true_iff.1 h
      rw [List.map_cons, List.map_cons, resolve_eq_of_same hst, ih hrest]

theorem words_parse_of_same {line line' : String}
    (h : (v.parse line).same (v.parse line') = true) :
    (v.parse line').words = (v.parse line).words :=
  (map_resolve_eq_of_sameWords h).symm

end Vocabulary

theorem Command.word_of_words {c c' : Command} (h : c'.words = c.words) (p : Nat) :
    c'.word p = c.word p := by
  cases p with
  | zero => rfl
  | succ p => rw [word, word, h]

/-! ## Conditions -/

namespace Condition

variable {world : World} {c c' : Command} {s : State}

mutual
/-- A condition asks for words and not for how they were typed. -/
theorem holds_of_words (h : c'.words = c.words) (condition : Condition) (draws : Draws) :
    holds ⟨world, c'⟩ s condition draws = holds ⟨world, c⟩ s condition draws := by
  cases condition with
  | word p w => rw [holds, holds, Command.word_of_words h p]
  | unrecognized p => rw [holds, holds, Command.word_of_words h p]
  | exitWord p => rw [holds, holds, Command.word_of_words h p]
  | not condition => rw [holds, holds, holds_of_words h condition]
  | all cs => exact allHold_of_words h cs draws
  | any cs => exact someHold_of_words h cs draws
  | _ => rfl

theorem allHold_of_words (h : c'.words = c.words) (cs : List Condition) (draws : Draws) :
    allHold ⟨world, c'⟩ s cs draws = allHold ⟨world, c⟩ s cs draws := by
  cases cs with
  | nil => rfl
  | cons condition rest =>
    rw [allHold, allHold, holds_of_words h condition]
    split
    · exact allHold_of_words h rest _
    · rfl

theorem someHold_of_words (h : c'.words = c.words) (cs : List Condition) (draws : Draws) :
    someHold ⟨world, c'⟩ s cs draws = someHold ⟨world, c⟩ s cs draws := by
  cases cs with
  | nil => rfl
  | cons condition rest =>
    rw [someHold, someHold, holds_of_words h condition]
    split
    · rfl
    · exact someHold_of_words h rest _
end

end Condition

/-! ## What is shown -/

/-- The template of the message that an effect prints, and how the message
ends. -/
def Effect.message? : Effect → Option (String × String)
  | .print template => some (template, "")
  | .println template => some (template, "\n")
  | _ => none

/-- Whether two things shown are one, or else the messages that one of some
effects prints for two commands.  Such messages come from the pieces of one
template, so that they differ in the tokens put in their places. -/
inductive Shown.Retold (effects : List Effect) (c c' : Command) : Shown → Shown → Prop
  | same (shown : Shown) : Retold effects c c' shown shown
  | message {e : Effect} {template ending : String} {pieces : List Template.Piece}
      (he : e ∈ effects) (hprints : e.message? = some (template, ending))
      (hspelled : pieces.flatMap Template.Piece.spelled = template.toList) :
      Retold effects c c'
        (.text (String.ofList (pieces.flatMap (Template.Piece.filled c)) ++ ending))
        (.text (String.ofList (pieces.flatMap (Template.Piece.filled c')) ++ ending))

/-- Whether two scenes are at one point, from the same draws, and what was shown
up to them is the same but for the tokens of a command. -/
structure Scene.Retold (effects : List Effect) (c c' : Command) (scene scene' : Scene) : Prop where
  state : scene'.state = scene.state
  draws : scene'.draws = scene.draws
  shown : List.Forall₂ (Shown.Retold effects c c') scene.shown scene'.shown

variable {effects : List Effect} {c c' : Command} {w : World}

theorem Shown.retold_of_message {e : Effect} {template ending : String} (he : e ∈ effects)
    (hprints : e.message? = some (template, ending)) :
    Shown.Retold effects c c' (.text (c.fill template ++ ending))
      (.text (c'.fill template ++ ending)) := by
  rw [c.fill_eq, c'.fill_eq]
  exact .message he hprints (Template.spelled_pieces template.toList)

theorem Scene.Retold.refl (scene : Scene) : Scene.Retold effects c c' scene scene :=
  ⟨rfl, rfl, List.forall₂_same.2 fun shown _ => .same shown⟩

/-! ## Effects -/

namespace Effect

/-- What an effect comes to for two commands: it fails alike, or it leaves one
state and shows the same but for the tokens. -/
inductive Agrees (effects : List Effect) (c c' : Command) :
    Except Fault (State × List Shown) → Except Fault (State × List Shown) → Prop
  | fault (fault : Fault) : Agrees effects c c' (.error fault) (.error fault)
  | done {s : State} {shown shown' : List Shown}
      (hshown : List.Forall₂ (Shown.Retold effects c c') shown shown') :
      Agrees effects c c' (.ok (s, shown)) (.ok (s, shown'))

theorem Agrees.refl (result : Except Fault (State × List Shown)) :
    Agrees effects c c' result result := by
  cases result with
  | error fault => exact .fault fault
  | ok done => exact .done (List.forall₂_same.2 fun shown _ => .same shown)

theorem agrees_apply (h : c'.words = c.words) {e : Effect} (he : e ∈ effects) (s : State) :
    Agrees effects c c' (e.apply w c s) (e.apply w c' s) := by
  cases e with
  | print template =>
    have hmessage : Shown.Retold effects c c' (.text (c.fill template ++ ""))
        (.text (c'.fill template ++ "")) := Shown.retold_of_message he rfl
    rw [String.append_empty, String.append_empty] at hmessage
    exact .done (.cons hmessage .nil)
  | println template => exact .done (.cons (Shown.retold_of_message he rfl) .nil)
  | goWord position =>
    rw [apply, apply, Command.word_of_words h position]
    exact .refl _
  | _ => exact .refl _

end Effect

/-! ## Rules -/

/-- Whether two stretches of a turn answer the same and leave scenes that are
the same but for the tokens of a command. -/
structure Retells {α : Type} (effects : List Effect) (c c' : Command) (x x' : α × Scene) :
    Prop where
  answer : x'.1 = x.1
  scene : Scene.Retold effects c c' x.2 x'.2

theorem Retells.split {α : Type} {x x' : α × Scene} (h : Retells effects c c' x x') :
    ∃ answer after after', x = (answer, after) ∧ x' = (answer, after') ∧
      Scene.Retold effects c c' after after' :=
  ⟨x.1, x.2, x'.2, rfl, Prod.ext h.answer rfl, h.scene⟩

variable {scene scene' : Scene}

theorem Scene.retells_perform (h : c'.words = c.words) {es : List Effect}
    (hes : ∀ e ∈ es, e ∈ effects) (hscene : Scene.Retold effects c c' scene scene') :
    Retells effects c c' (scene.perform w c es) (scene'.perform w c' es) := by
  induction es generalizing scene scene' with
  | nil => exact ⟨rfl, hscene⟩
  | cons e rest ih =>
    obtain ⟨he, hrest⟩ := List.forall_mem_cons.1 hes
    have hagrees := Effect.agrees_apply (w := w) h he scene.state
    rw [perform, perform, hscene.state]
    generalize e.apply w c scene.state = result at hagrees
    generalize e.apply w c' scene.state = result' at hagrees
    cases hagrees with
    | fault fault => exact ⟨rfl, hscene⟩
    | done hshown =>
      exact ih hrest ⟨rfl, hscene.draws, List.rel_append hscene.shown hshown⟩

theorem Rule.retells_run (h : c'.words = c.words) {r : Rule} (hr : ∀ e ∈ r.effects, e ∈ effects)
    (hscene : Scene.Retold effects c c' scene scene') :
    Retells effects c c' (r.run ⟨w, c⟩ scene) (r.run ⟨w, c'⟩ scene') := by
  have hsatisfied : r.isSatisfied ⟨w, c'⟩ scene'.state scene'.draws =
      r.isSatisfied ⟨w, c⟩ scene.state scene.draws := by
    rw [hscene.state, hscene.draws]
    exact Condition.allHold_of_words h r.conditions scene.draws
  rw [run, run, hsatisfied]
  obtain ⟨held, left⟩ := r.isSatisfied ⟨w, c⟩ scene.state scene.draws
  cases held with
  | false => exact ⟨rfl, hscene.state, rfl, hscene.shown⟩
  | true =>
    have hleft : Scene.Retold effects c c' { scene with draws := left }
        { scene' with draws := left } := ⟨hscene.state, rfl, hscene.shown⟩
    obtain ⟨answer, after, after', hx, hx', hafter⟩ :=
      (Scene.retells_perform (w := w) h hr hleft).split
    simp only [hx, hx']
    cases answer with
    | none => exact ⟨rfl, hafter⟩
    | some fault => exact ⟨rfl, hafter⟩

theorem Adventure.retells_tryActions (h : c'.words = c.words) {rules : List Rule}
    (hrules : ∀ r ∈ rules, ∀ e ∈ r.effects, e ∈ effects) (index : Nat)
    (hscene : Scene.Retold effects c c' scene scene') :
    Retells effects c c' (tryActions ⟨w, c⟩ index rules scene)
      (tryActions ⟨w, c'⟩ index rules scene') := by
  induction rules generalizing index scene scene' with
  | nil => exact ⟨rfl, hscene⟩
  | cons r rest ih =>
    obtain ⟨hr, hrest⟩ := List.forall_mem_cons.1 hrules
    obtain ⟨answer, after, after', hx, hx', hafter⟩ :=
      (Rule.retells_run (w := w) h hr hscene).split
    rw [tryActions, tryActions, hx, hx']
    cases answer with
    | error fault => exact ⟨rfl, hafter⟩
    | ok applied =>
      cases applied with
      | true => exact ⟨rfl, hafter⟩
      | false => exact ih hrest (index + 1) hafter

/-! ## Turns -/

namespace Adventure

/-- Whatever the vocabulary and the rules, two lines that are read as the same
command lead from one scene to the same outcome or the same fault, the same
state and the same draws, and show the same but for the tokens in messages. -/
theorem same_words_same_turn (a : Adventure) {line line' : String}
    (h : (a.vocabulary.parse line).same (a.vocabulary.parse line') = true) (scene : Scene) :
    Retells (a.actions.flatMap Rule.effects) (a.vocabulary.parse line) (a.vocabulary.parse line')
      (a.takeTurn (a.vocabulary.parse line) scene)
      (a.takeTurn (a.vocabulary.parse line') scene) := by
  have hwords := Vocabulary.words_parse_of_same h
  have heffects : ∀ r ∈ a.actions, ∀ e ∈ r.effects, e ∈ a.actions.flatMap Rule.effects :=
    fun r hr e he => List.mem_flatMap.2 ⟨r, hr, he⟩
  rw [takeTurn, takeTurn]
  split
  · -- the rules for every turn do not see the command
    dsimp only
    generalize tryOccurs ⟨a.world, .empty⟩ a.occurs _ = begun
    obtain ⟨answer, after⟩ := begun
    cases answer with
    | error fault => exact ⟨rfl, .refl after⟩
    | ok occurred =>
      dsimp only
      split
      · obtain ⟨answer, left, left', hx, hx', hleft⟩ :=
          (retells_tryActions (w := a.world) hwords heffects 0 (.refl after)).split
        simp only [hx, hx']
        cases answer with
        | error fault => exact ⟨rfl, hleft⟩
        | ok matched =>
          refine ⟨?_, hleft⟩
          show Except.ok (Outcome.mk _ _ matched left'.state.running) = _
          rw [hleft.state]
      · exact ⟨rfl, .refl after⟩
  · exact ⟨rfl, .refl scene⟩

theorem same_words_same_turn_sample : ∃ a, Script.Sample.tree.compile = .ok a ∧
    (a.vocabulary.parse "take lamp").same (a.vocabulary.parse "TAKE ... Lantern!") = true ∧
    ∀ scene, Retells (a.actions.flatMap Rule.effects) (a.vocabulary.parse "take lamp")
      (a.vocabulary.parse "TAKE ... Lantern!")
      (a.takeTurn (a.vocabulary.parse "take lamp") scene)
      (a.takeTurn (a.vocabulary.parse "TAKE ... Lantern!") scene) := by
  have hcompiles : Script.Sample.tree.compilesTo (fun a =>
      (a.vocabulary.parse "take lamp").same (a.vocabulary.parse "TAKE ... Lantern!")) = true := by
    decide +kernel
  obtain ⟨a, ha, hsame⟩ := Script.Tree.exists_of_compilesTo hcompiles
  exact ⟨a, ha, hsame, a.same_words_same_turn hsame⟩

end Adventure

end TextAdventure
