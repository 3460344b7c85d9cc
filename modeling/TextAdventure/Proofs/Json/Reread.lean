/-
JSON is read as it was written.

The reader finds a value again in its text and takes nothing of what follows.
Between the values of a text there are only the ends of lines and commas, and
neither can go on with a number.
-/
import TextAdventure.Proofs.Json.Literals

namespace TextAdventure
namespace Json

/-! ## Values -/

/-- Whether the numbers of a value are integers and its units have sixteen
bits. -/
inductive Plain : Json → Prop
  | null : Plain .null
  | bool (value : Bool) : Plain (.bool value)
  | int (n : Int) : Plain (.int n)
  | string {pieces : List Piece} (h : ∀ p ∈ pieces, p.Fits) : Plain (.string pieces)
  | array {items : List Json} (h : ∀ j ∈ items, Plain j) : Plain (.array items)
  | object {members : List (List Piece × Json)} (hkeys : ∀ m ∈ members, ∀ p ∈ m.1, p.Fits)
      (hvalues : ∀ m ∈ members, Plain m.2) : Plain (.object members)

/-- What a value is read as when it has been written. -/
def reread : Json → Json
  | .string pieces => .string (pieces.map Piece.reread)
  | .array items => .array (items.map reread)
  | .object members => .object (members.map fun m => (m.1.map Piece.reread, reread m.2))
  | j => j
decreasing_by
  · have := List.sizeOf_lt_of_mem ‹_›
    simp only [Json.array.sizeOf_spec]
    omega
  · obtain ⟨key, value⟩ := m
    have := List.sizeOf_lt_of_mem ‹_›
    simp only [Prod.mk.sizeOf_spec, Json.object.sizeOf_spec] at this ⊢
    omega

/-- How the text of a value begins. -/
theorem Plain.head_write {j : Json} (h : j.Plain) (depth : Nat) :
    ∃ c cs, j.write depth = c :: cs ∧ isSpace c = false ∧ c ≠ ']' := by
  cases h with
  | null => exact ⟨'n', _, by rw [write], rfl, by decide⟩
  | bool value =>
    cases value with
    | true => exact ⟨'t', _, by rw [write], rfl, by decide⟩
    | false => exact ⟨'f', _, by rw [write], rfl, by decide⟩
  | int n =>
    obtain ⟨c, cs, hwrite, hc⟩ := head_toString_int n
    exact ⟨c, cs, hwrite, hc.isSpace_eq_false, hc.ne (by decide)⟩
  | string h => exact ⟨'"', _, by rw [write]; rfl, rfl, by decide⟩
  | @array items h => cases items <;> exact ⟨'[', _, by rw [write]; try rfl, rfl, by decide⟩
  | @object members hkeys hvalues =>
    cases members <;> exact ⟨'\x7b', _, by rw [write]; try rfl, rfl, by decide⟩

/-! ## White space -/

theorem skip_of_head {c : Char} {cs : List Char} (h : isSpace c = false) :
    skip (c :: cs) = c :: cs := by
  rw [skip, List.dropWhile_cons, h]
  rfl

theorem skip_newLine (depth : Nat) (cs : List Char) : skip (newLine depth ++ cs) = skip cs := by
  have hblank : ∀ c ∈ newLine depth, isSpace c = true := by
    intro c hc
    rcases List.mem_cons.1 hc with rfl | hc
    · rfl
    · rw [List.eq_of_mem_replicate hc]
      rfl
  rw [skip, List.dropWhile_append_of_pos hblank]
  rfl

theorem readValue_of_skip {cs cs' : List Char} (h : skip cs = skip cs') (fuel : Nat) :
    readValue fuel cs = readValue fuel cs' := by
  cases fuel with
  | zero => rw [readValue, readValue]
  | succ fuel => rw [readValue, readValue, h]

theorem readMembers_of_skip {cs cs' : List Char} (h : skip cs = skip cs') (fuel : Nat) :
    readMembers fuel cs = readMembers fuel cs' := by
  cases fuel with
  | zero => rw [readMembers, readMembers]
  | succ fuel => rw [readMembers, readMembers, h]

/-! ## Steps of the reader -/

theorem readValue_array {fuel : Nat} {cs rest : List Char} {items : List Json}
    (hsome : ∀ after, skip cs ≠ ']' :: after) (h : readItems fuel cs = some (items, rest)) :
    readValue (fuel + 1) ('[' :: cs) = some (.array items, rest) := by
  have hopen : skip ('[' :: cs) = '[' :: cs := skip_of_head rfl
  simp only [readValue, hopen]
  rw [h]
  rfl

theorem readValue_object {fuel : Nat} {cs rest : List Char}
    {members : List (List Piece × Json)} (hsome : ∀ after, skip cs ≠ '\x7d' :: after)
    (h : readMembers fuel cs = some (members, rest)) :
    readValue (fuel + 1) ('\x7b' :: cs) = some (.object members, rest) := by
  have hopen : skip ('\x7b' :: cs) = '\x7b' :: cs := skip_of_head rfl
  simp only [readValue, hopen]
  rw [h]
  rfl

theorem readItems_last {fuel : Nat} {cs tail rest : List Char} {j : Json}
    (h : readValue fuel cs = some (j, tail)) (htail : skip tail = ']' :: rest) :
    readItems (fuel + 1) cs = some ([j], rest) := by
  simp only [readItems, h, htail, Option.bind_eq_bind, Option.bind_some, Option.pure_def]

theorem readItems_cons {fuel : Nat} {cs more rest : List Char} {j : Json} {others : List Json}
    (h : readValue fuel cs = some (j, ',' :: more))
    (hmore : readItems fuel more = some (others, rest)) :
    readItems (fuel + 1) cs = some (j :: others, rest) := by
  have hcomma : skip (',' :: more) = ',' :: more := skip_of_head rfl
  simp only [readItems, h, hcomma, hmore, Option.bind_eq_bind, Option.bind_some, Option.pure_def]

theorem readMembers_last {fuel : Nat} {cs more tail rest : List Char} {key : List Piece}
    {j : Json} (hkey : readPieces cs = some (key, ':' :: ' ' :: more))
    (h : readValue fuel more = some (j, tail)) (htail : skip tail = '\x7d' :: rest) :
    readMembers (fuel + 1) ('"' :: cs) = some ([(key, j)], rest) := by
  have hquote : skip ('"' :: cs) = '"' :: cs := skip_of_head rfl
  have hcolon : skip (':' :: ' ' :: more) = ':' :: ' ' :: more := skip_of_head rfl
  have hblank : readValue fuel (' ' :: more) = readValue fuel more :=
    readValue_of_skip (by rfl) fuel
  simp only [readMembers, hquote, hkey, hcolon, hblank, h, htail, Option.bind_eq_bind,
    Option.bind_some, Option.pure_def]

theorem readMembers_cons {fuel : Nat} {cs more next rest : List Char} {key : List Piece}
    {j : Json} {others : List (List Piece × Json)}
    (hkey : readPieces cs = some (key, ':' :: ' ' :: more))
    (h : readValue fuel more = some (j, ',' :: next))
    (hnext : readMembers fuel next = some (others, rest)) :
    readMembers (fuel + 1) ('"' :: cs) = some ((key, j) :: others, rest) := by
  have hquote : skip ('"' :: cs) = '"' :: cs := skip_of_head rfl
  have hcolon : skip (':' :: ' ' :: more) = ':' :: ' ' :: more := skip_of_head rfl
  have hblank : readValue fuel (' ' :: more) = readValue fuel more :=
    readValue_of_skip (by rfl) fuel
  have hcomma : skip (',' :: next) = ',' :: next := skip_of_head rfl
  simp only [readMembers, hquote, hkey, hcolon, hblank, h, hcomma, hnext, Option.bind_eq_bind,
    Option.bind_some, Option.pure_def]

theorem readValue_of_beginsNumber {c : Char} (hc : BeginsNumber c) (fuel : Nat)
    (cs : List Char) :
    readValue (fuel + 1) (c :: cs) = (readNumber (c :: cs)).map fun r => (.number r.1, r.2) := by
  have hne : ∀ {d : Char} {ds : List Char}, (d == '-' || d.isDigit) = false → c :: cs ≠ d :: ds :=
    fun hd heq => hc.ne hd (List.cons.inj heq).1
  rw [readValue, skip_of_head hc.isSpace_eq_false]
  split
  · next heq => exact absurd heq (hne rfl)
  · next heq => exact absurd heq (hne rfl)
  · next heq => exact absurd heq (hne rfl)
  · next heq => exact absurd heq (hne rfl)
  · next heq => exact absurd heq (hne rfl)
  · next heq => exact absurd heq (hne rfl)
  · cases readNumber (c :: cs) <;> rfl

/-! ## Reading what was written -/

/-- Whether a value is read as it was written, given enough calls. -/
def Returns (j : Json) : Prop :=
  ∀ depth fuel rest, Ends rest → 2 * (j.write depth).length ≤ fuel + 1 →
    readValue (fuel + 1) (j.write depth ++ rest) = some (j.reread, rest)

theorem readItems_write {d d' : Nat} {rest : List Char} {others : List Json} {first : Json}
    (hfirst : first.Returns) (hothers : ∀ j ∈ others, j.Returns) {fuel : Nat}
    (hfuel : 2 * ((first.write d).length + (writeItems d others).length) + 2 ≤ fuel) :
    readItems fuel (newLine d ++ (first.write d ++ (writeItems d others ++
      (newLine d' ++ ']' :: rest)))) = some ((first :: others).map reread, rest) := by
  obtain ⟨fuel, rfl⟩ : ∃ n, fuel = n + 1 + 1 := ⟨fuel - 2, by omega⟩
  induction others generalizing first fuel with
  | nil =>
    have htail : skip (newLine d' ++ ']' :: rest) = ']' :: rest := by
      rw [skip_newLine, skip_of_head rfl]
    refine readItems_last ?_ htail
    rw [readValue_of_skip (skip_newLine d _)]
    exact hfirst d fuel _ (.line _) (by omega)
  | cons next more ih =>
    obtain ⟨hnext, hmore⟩ := List.forall_mem_cons.1 hothers
    simp only [writeItems, List.length_cons, List.length_append, List.cons_append,
      List.append_assoc] at hfuel ⊢
    obtain ⟨fuel, rfl⟩ : ∃ n, fuel = n + 1 := ⟨fuel - 1, by omega⟩
    refine readItems_cons ?_ (ih hnext hmore fuel (by omega))
    rw [readValue_of_skip (skip_newLine d _)]
    exact hfirst d (fuel + 1) _ (.comma _) (by omega)

theorem readMembers_write {d d' : Nat} {rest : List Char}
    {others : List (List Piece × Json)} {first : List Piece × Json}
    (hfirst : (∀ p ∈ first.1, p.Fits) ∧ first.2.Returns)
    (hothers : ∀ m ∈ others, (∀ p ∈ m.1, p.Fits) ∧ m.2.Returns) {fuel : Nat}
    (hfuel : 2 * ((writeMember d first).length + (writeMembers d others).length) + 2 ≤ fuel) :
    readMembers fuel (newLine d ++ (writeMember d first ++ (writeMembers d others ++
      (newLine d' ++ '\x7d' :: rest)))) =
        some ((first :: others).map fun m => (m.1.map Piece.reread, m.2.reread), rest) := by
  obtain ⟨fuel, rfl⟩ : ∃ n, fuel = n + 1 + 1 := ⟨fuel - 2, by omega⟩
  rw [readMembers_of_skip (skip_newLine d _)]
  induction others generalizing first fuel with
  | nil =>
    obtain ⟨key, j⟩ := first
    obtain ⟨hkey, hj : j.Returns⟩ := hfirst
    have htail : skip (newLine d' ++ '\x7d' :: rest) = '\x7d' :: rest := by
      rw [skip_newLine, skip_of_head rfl]
    simp only [writeMember, Piece.writeAll, List.length_append, List.length_cons, List.cons_append,
      List.append_assoc] at hfuel ⊢
    exact readMembers_last (readPieces_writeAll hkey _) (hj d fuel _ (.line _) (by omega)) htail
  | cons next more ih =>
    obtain ⟨key, j⟩ := first
    obtain ⟨hkey, hj : j.Returns⟩ := hfirst
    obtain ⟨hnext, hmore⟩ := List.forall_mem_cons.1 hothers
    have hagain := @ih next hnext hmore
    simp only [writeMember, Piece.writeAll, writeMembers, List.length_append, List.length_cons,
      List.cons_append, List.append_assoc] at hfuel ⊢
    obtain ⟨fuel, rfl⟩ : ∃ n, fuel = n + 1 := ⟨fuel - 1, by omega⟩
    have hvalue := hj d (fuel + 1) _ (.comma (newLine d ++ (writeMember d next ++
      (writeMembers d more ++ (newLine d' ++ '\x7d' :: rest))))) (by omega)
    refine readMembers_cons (readPieces_writeAll hkey _) hvalue ?_
    rw [readMembers_of_skip (skip_newLine d _)]
    exact hagain fuel (by omega)

/-! ### Each form of a value -/

theorem returns_null : Json.null.Returns := by
  intro depth fuel rest _ _
  have hword : ∀ cs, skip ('n' :: cs) = 'n' :: cs := fun cs => skip_of_head rfl
  simp only [write, List.cons_append, List.nil_append, readValue, hword, reread]

theorem returns_bool (value : Bool) : (Json.bool value).Returns := by
  intro depth fuel rest _ _
  have htrue : ∀ cs, skip ('t' :: cs) = 't' :: cs := fun cs => skip_of_head rfl
  have hfalse : ∀ cs, skip ('f' :: cs) = 'f' :: cs := fun cs => skip_of_head rfl
  cases value <;>
    simp only [write, List.cons_append, List.nil_append, readValue, htrue, hfalse, reread]

theorem returns_int (n : Int) : (Json.int n).Returns := by
  intro depth fuel rest hrest _
  have hread := readNumber_append n hrest
  obtain ⟨c, cs, hwrite, hc⟩ := head_toString_int n
  rw [Json.int, write, reread, hwrite, List.cons_append]
  · rw [hwrite, List.cons_append] at hread
    rw [readValue_of_beginsNumber hc, hread]
    rfl
  all_goals
    intro _ h
    cases h

theorem returns_string {pieces : List Piece} (h : ∀ p ∈ pieces, p.Fits) :
    (Json.string pieces).Returns := by
  intro depth fuel rest _ _
  have hquote : ∀ cs, skip ('"' :: cs) = '"' :: cs := fun cs => skip_of_head rfl
  rw [write, Piece.writeAll, List.append_assoc, List.cons_append]
  simp only [readValue, hquote, List.singleton_append, readPieces_writeAll h, reread,
    Option.bind_eq_bind, Option.bind_some, Option.pure_def]

theorem returns_array {items : List Json} (hplain : ∀ j ∈ items, j.Plain)
    (h : ∀ j ∈ items, j.Returns) : (Json.array items).Returns := by
  intro depth fuel rest _ hfuel
  cases items with
  | nil =>
    have hopen : ∀ cs, skip ('[' :: cs) = '[' :: cs := fun cs => skip_of_head rfl
    have hclose : ∀ cs, skip (']' :: cs) = ']' :: cs := fun cs => skip_of_head rfl
    simp only [write, List.cons_append, List.nil_append, readValue, hopen, hclose, reread,
      List.map_nil]
  | cons first others =>
    obtain ⟨hfirst, hothers⟩ := List.forall_mem_cons.1 h
    simp only [write, List.length_cons, List.length_append, List.cons_append, List.append_assoc,
      List.nil_append] at hfuel ⊢
    rw [reread]
    refine readValue_array ?_ (readItems_write hfirst hothers (by omega))
    obtain ⟨c, cs, hwrite, hspace, hne⟩ :=
      (hplain first List.mem_cons_self).head_write (depth + 1)
    intro after hafter
    rw [skip_newLine, hwrite, List.cons_append, skip_of_head hspace] at hafter
    exact hne (List.cons.inj hafter).1

theorem returns_object {members : List (List Piece × Json)}
    (h : ∀ m ∈ members, (∀ p ∈ m.1, p.Fits) ∧ m.2.Returns) : (Json.object members).Returns := by
  intro depth fuel rest _ hfuel
  cases members with
  | nil =>
    have hopen : ∀ cs, skip ('\x7b' :: cs) = '\x7b' :: cs := fun cs => skip_of_head rfl
    have hclose : ∀ cs, skip ('\x7d' :: cs) = '\x7d' :: cs := fun cs => skip_of_head rfl
    simp only [write, List.cons_append, List.nil_append, readValue, hopen, hclose, reread,
      List.map_nil]
  | cons first others =>
    obtain ⟨hfirst, hothers⟩ := List.forall_mem_cons.1 h
    simp only [write, List.length_cons, List.length_append, List.cons_append, List.append_assoc,
      List.nil_append] at hfuel ⊢
    rw [reread]
    refine readValue_object ?_ (readMembers_write hfirst hothers (by omega))
    intro after hafter
    rw [skip_newLine, writeMember, Piece.writeAll, List.append_assoc, List.append_assoc,
      List.cons_append, skip_of_head rfl] at hafter
    exact absurd (List.cons.inj hafter).1 (by decide)

theorem Plain.returns {j : Json} (h : j.Plain) : j.Returns := by
  induction h with
  | null => exact returns_null
  | bool value => exact returns_bool value
  | int n => exact returns_int n
  | string h => exact returns_string h
  | array h ih => exact returns_array h ih
  | object hkeys _ ih => exact returns_object fun m hm => ⟨hkeys m hm, ih m hm⟩

/-- The text of a value holds that value and nothing else. -/
theorem ofText?_toText {j : Json} (h : j.Plain) : ofText? j.toText = some j.reread := by
  have htext : j.toText.toList = j.write 0 := String.toList_ofList
  have hread := h.returns 0 (2 * j.toText.length + 1) [] .text
    (by rw [toText, String.length_ofList]; omega)
  rw [List.append_nil] at hread
  rw [ofText?, htext, hread]
  rfl

end Json
end TextAdventure
