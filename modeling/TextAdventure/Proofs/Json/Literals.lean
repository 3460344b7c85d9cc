/-
Strings and integers are read as they are written.

Only a control for which there is no short escape changes its form: it is
written as the unit that is its number, and comes back as that unit.  The two
write the same text.
-/
import TextAdventure.Json.Read
import TextAdventure.Json.Write
import TextAdventure.Proofs.Text.Digits

namespace TextAdventure
namespace Json

open Text

/-! ## Strings -/

theorem hexDigit?_digitChar {d : Nat} (h : d < 16) : hexDigit? d.digitChar = some d := by
  have : ∀ d : Fin 16, hexDigit? d.val.digitChar = some d.val := by decide
  exact this ⟨d, h⟩

theorem unit?_hexUnit {n : Nat} (h : n < 0x10000) :
    unit? (n / 0x1000 % 16).digitChar (n / 0x100 % 16).digitChar (n / 0x10 % 16).digitChar
      (n % 16).digitChar = some n := by
  have hlt : ∀ m, m % 16 < 16 := fun m => Nat.mod_lt m (by decide)
  simp only [unit?, hexDigit?_digitChar (hlt _), Option.bind_eq_bind, Option.bind_some,
    Option.pure_def, Option.some.injEq]
  omega

namespace Piece

/-- Whether a unit has sixteen bits. -/
def Fits : Piece → Prop
  | .char _ => True
  | .unit n => n < 0x10000

/-- What a piece is read as when it has been written. -/
def reread : Piece → Piece
  | .char c =>
    if c.toNat < 0x20 ∧ c ∉ ['\x08', '\x0c', '\n', '\r', '\t'] then .unit c.toNat else .char c
  | .unit n => .unit n

end Piece

theorem readPieces_unit {n : Nat} (h : n < 0x10000) (rest : List Char) :
    readPieces ('\\' :: 'u' :: hexUnit n ++ rest) =
      (readPieces rest).map fun read => (.unit n :: read.1, read.2) := by
  show readPieces ('\\' :: 'u' :: (n / 0x1000 % 16).digitChar :: (n / 0x100 % 16).digitChar ::
    (n / 0x10 % 16).digitChar :: (n % 16).digitChar :: rest) = _
  rw [readPieces, unit?_hexUnit h]
  cases readPieces rest <;> rfl

theorem readPieces_escape {c letter : Char} (hunit : letter ≠ 'u') (h : escaped? letter = some c)
    (rest : List Char) :
    readPieces ('\\' :: letter :: rest) =
      (readPieces rest).map fun read => (.char c :: read.1, read.2) := by
  rw [readPieces.eq_4 _ _ (fun _ _ _ _ _ hu _ => hunit hu), h]
  cases readPieces rest <;> rfl

theorem readPieces_char {c : Char} (hquote : c ≠ '"') (hslash : c ≠ '\\')
    (h : ¬ c.toNat < 0x20) (rest : List Char) :
    readPieces (c :: rest) = (readPieces rest).map fun read => (.char c :: read.1, read.2) := by
  rw [readPieces.eq_5 _ _ hquote (fun _ _ _ _ _ hc _ => hslash hc) (fun _ _ hc _ => hslash hc),
    if_neg h]
  cases readPieces rest <;> rfl

theorem readPieces_write {p : Piece} (h : p.Fits) (rest : List Char) :
    readPieces (p.write ++ rest) =
      (readPieces rest).map fun read => (p.reread :: read.1, read.2) := by
  cases p with
  | unit n => exact readPieces_unit h rest
  | char c =>
    by_cases hescaped : c ∈ ['"', '\\', '\x08', '\x0c', '\n', '\r', '\t']
    · -- each of these has a letter after the backslash
      simp only [List.mem_cons, List.not_mem_nil, or_false] at hescaped
      rcases hescaped with rfl | rfl | rfl | rfl | rfl | rfl | rfl <;>
        exact readPieces_escape (by decide) rfl rest
    · simp only [List.mem_cons, List.not_mem_nil, or_false, not_or] at hescaped
      obtain ⟨hquote, hslash, hb, hf, hn, hr, ht⟩ := hescaped
      by_cases hcontrol : c.toNat < 0x20
      · have hwrite : (Piece.char c).write = '\\' :: 'u' :: hexUnit c.toNat := by
          simp only [Piece.write, hquote, hslash, hb, hf, hn, hr, ht, hcontrol, if_false, if_true]
        have hreread : (Piece.char c).reread = .unit c.toNat := by
          simp [Piece.reread, hb, hf, hn, hr, ht, hcontrol]
        rw [hwrite, hreread]
        exact readPieces_unit (by omega) rest
      · have hwrite : (Piece.char c).write = [c] := by
          simp only [Piece.write, hquote, hslash, hb, hf, hn, hr, ht, hcontrol, if_false]
        have hreread : (Piece.char c).reread = .char c := by
          simp [Piece.reread, hcontrol]
        rw [hwrite, hreread]
        exact readPieces_char hquote hslash hcontrol rest

/-- A string that is written is read up to its closing quote. -/
theorem readPieces_writeAll {pieces : List Piece} (h : ∀ p ∈ pieces, p.Fits) (rest : List Char) :
    readPieces (pieces.flatMap Piece.write ++ '"' :: rest) =
      some (pieces.map Piece.reread, rest) := by
  induction pieces with
  | nil => rw [List.flatMap_nil, List.nil_append, readPieces]; rfl
  | cons p others ih =>
    obtain ⟨hp, hothers⟩ := List.forall_mem_cons.1 h
    rw [List.flatMap_cons, List.append_assoc, readPieces_write hp, ih hothers]
    rfl

/-- A unit that is no half of a character writes one by itself. -/
theorem chars?_unit {n : Nat} (hhigh : Piece.isHigh n = false) (hlow : Piece.isLow n = false)
    (rest : List Piece) :
    Piece.chars? (.unit n :: rest) = (Piece.chars? rest).map (Char.ofNat n :: ·) := by
  match rest with
  | [] => simp [Piece.chars?, hhigh, hlow]
  | .char c :: rest => simp [Piece.chars?, hhigh, hlow]
  | .unit m :: rest => simp [Piece.chars?, hhigh, hlow]

theorem chars?_reread (cs : List Char) :
    Piece.chars? ((cs.map Piece.char).map Piece.reread) = some cs := by
  induction cs with
  | nil => rfl
  | cons c rest ih =>
    rw [List.map_cons, List.map_cons, Piece.reread]
    split
    · next hcontrol =>
      have hlt : c.toNat < 0xD800 := by omega
      have hhigh : Piece.isHigh c.toNat = false := by simp [Piece.isHigh]; omega
      have hlow : Piece.isLow c.toNat = false := by simp [Piece.isLow]; omega
      rw [chars?_unit hhigh hlow, ih, Option.map_some, Char.ofNat_toNat]
    · rw [Piece.chars?, ih, Option.map_some]

/-- The text that characters write is the one that they were taken from, even
if some are read as units. -/
theorem text?_reread_ofText (s : String) :
    Piece.text? ((Piece.ofText s).map Piece.reread) = some s := by
  rw [Piece.text?, Piece.ofText, chars?_reread, Option.map_some, String.ofList_toList]

/-! ## Numbers -/

/-- What may follow a value: the end of the text, of the line, or a comma. -/
inductive Ends : List Char → Prop
  | text : Ends []
  | line (rest : List Char) : Ends ('\n' :: rest)
  | comma (rest : List Char) : Ends (',' :: rest)

theorem readDigits_append {digits rest : List Char} (hsome : digits ≠ [])
    (hdigits : ∀ c ∈ digits, c.isDigit = true) (hrest : Ends rest) :
    readDigits (digits ++ rest) = some (digits, rest) := by
  have hend : rest.takeWhile Char.isDigit = [] ∧ rest.dropWhile Char.isDigit = rest := by
    cases hrest <;> exact ⟨rfl, rfl⟩
  rw [readDigits, List.takeWhile_append_of_pos hdigits, List.dropWhile_append_of_pos hdigits,
    hend.1, hend.2, List.append_nil]
  cases digits with
  | nil => exact absurd rfl hsome
  | cons c others => rfl

theorem readWhole_append (n : Nat) {rest : List Char} (hrest : Ends rest) :
    readWhole (Nat.toDigits 10 n ++ rest) = some (Nat.toDigits 10 n, rest) := by
  have hdigits := readDigits_append Nat.toDigits_ne_nil (isDigit_of_mem_toDigits (n := n)) hrest
  rcases Nat.eq_zero_or_pos n with rfl | hpos
  · rfl
  · cases hwritten : Nat.toDigits 10 n with
    | nil => exact absurd hwritten Nat.toDigits_ne_nil
    | cons c others =>
      have hzero : c ≠ '0' := head_toDigits_ne_zero hpos hwritten
      rw [hwritten] at hdigits
      rw [List.cons_append, readWhole.eq_2 _ (fun _ h => hzero (List.cons.inj h).1)]
      exact hdigits

theorem readUnsigned_append (n : Nat) {rest : List Char} (hrest : Ends rest) :
    readUnsigned (Nat.toDigits 10 n ++ rest) = some (Nat.toDigits 10 n, rest) := by
  have hfraction : readFraction rest = some ([], rest) := by cases hrest <;> rfl
  have hexponent : readExponent rest = some ([], rest) := by cases hrest <;> rfl
  simp only [readUnsigned, readWhole_append n hrest, hfraction, hexponent, Option.bind_eq_bind,
    Option.bind_some, Option.pure_def, List.append_nil]

/-- Whether a character can begin a number. -/
def BeginsNumber (c : Char) : Prop := c = '-' ∨ c.isDigit = true

theorem BeginsNumber.ne {c d : Char} (hc : BeginsNumber c)
    (hd : (d == '-' || d.isDigit) = false) : c ≠ d := by
  rintro rfl
  rcases hc with rfl | hc
  · exact absurd hd (by decide)
  · rw [hc, Bool.or_true] at hd
    exact absurd hd (by decide)

theorem BeginsNumber.isSpace_eq_false {c : Char} (hc : BeginsNumber c) : isSpace c = false := by
  have hspace : c ≠ ' ' := hc.ne (by decide)
  have htab : c ≠ '\t' := hc.ne (by decide)
  have hline : c ≠ '\n' := hc.ne (by decide)
  have hreturn : c ≠ '\r' := hc.ne (by decide)
  simp [isSpace, hspace, htab, hline, hreturn]

/-- How the text of an integer begins. -/
theorem head_toString_int (n : Int) :
    ∃ c rest, (toString n).toList = c :: rest ∧ BeginsNumber c := by
  rw [toList_toString_int]
  split
  · cases hwritten : Nat.toDigits 10 n.toNat with
    | nil => exact absurd hwritten Nat.toDigits_ne_nil
    | cons c rest =>
      exact ⟨c, rest, rfl, .inr (isDigit_of_mem_toDigits c (hwritten ▸ List.mem_cons_self))⟩
  · exact ⟨'-', _, rfl, .inl rfl⟩

theorem readNumber_append (n : Int) {rest : List Char} (hrest : Ends rest) :
    readNumber ((toString n).toList ++ rest) = some ((toString n).toList, rest) := by
  rw [toList_toString_int]
  split
  · have hread := readUnsigned_append n.toNat hrest
    cases hwritten : Nat.toDigits 10 n.toNat with
    | nil => exact absurd hwritten Nat.toDigits_ne_nil
    | cons c others =>
      have hdigit := isDigit_of_mem_toDigits c (hwritten ▸ List.mem_cons_self)
      have hminus : c ≠ '-' := fun h => absurd hdigit (by rw [h]; decide)
      rw [hwritten] at hread
      rw [List.cons_append, readNumber.eq_2 _ (fun _ h => hminus (List.cons.inj h).1)]
      exact hread
  · rw [List.cons_append, readNumber, readUnsigned_append _ hrest]
    rfl

theorem int?_int (n : Int) : (Json.int n).int? = some n := by
  have hzero : (toString n).toList ≠ ['-', '0'] := by
    intro h
    have hread := intOfDigits_toString n
    rw [h] at hread
    obtain rfl : 0 = n := Option.some.inj hread
    exact absurd h (by decide)
  rw [Json.int, int?.eq_2 _ hzero, intOfDigits_toString]

end Json
end TextAdventure
