/-
Numbers are read from the digits in which they are written.

No number but zero is written with a zero in front, and zero is written without
a sign, so the readers that are strict in these two points take every number.
The reader of positions and of other counts takes a plus sign too and zeros in
front, and refuses what 64 bits do not hold.
-/
import TextAdventure.Text.Digits

namespace TextAdventure
namespace Text

theorem digitsFrom_eq_ofDigitChars {cs : List Char} (h : ∀ c ∈ cs, c.isDigit = true) (n : Nat) :
    digitsFrom n cs = some (Nat.ofDigitChars 10 cs n) := by
  induction cs generalizing n with
  | nil => rfl
  | cons c rest ih =>
    obtain ⟨hc, hrest⟩ := List.forall_mem_cons.1 h
    rw [digitsFrom, if_pos hc, ih hrest, Nat.ofDigitChars_cons]
    rfl

theorem isDigit_of_mem_toDigits {n : Nat} : ∀ c ∈ Nat.toDigits 10 n, c.isDigit = true :=
  fun _ => Nat.isDigit_of_mem_toDigits (by decide) (by decide)

theorem natOfDigits_toDigits (n : Nat) : natOfDigits (Nat.toDigits 10 n) = some n := by
  have hread : digitsFrom 0 (Nat.toDigits 10 n) = some n := by
    rw [digitsFrom_eq_ofDigitChars isDigit_of_mem_toDigits, Nat.ofDigitChars_ten_toDigits]
  cases hdigits : Nat.toDigits 10 n with
  | nil => exact absurd hdigits Nat.toDigits_ne_nil
  | cons c rest =>
    rw [hdigits] at hread
    exact hread

theorem head_toDigits_ne_zero {n : Nat} (h : 0 < n) {c : Char} {rest : List Char}
    (hdigits : Nat.toDigits 10 n = c :: rest) : c ≠ '0' := by
  induction n using Nat.strongRecOn generalizing rest with
  | ind n ih =>
    rw [Nat.toDigits_eq_if (by decide)] at hdigits
    split at hdigits
    · next hlt =>
      obtain ⟨rfl, -⟩ := List.cons.inj hdigits
      have : ∀ m : Fin 10, 0 < m.val → m.val.digitChar ≠ '0' := by decide
      exact this ⟨n, hlt⟩ h
    · next hle =>
      have hpos : 0 < n / 10 := Nat.div_pos (Nat.not_lt.1 hle) (by decide)
      cases hmore : Nat.toDigits 10 (n / 10) with
      | nil => exact absurd hmore Nat.toDigits_ne_nil
      | cons d others =>
        rw [hmore] at hdigits
        obtain ⟨rfl, -⟩ := List.cons.inj hdigits
        exact ih (n / 10) (Nat.div_lt_self h (by decide)) hpos hmore

/-- How an integer is written. -/
theorem toList_toString_int (n : Int) : (toString n).toList =
    if 0 ≤ n then Nat.toDigits 10 n.toNat else '-' :: Nat.toDigits 10 (-n).toNat := by
  show n.repr.toList = _
  rw [Int.repr_eq_if]
  split <;> simp [Nat.repr_eq_ofList_toDigits]

/-- A text that begins with a digit is read as a number without a sign. -/
theorem intOfDigits_of_digit {c : Char} {rest : List Char} (h : c.isDigit = true) :
    intOfDigits (c :: rest) = (natOfDigits (c :: rest)).map fun n => (n : Int) := by
  have hne : c ≠ '-' := fun hc => absurd h (by rw [hc]; decide)
  rw [intOfDigits]
  intro digits hdigits
  exact hne (List.cons.inj hdigits).1

theorem intOfDigits_toString (n : Int) : intOfDigits (toString n).toList = some n := by
  rw [toList_toString_int]
  by_cases h : 0 ≤ n
  · rw [if_pos h]
    have hdigits : ∀ c ∈ Nat.toDigits 10 n.toNat, c.isDigit = true := isDigit_of_mem_toDigits
    have hread := natOfDigits_toDigits n.toNat
    cases hwritten : Nat.toDigits 10 n.toNat with
    | nil => exact absurd hwritten Nat.toDigits_ne_nil
    | cons c rest =>
      rw [hwritten] at hdigits hread
      rw [intOfDigits_of_digit (hdigits c List.mem_cons_self), hread]
      exact congrArg some (Int.toNat_of_nonneg h)
  · rw [if_neg h, intOfDigits, natOfDigits_toDigits]
    have : -(((-n).toNat : Nat) : Int) = n := by omega
    exact congrArg some this

/-! ## Numbers of 64 bits -/

/-- Whether digits write a number that 64 bits hold. -/
structure IsNumeral (digits : List Char) (n : Nat) : Prop where
  ne_nil : digits ≠ []
  isDigit : ∀ c ∈ digits, c.isDigit = true
  value : Nat.ofDigitChars 10 digits 0 = n
  fits : n < UInt64.size

/-- Whether a text writes a number that 64 bits hold, in digits, with or without
a plus sign before them. -/
def WritesWord (cs : List Char) (n : Nat) : Prop :=
  IsNumeral cs n ∨ ∃ digits, cs = '+' :: digits ∧ IsNumeral digits n

theorem isDigit_of_digitsFrom {cs : List Char} {m n : Nat} (h : digitsFrom m cs = some n) :
    ∀ c ∈ cs, c.isDigit = true := by
  induction cs generalizing m with
  | nil => exact fun c hc => absurd hc List.not_mem_nil
  | cons c rest ih =>
    rw [digitsFrom] at h
    split at h
    · next hc => exact List.forall_mem_cons.2 ⟨hc, ih h⟩
    · exact absurd h nofun

theorem isNumeral_iff {digits : List Char} {n : Nat} :
    (natOfDigits digits).filter (· ≤ maxWord) = some n ↔ IsNumeral digits n := by
  have hmax : n ≤ maxWord ↔ n < UInt64.size := by
    show n ≤ UInt64.size - 1 ↔ _
    have : 0 < UInt64.size := by decide
    omega
  rw [Option.filter_eq_some_iff, decide_eq_true_iff, hmax]
  cases digits with
  | nil => exact iff_of_false (fun h => absurd h.1 nofun) fun h => h.ne_nil rfl
  | cons c rest =>
    show digitsFrom 0 (c :: rest) = some n ∧ _ ↔ _
    constructor
    · rintro ⟨hread, hfits⟩
      have hdigits := isDigit_of_digitsFrom hread
      rw [digitsFrom_eq_ofDigitChars hdigits] at hread
      exact ⟨List.cons_ne_nil c rest, hdigits, Option.some.inj hread, hfits⟩
    · intro h
      rw [digitsFrom_eq_ofDigitChars h.isDigit, h.value]
      exact ⟨rfl, h.fits⟩

theorem wordOfDigits_eq_some_iff {cs : List Char} {n : Nat} :
    wordOfDigits cs = some n ↔ WritesWord cs n := by
  unfold wordOfDigits
  rw [isNumeral_iff, WritesWord]
  split
  · next digits =>
    have hsign : ¬ IsNumeral ('+' :: digits) n := fun h =>
      absurd (h.isDigit '+' List.mem_cons_self) (by decide)
    simp [hsign]
  · next hplain =>
    refine (or_iff_left ?_).symm
    rintro ⟨digits, rfl, -⟩
    exact hplain digits rfl

theorem WritesWord.mem {cs : List Char} {n : Nat} (h : WritesWord cs n) :
    ∀ c ∈ cs, c.isDigit = true ∨ c = '+' := by
  rcases h with h | ⟨digits, rfl, h⟩
  · exact fun c hc => .inl (h.isDigit c hc)
  · exact List.forall_mem_cons.2 ⟨.inr rfl, fun c hc => .inl (h.isDigit c hc)⟩

theorem WritesWord.not_mem {cs : List Char} {n : Nat} (h : WritesWord cs n) {c : Char}
    (hc : c.isDigit = false) (hsign : c ≠ '+') : c ∉ cs := by
  intro hmem
  rcases h.mem c hmem with hdigit | hplus
  · rw [hc] at hdigit
    exact Bool.false_ne_true hdigit
  · exact hsign hplus

end Text
end TextAdventure
