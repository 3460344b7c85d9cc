/-
Draws are percentages.

A draw from a seed is made of one word of the cipher or of two.  It is the share
of 100 that falls to the two read as one number of 64 bits, and the second word is
left alone where it could not change the share.  So no carry leads up to 100, and
asking for a draw in every case would decide a percentage at the extremes as it is
decided without one.
-/
import TextAdventure.Draws.Seeded
import TextAdventure.Proofs.Chances

namespace TextAdventure
namespace Draws

/-! ## The share of two words -/

/-- The share of 100 that falls to two words, read as one number. -/
def share (first second : UInt32) : Nat :=
  (first.toNat * UInt32.size + second.toNat) * 100 / (UInt32.size * UInt32.size)

theorem mul_div_lt {n size : Nat} (h : n < size) : n * 100 / size < 100 := by
  rw [Nat.div_lt_iff_lt_mul (Nat.zero_lt_of_lt h)]
  omega

/-- Two words are less than the whole, and so is their share. -/
theorem share_lt (first second : UInt32) : share first second < 100 := by
  have hfirst := first.toNat_lt_size
  have hsecond := second.toNat_lt_size
  apply mul_div_lt
  calc first.toNat * UInt32.size + second.toNat
      < (first.toNat + 1) * UInt32.size := by rw [Nat.add_one_mul]; omega
    _ ≤ UInt32.size * UInt32.size := Nat.mul_le_mul_right _ hfirst

/-- The share is that of the first word, with the share of the second carried
into it. -/
theorem share_eq (first second : UInt32) : share first second =
    (first.toNat * 100 + second.toNat * 100 / UInt32.size) / UInt32.size := by
  have hsize : 0 < UInt32.size := by decide
  have hproduct : (first.toNat * UInt32.size + second.toNat) * 100 =
      UInt32.size * (first.toNat * 100) + second.toNat * 100 := by
    rw [Nat.add_mul, Nat.mul_right_comm, Nat.mul_comm (first.toNat * 100)]
  rw [share, ← Nat.div_div_eq_div_mul, hproduct, Nat.mul_add_div hsize]

/-- A draw is the share of two words, also where it is made of one. -/
theorem scale_fst (word : Nat → UInt32) (p : Nat) :
    (scale word p).1 = share (word p) (word (p + 1)) := by
  have hcarry := mul_div_lt (word (p + 1)).toNat_lt_size
  have hsize : 100 ≤ UInt32.size := by decide
  rw [share_eq, scale]
  generalize UInt32.size = size at hcarry hsize ⊢
  generalize (word (p + 1)).toNat * 100 / size = carry at hcarry ⊢
  generalize (word p).toNat * 100 = product
  have hlt : carry < size := Nat.lt_of_lt_of_le hcarry hsize
  rw [Nat.add_div (Nat.zero_lt_of_lt hlt), Nat.div_eq_of_lt hlt, Nat.mod_eq_of_lt hlt]
  dsimp only
  split
  · split
    · rfl
    · rfl
  · next hsmall =>
    -- no share of the next word is so great that it could be carried
    have hunder : ¬ size ≤ product % size + carry := by omega
    rw [if_neg hunder]
    rfl

-- the second word is carried into the first one's share, which alone would be 0
example : scale (fun p => if p = 0 then 42949672 else 0xFFFFFFFF) 0 = (1, 2) := by decide

theorem scale_snd (word : Nat → UInt32) (p : Nat) :
    (scale word p).2 = p + 1 ∨ (scale word p).2 = p + 2 := by
  rw [scale]
  dsimp only
  split
  · exact .inr rfl
  · exact .inl rfl

/-! ## Sources -/

variable {d : Draws}

theorem skip_succ (n : Nat) (d : Draws) : d.skip (n + 1) = (d.skip n).take.2 := by
  rw [skip_add]
  rfl

theorem draw_skip (n : Nat) (d : Draws) : (d.skip n).draw = d.draw := by
  induction n with
  | zero => rfl
  | succ n ih =>
    rw [skip_succ]
    exact ih

/-- The draw that follows is what the source gives at the place that was come to. -/
theorem take_skip (n : Nat) (d : Draws) : (d.skip n).take.1 = (d.draw (d.skip n).place).1 := by
  rw [← draw_skip n d]
  rfl

theorem place_skip_succ (n : Nat) (d : Draws) :
    (d.skip (n + 1)).place = (d.draw (d.skip n).place).2 := by
  rw [skip_succ, ← draw_skip n d]
  rfl

/-- Whether a source gives percentages only, however many draws are taken, and a
percentage is then decided as by a comparison with the next draw, also where no
draw is taken for it. -/
structure Percent (d : Draws) : Prop where
  below : ∀ n, (d.skip n).take.1 < 100
  decides : ∀ n v s percent, Condition.holds v s (.random percent) (d.skip n) =
    (decide ((d.skip n).take.1 < percent),
      if 0 < percent ∧ percent < 100 then (d.skip n).take.2 else d.skip n)

theorem percent_of_draw_lt (h : ∀ place, (d.draw place).1 < 100) : d.Percent := by
  have hbelow : ∀ n, (d.skip n).take.1 < 100 := fun n => by
    rw [take_skip]
    exact h _
  exact ⟨hbelow, fun n _ _ percent => Condition.holds_random percent (hbelow n)⟩

/-- The words of the cipher that a seed leads to. -/
def wordsOfSeed (seed : UInt64) : Nat → UInt32 := cipherWord (keyWords seed 8)

theorem percent_seeded (seed : UInt64) : (seeded seed).Percent :=
  percent_of_draw_lt fun place => by
    show (scale (wordsOfSeed seed) place).1 < 100
    rw [scale_fst]
    exact share_lt _ _

theorem place_skip_seeded (seed : UInt64) (n : Nat) :
    n ≤ ((seeded seed).skip n).place ∧ ((seeded seed).skip n).place ≤ 2 * n := by
  induction n with
  | zero => exact ⟨Nat.le_refl 0, Nat.le_refl 0⟩
  | succ n ih =>
    rw [place_skip_succ]
    have hnext := scale_snd (wordsOfSeed seed) ((seeded seed).skip n).place
    show _ ≤ (scale (wordsOfSeed seed) _).2 ∧ (scale (wordsOfSeed seed) _).2 ≤ _
    omega

/-- Draws made from bytes that do not end. -/
def ofStream (byte : Nat → UInt8) : Draws :=
  ⟨fun n => ((byte n).toNat % 100, n + 1), 0, 0⟩

/-- Bytes that end are followed by zeros. -/
theorem ofBytes_eq (bytes : List UInt8) :
    ofBytes bytes = ofStream fun n => bytes.toArray.getD n 0 := rfl

theorem percent_ofStream (byte : Nat → UInt8) : (ofStream byte).Percent :=
  percent_of_draw_lt fun place => Nat.mod_lt (byte place).toNat (by decide)

theorem place_skip_ofStream (byte : Nat → UInt8) (n : Nat) :
    ((ofStream byte).skip n).place = n := by
  induction n with
  | zero => rfl
  | succ n ih =>
    rw [place_skip_succ, ih]
    rfl

/-- Every draw is a percentage: from each seed the share of two words that follow
each other, whatever these are, and from bytes each one less its hundreds, whatever
they are and whether they end or not. -/
theorem draws_percent :
    (∀ (word : Nat → UInt32) (p : Nat),
      (scale word p).1 = share (word p) (word (p + 1)) ∧ (scale word p).1 < 100) ∧
    (∀ seed : UInt64, (seeded seed).Percent ∧ ∀ n, ∃ p, n ≤ p ∧ p ≤ 2 * n ∧
      ((seeded seed).skip n).take.1 = share (wordsOfSeed seed p) (wordsOfSeed seed (p + 1))) ∧
    (∀ byte : Nat → UInt8, (ofStream byte).Percent ∧
      ∀ n, ((ofStream byte).skip n).take.1 = (byte n).toNat % 100) ∧
    ∀ bytes : List UInt8, (ofBytes bytes).Percent := by
  refine ⟨fun word p => ?_, fun seed => ⟨percent_seeded seed, fun n => ?_⟩,
    fun byte => ⟨percent_ofStream byte, fun n => ?_⟩, fun bytes => ?_⟩
  · rw [scale_fst]
    exact ⟨rfl, share_lt _ _⟩
  · obtain ⟨hfrom, hto⟩ := place_skip_seeded seed n
    refine ⟨_, hfrom, hto, ?_⟩
    rw [take_skip, ← scale_fst]
    rfl
  · rw [take_skip, place_skip_ofStream]
    rfl
  · rw [ofBytes_eq]
    exact percent_ofStream _

end Draws
end TextAdventure
