/-
Comparison that ignores the case of the letters A to Z and of no others.  Names
are compared in this way wherever two of them denote the same thing.
-/

namespace TextAdventure
namespace Text

/-- Whether two texts differ at most in the case of the letters A to Z. -/
def sameName (a b : String) : Bool :=
  a.toList.map Char.toLower == b.toList.map Char.toLower

theorem sameName_iff {a b : String} :
    sameName a b = true ↔ a.toList.map Char.toLower = b.toList.map Char.toLower := by
  simp [sameName]

@[simp]
theorem sameName_refl (a : String) : sameName a a = true := sameName_iff.2 rfl

theorem sameName_comm (a b : String) : sameName a b = sameName b a := by
  rw [Bool.eq_iff_iff, sameName_iff, sameName_iff]
  exact eq_comm

theorem sameName_trans {a b c : String} (hab : sameName a b = true)
    (hbc : sameName b c = true) : sameName a c = true :=
  sameName_iff.2 ((sameName_iff.1 hab).trans (sameName_iff.1 hbc))

end Text
end TextAdventure
