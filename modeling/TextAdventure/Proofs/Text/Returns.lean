/-
Texts without carriage returns.

A display that divides what it shows into lines drops carriage returns at their
ends, so that it keeps a text as it is only if there are none.  Lower case brings
none in: no character but a carriage return is sent to one.
-/
import TextAdventure.Text.Lines
import TextAdventure.Text.Lowercase

namespace TextAdventure
namespace Text

/-- Whether a text has no carriage return in it. -/
def ReturnFree (s : String) : Prop := '\r' ∉ s.toList

instance (s : String) : Decidable (ReturnFree s) :=
  inferInstanceAs (Decidable ('\r' ∉ s.toList))

theorem dropReturns_of_not_mem {cs : List Char} (h : '\r' ∉ cs) : dropReturns cs = cs := by
  induction cs with
  | nil => rfl
  | cons c rest ih =>
    rw [List.mem_cons, not_or] at h
    obtain ⟨hc, hrest⟩ := h
    rw [dropReturns, ih hrest]
    rintro rest' rfl
    exact absurd rfl hc

/-! ## Texts put together -/

theorem ReturnFree.append {a b : String} (ha : ReturnFree a) (hb : ReturnFree b) :
    ReturnFree (a ++ b) := by
  rw [ReturnFree, String.toList_append, List.mem_append, not_or]
  exact ⟨ha, hb⟩

theorem returnFree_join {texts : List String} (h : ∀ text ∈ texts, ReturnFree text) :
    ReturnFree (String.join texts) := by
  induction texts with
  | nil => exact List.not_mem_nil
  | cons text rest ih =>
    obtain ⟨htext, hrest⟩ := List.forall_mem_cons.1 h
    rw [String.join_cons]
    exact htext.append (ih hrest)

theorem returnFree_intercalate {separator : String} (hseparator : ReturnFree separator)
    {texts : List String} (h : ∀ text ∈ texts, ReturnFree text) :
    ReturnFree (separator.intercalate texts) := by
  induction texts with
  | nil => exact List.not_mem_nil
  | cons text rest ih =>
    obtain ⟨htext, hrest⟩ := List.forall_mem_cons.1 h
    cases rest with
    | nil =>
      rw [String.intercalate_singleton]
      exact htext
    | cons other others =>
      rw [String.intercalate_cons_cons]
      exact (htext.append hseparator).append (ih hrest)

/-! ## Lower case -/

theorem eq_of_ofNat_eq_return {n : Nat} (h : Char.ofNat n = '\r') : n = 13 := by
  by_cases hvalid : n.isValidChar
  · rw [Char.ofNat, dif_pos hvalid] at h
    exact congrArg Char.toNat h
  · rw [Char.ofNat, dif_neg hvalid] at h
    cases h

theorem eq_of_imageIn {runs : List Run} (h : ∀ run ∈ runs, 13 < run.image) {n : Nat}
    (himage : CharMap.imageIn n runs = 13) : n = 13 := by
  induction runs with
  | nil => exact himage
  | cons run rest ih =>
    obtain ⟨hrun, hrest⟩ := List.forall_mem_cons.1 h
    rw [CharMap.imageIn] at himage
    split at himage
    · exact ih hrest himage
    · split at himage
      · omega
      · exact himage

theorem mem_of_expansionIn {n : Nat} {entries : List (Nat × List Nat)} {image : List Nat}
    (h : CharMap.expansionIn n entries = some image) : (n, image) ∈ entries := by
  induction entries with
  | nil => cases h
  | cons entry rest ih =>
    obtain ⟨code, expansion⟩ := entry
    rw [CharMap.expansionIn] at h
    split at h
    · cases h
    · split at h
      · next heq =>
        rw [heq, Option.some.inj h]
        exact List.mem_cons_self
      · exact List.mem_cons_of_mem _ (ih h)

theorem eq_of_return_mem_lowercase {c : Char} (h : '\r' ∈ lowercase.apply c) : c = '\r' := by
  have hruns : ∀ run ∈ lowercase.runs, 13 < run.image := by decide +kernel
  have hexpansions : ∀ entry ∈ lowercase.expansions, 13 ∉ entry.2 := by decide +kernel
  rw [CharMap.apply] at h
  split at h
  · next image hexpansion =>
    obtain ⟨n, hn, heq⟩ := List.mem_map.1 h
    rw [eq_of_ofNat_eq_return heq] at hn
    exact absurd hn (hexpansions _ (mem_of_expansionIn hexpansion))
  · have himage := eq_of_ofNat_eq_return (List.mem_singleton.1 h).symm
    exact Char.toNat_inj.1 (eq_of_imageIn hruns himage)

theorem return_not_mem_lowerAfter {cs : List Char} (h : '\r' ∉ cs) (before : List Char) :
    '\r' ∉ lowerAfter before cs := by
  induction cs generalizing before with
  | nil => exact List.not_mem_nil
  | cons c rest ih =>
    rw [List.mem_cons, not_or] at h
    obtain ⟨hc, hrest⟩ := h
    rw [lowerAfter, List.mem_append, not_or]
    refine ⟨?_, ih hrest _⟩
    split
    · split <;> decide
    · exact fun hmem => hc (eq_of_return_mem_lowercase hmem).symm

theorem ReturnFree.lower {s : String} (h : ReturnFree s) : ReturnFree (lower s) := by
  rw [ReturnFree, Text.lower, String.toList_ofList]
  exact return_not_mem_lowerAfter h []

end Text
end TextAdventure
