/-
What it takes for a check to pass.  Checks are put together so that nothing
wrong is lost: the whole passes only if every part of it does.
-/
import Mathlib.Data.List.Forall2
import TextAdventure.Script.Diagnostic

namespace TextAdventure
namespace Script
namespace Checked

variable {α β γ : Type}

theorem error_ne_valid {span : Span} {message : String} {a : α} :
    error span message ≠ valid a := nofun

theorem map_eq_valid {f : α → β} {c : Checked α} {b : β} :
    c.map f = .valid b ↔ ∃ a, c = .valid a ∧ f a = b := by
  cases c with
  | valid a => simp [map]
  | wrong first others => simp [map]

theorem map₂_eq_valid {f : α → β → γ} {a : Checked α} {b : Checked β} {z : γ} :
    map₂ f a b = .valid z ↔ ∃ x y, a = .valid x ∧ b = .valid y ∧ f x y = z := by
  cases a with
  | valid x =>
    cases b with
    | valid y => simp [map₂]
    | wrong first others => simp [map₂]
  | wrong first others => simp [map₂]

theorem given_eq_valid {complaints : List Diagnostic} {c : Checked α} {a : α} :
    given complaints c = .valid a ↔ complaints = [] ∧ c = .valid a := by
  cases complaints with
  | nil => simp [given]
  | cons first others => simp [given]

/-- A list is valid when each of its members is. -/
theorem all_map_eq_valid {f : α → Checked β} {as : List α} {bs : List β} :
    all (as.map f) = .valid bs ↔ List.Forall₂ (fun a b => f a = .valid b) as bs := by
  induction as generalizing bs with
  | nil =>
    rw [List.forall₂_nil_left_iff, List.map_nil, all, valid.injEq]
    exact eq_comm
  | cons a rest ih =>
    rw [List.map_cons, all, map₂_eq_valid, List.forall₂_cons_left_iff]
    constructor
    · rintro ⟨b, bs', hb, hbs, rfl⟩
      exact ⟨b, bs', hb, ih.1 hbs, rfl⟩
    · rintro ⟨b, bs', hb, hbs, rfl⟩
      exact ⟨b, bs', hb, ih.2 hbs, rfl⟩

end Checked

/-! ## Lists that correspond -/

section

variable {α β : Type} {R : α → β → Prop} {as : List α} {bs : List β}

/-- What corresponds to something is in its list. -/
theorem forall₂_mem_left (h : List.Forall₂ R as bs) :
    List.Forall₂ (fun a b => a ∈ as ∧ R a b) as bs :=
  (List.forall₂_and_left _ _).2 ⟨fun _ ha => ha, h⟩

theorem exists_left_of_forall₂ (h : List.Forall₂ R as bs) {b : β} (hb : b ∈ bs) :
    ∃ a ∈ as, R a b := by
  induction h with
  | nil => exact absurd hb List.not_mem_nil
  | cons hfirst _ ih =>
    rcases List.mem_cons.1 hb with rfl | hb
    · exact ⟨_, List.mem_cons_self, hfirst⟩
    · obtain ⟨a, ha, hab⟩ := ih hb
      exact ⟨a, List.mem_cons_of_mem _ ha, hab⟩

theorem exists_right_of_forall₂ (h : List.Forall₂ R as bs) {a : α} (ha : a ∈ as) :
    ∃ b ∈ bs, R a b := by
  induction h with
  | nil => exact absurd ha List.not_mem_nil
  | cons hfirst _ ih =>
    rcases List.mem_cons.1 ha with rfl | ha
    · exact ⟨_, List.mem_cons_self, hfirst⟩
    · obtain ⟨b, hb, hab⟩ := ih ha
      exact ⟨b, List.mem_cons_of_mem _ hb, hab⟩

/-- A list that corresponds to one that is split is split at the same place. -/
theorem exists_split_of_forall₂ {before after : List β} {b : β}
    (h : List.Forall₂ R as (before ++ b :: after)) :
    ∃ first a later, as = first ++ a :: later ∧ List.Forall₂ R first before ∧ R a b ∧
      List.Forall₂ R later after := by
  induction before generalizing as with
  | nil =>
    cases h with
    | cons hab hlater => exact ⟨[], _, _, rfl, .nil, hab, hlater⟩
  | cons c rest ih =>
    cases h with
    | cons hc hrest =>
      obtain ⟨first, a, later, rfl, hfirst, hab, hlater⟩ := ih hrest
      exact ⟨_ :: first, a, later, rfl, .cons hc hfirst, hab, hlater⟩

theorem getLast?_getD_of_forall₂ (h : List.Forall₂ R as bs) {a : α} {b : β} (hab : R a b) :
    R (as.getLast?.getD a) (bs.getLast?.getD b) := by
  induction h generalizing a b with
  | nil => exact hab
  | cons hfirst _ ih =>
    rw [List.getLast?_cons, List.getLast?_cons]
    exact ih hfirst

end

end Script
end TextAdventure
