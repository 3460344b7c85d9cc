/-
The entries of a table, and the names that they have.

A table is no more than its answers: two that answer alike have the same entries
and, since these are sorted, are equal.
-/
import TextAdventure.Table

namespace TextAdventure
namespace Table

variable {α : Type} {t : Table α} {name other : String} {value : α} {entry : String × α}

/-! ## Entries -/

theorem mem_entries_of_find? (h : t.find? name = some value) : (name, value) ∈ t.entries := by
  rw [find?] at h
  generalize t.entries = l at h
  induction l with
  | nil => exact absurd h.symm (Option.some_ne_none value)
  | cons first rest ih =>
    rw [lookupEntry] at h
    split at h
    · next heq =>
      rw [heq, ← Option.some.inj h]
      exact List.mem_cons_self
    · exact List.mem_cons_of_mem _ (ih h)

theorem mem_entries_insert (h : entry ∈ (t.insert name value).entries) :
    entry = (name, value) ∨ entry ∈ t.entries := mem_insertEntry h

theorem mem_entries_foldl_insert {entries : List (String × α)}
    (h : entry ∈ (entries.foldl (fun t entry => t.insert entry.1 entry.2) t).entries) :
    entry ∈ entries ∨ entry ∈ t.entries := by
  induction entries generalizing t with
  | nil => exact .inr h
  | cons first rest ih =>
    rcases ih h with h | h
    · exact .inl (List.mem_cons_of_mem _ h)
    · rcases mem_entries_insert h with rfl | h
      · exact .inl List.mem_cons_self
      · exact .inr h

theorem mem_of_mem_entries_ofList {entries : List (String × α)}
    (h : entry ∈ (ofList entries).entries) : entry ∈ entries :=
  (mem_entries_foldl_insert h).resolve_right List.not_mem_nil

theorem mem_entries_iff : (name, value) ∈ t.entries ↔ t.find? name = some value := by
  refine ⟨fun h => ?_, mem_entries_of_find?⟩
  have hsorted := t.sorted
  rw [find?]
  generalize t.entries = l at h hsorted
  induction l with
  | nil => exact absurd h List.not_mem_nil
  | cons first rest ih =>
    obtain ⟨hfirst, hrest⟩ := List.pairwise_cons.1 hsorted
    rcases List.mem_cons.1 h with rfl | h
    · rw [lookupEntry, if_pos rfl]
    · have hne : name ≠ first.1 := fun heq => String.lt_irrefl _ (heq ▸ hfirst _ h)
      rw [lookupEntry, if_neg hne]
      exact ih h hrest

theorem nodup_entries (t : Table α) : t.entries.Nodup := by
  refine t.sorted.imp ?_
  rintro a b hlt rfl
  exact String.lt_irrefl _ hlt

theorem ext_find? {u : Table α} (h : ∀ name, t.find? name = u.find? name) : t = u := by
  have hmem : ∀ entry, entry ∈ t.entries ↔ entry ∈ u.entries := by
    rintro ⟨name, value⟩
    rw [mem_entries_iff, mem_entries_iff, h]
  have hperm : t.entries.Perm u.entries :=
    (List.perm_ext_iff_of_nodup t.nodup_entries u.nodup_entries).2 hmem
  have heq : t.entries = u.entries :=
    hperm.eq_of_pairwise
      (fun _ _ _ _ hlt hgt => absurd (String.lt_trans hlt hgt) (String.lt_irrefl _))
      t.sorted u.sorted
  cases t
  cases u
  cases heq
  rfl

/-! ## Names -/

theorem nodup_names (t : Table α) : t.names.Nodup :=
  List.Pairwise.map Prod.fst (fun _ _ hlt heq => String.lt_irrefl _ (heq ▸ hlt)) t.sorted

theorem mem_names_iff : name ∈ t.names ↔ ∃ value, t.find? name = some value := by
  rw [← contains_iff_mem_names, contains, Option.isSome_iff_exists]

theorem mem_names_insert :
    other ∈ (t.insert name value).names ↔ other = name ∨ other ∈ t.names := by
  rw [← contains_iff_mem_names, ← contains_iff_mem_names, contains, contains, find?_insert]
  split
  · next heq => exact iff_of_true rfl (.inl heq)
  · next hne => exact (or_iff_right hne).symm

theorem mem_names_foldl_insert {entries : List (String × α)} :
    other ∈ (entries.foldl (fun t entry => t.insert entry.1 entry.2) t).names ↔
      other ∈ entries.map Prod.fst ∨ other ∈ t.names := by
  induction entries generalizing t with
  | nil => exact (or_iff_right List.not_mem_nil).symm
  | cons first rest ih =>
    rw [List.foldl_cons, ih, mem_names_insert, List.map_cons, List.mem_cons, or_left_comm, or_assoc]

theorem mem_names_ofList {entries : List (String × α)} :
    other ∈ (ofList entries).names ↔ other ∈ entries.map Prod.fst :=
  mem_names_foldl_insert.trans (or_iff_left List.not_mem_nil)

end Table
end TextAdventure
