/-
Finite maps from names to values.

The entries are kept in the order of their names, by code point, so that a
table has one form only: tables that answer alike are equal, and listing one
needs no sorting.
-/

namespace TextAdventure

structure Table (α : Type) where
  entries : List (String × α)
  sorted : entries.Pairwise fun a b => a.1 < b.1
  deriving DecidableEq

namespace Table

variable {α : Type}

def empty : Table α := ⟨[], .nil⟩

instance : Inhabited (Table α) := ⟨empty⟩

def lookupEntry (name : String) : List (String × α) → Option α
  | [] => none
  | (key, value) :: rest => if name = key then some value else lookupEntry name rest

def find? (t : Table α) (name : String) : Option α :=
  lookupEntry name t.entries

def contains (t : Table α) (name : String) : Bool :=
  (t.find? name).isSome

def names (t : Table α) : List String :=
  t.entries.map (·.1)

/-- Put an entry where its name belongs, in the place of one of the same name. -/
def insertEntry (name : String) (value : α) : List (String × α) → List (String × α)
  | [] => [(name, value)]
  | (key, old) :: rest =>
    if name = key then (name, value) :: rest
    else if name < key then (name, value) :: (key, old) :: rest
    else (key, old) :: insertEntry name value rest

theorem mem_insertEntry {name : String} {value : α} {entry : String × α} :
    ∀ {l : List (String × α)}, entry ∈ insertEntry name value l →
      entry = (name, value) ∨ entry ∈ l
  | [], h => by
    rw [insertEntry, List.mem_singleton] at h
    exact .inl h
  | (key, old) :: rest, h => by
    rw [insertEntry] at h
    split at h
    · rcases List.mem_cons.1 h with h | h
      · exact .inl h
      · exact .inr (List.mem_cons_of_mem _ h)
    · split at h
      · rcases List.mem_cons.1 h with h | h
        · exact .inl h
        · exact .inr h
      · rcases List.mem_cons.1 h with h | h
        · exact .inr (h ▸ List.mem_cons_self)
        · exact (mem_insertEntry h).imp id (List.mem_cons_of_mem _)

theorem sorted_insertEntry (name : String) (value : α) :
    ∀ {l : List (String × α)}, (l.Pairwise fun a b => a.1 < b.1) →
      (insertEntry name value l).Pairwise fun a b => a.1 < b.1
  | [], _ => List.pairwise_singleton _ _
  | (key, old) :: rest, h => by
    obtain ⟨hkey, hrest⟩ := List.pairwise_cons.1 h
    rw [insertEntry]
    split
    · next heq => exact List.pairwise_cons.2 ⟨fun e he => heq ▸ hkey e he, hrest⟩
    · split
      · next _ hlt =>
        refine List.pairwise_cons.2 ⟨fun e he => ?_, h⟩
        rcases List.mem_cons.1 he with rfl | he
        · exact hlt
        · exact String.lt_trans hlt (hkey e he)
      · next hne hnlt =>
        refine List.pairwise_cons.2 ⟨fun e he => ?_, sorted_insertEntry name value hrest⟩
        rcases mem_insertEntry he with rfl | he
        · exact Std.lt_of_le_of_ne (String.not_lt.1 hnlt) (Ne.symm hne)
        · exact hkey e he

def insert (t : Table α) (name : String) (value : α) : Table α :=
  ⟨insertEntry name value t.entries, sorted_insertEntry name value t.sorted⟩

/-- The table of the given entries.  Of two with one name the later counts. -/
def ofList (entries : List (String × α)) : Table α :=
  entries.foldl (fun t entry => t.insert entry.1 entry.2) empty

theorem lookupEntry_insertEntry (name : String) (value : α) (other : String) :
    ∀ l : List (String × α), lookupEntry other (insertEntry name value l) =
      if other = name then some value else lookupEntry other l
  | [] => rfl
  | (key, old) :: rest => by
    rw [insertEntry]
    split
    · next heq =>
      subst heq
      by_cases h : other = name <;> simp [lookupEntry, h]
    · split
      · rfl
      · next hne _ =>
        by_cases hk : other = key
        · have : other ≠ name := fun h => hne (h ▸ hk)
          simp [lookupEntry, hk, Ne.symm hne]
        · simp [lookupEntry, hk, lookupEntry_insertEntry name value other rest]

@[simp]
theorem find?_empty (name : String) : (empty : Table α).find? name = none := rfl

theorem find?_insert (t : Table α) (name : String) (value : α) (other : String) :
    (t.insert name value).find? other =
      if other = name then some value else t.find? other :=
  lookupEntry_insertEntry name value other t.entries

@[simp]
theorem find?_insert_self (t : Table α) (name : String) (value : α) :
    (t.insert name value).find? name = some value := by
  simp [find?_insert]

theorem find?_insert_of_ne (t : Table α) {name other : String} (value : α) (h : other ≠ name) :
    (t.insert name value).find? other = t.find? other := by
  simp [find?_insert, h]

end Table

/-- A set of names is a table that says nothing more of them. -/
abbrev NameSet := Table Unit

namespace NameSet

def insert (s : NameSet) (name : String) : NameSet := Table.insert s name ()

def union (s t : NameSet) : NameSet := t.names.foldl insert s

/-- Whether some name is in both. -/
def meets (s t : NameSet) : Bool := s.names.any (Table.contains t ·)

theorem contains_insert (s : NameSet) (name other : String) :
    Table.contains (insert s name) other = (decide (other = name) || Table.contains s other) := by
  rw [Table.contains, insert, Table.find?_insert]
  by_cases h : other = name <;> simp [h, Table.contains]

theorem contains_foldl_insert (names : List String) (s : NameSet) (other : String) :
    Table.contains (names.foldl insert s) other =
      (decide (other ∈ names) || Table.contains s other) := by
  induction names generalizing s with
  | nil => simp
  | cons name rest ih =>
    rw [List.foldl_cons, ih, contains_insert]
    by_cases h : other = name <;> simp [h]

end NameSet

namespace Table

variable {α : Type}

theorem contains_iff_mem_names (t : Table α) (name : String) :
    t.contains name = true ↔ name ∈ t.names := by
  rw [contains, find?, names]
  induction t.entries with
  | nil => simp [lookupEntry]
  | cons entry rest ih =>
    by_cases h : name = entry.1
    · simp [lookupEntry, h]
    · simp [lookupEntry, ih, h]

end Table

theorem NameSet.contains_union (s t : NameSet) (name : String) :
    Table.contains (s.union t) name = (Table.contains s name || Table.contains t name) := by
  rw [NameSet.union, NameSet.contains_foldl_insert, Bool.or_comm]
  congr 1
  rw [Bool.eq_iff_iff, decide_eq_true_eq, Table.contains_iff_mem_names]

end TextAdventure
