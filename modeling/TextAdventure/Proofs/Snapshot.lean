/-
A snapshot holds the state that it was taken of.
-/
import TextAdventure.Proofs.Json.Reread
import TextAdventure.Snapshot

namespace TextAdventure

open Text

/-! ## Tables -/

namespace Table

variable {α : Type}

/-- An entry whose name comes last is put last. -/
theorem insertEntry_of_lt {name : String} {value : α} {l : List (String × α)}
    (h : ∀ entry ∈ l, entry.1 < name) : insertEntry name value l = l ++ [(name, value)] := by
  induction l with
  | nil => rfl
  | cons entry rest ih =>
    obtain ⟨hentry, hrest⟩ := List.forall_mem_cons.1 h
    have hne : name ≠ entry.1 := fun heq => String.lt_irrefl name (heq ▸ hentry)
    have hnlt : ¬ name < entry.1 := String.lt_asymm hentry
    rw [insertEntry, if_neg hne, if_neg hnlt, ih hrest]
    rfl

theorem entries_foldl_insert {entries : List (String × α)} {t : Table α}
    (h : (t.entries ++ entries).Pairwise fun a b => a.1 < b.1) :
    (entries.foldl (fun t entry => t.insert entry.1 entry.2) t).entries = t.entries ++ entries := by
  induction entries generalizing t with
  | nil => exact (List.append_nil _).symm
  | cons entry rest ih =>
    have hlast : (t.insert entry.1 entry.2).entries = t.entries ++ [entry] := by
      refine insertEntry_of_lt fun other hother => ?_
      exact (List.pairwise_append.1 h).2.2 other hother entry List.mem_cons_self
    rw [List.foldl_cons, ih, hlast, List.append_assoc, List.singleton_append]
    rw [hlast, List.append_assoc, List.singleton_append]
    exact h

/-- A table is the table of its entries. -/
theorem ofList_entries (t : Table α) : ofList t.entries = t := by
  have hentries : (ofList t.entries).entries = t.entries := 
    entries_foldl_insert (t := empty) t.sorted
  cases t
  cases h : ofList _
  rw [h] at hentries
  cases hentries
  rfl

end Table

namespace Snapshot

/-! ## What is written is plain -/

theorem fits_ofText (s : String) : ∀ p ∈ Json.Piece.ofText s, p.Fits := by
  intro p hp
  obtain ⟨c, -, rfl⟩ := List.mem_map.1 hp
  exact trivial

theorem plain_text (s : String) : (Json.text s).Plain := .string (fits_ofText s)

theorem plain_ofLocation (place : Location) : (ofLocation place).Plain := by
  cases place with
  | room name =>
    exact .object (List.forall_mem_singleton.2 (fits_ofText _))
      (List.forall_mem_singleton.2 (plain_text _))
  | inventory => exact plain_text _
  | nowhere => exact plain_text _

theorem plain_ofTable {α : Type} {value : α → Json} (h : ∀ a, (value a).Plain) (t : Table α) :
    (ofTable value t).Plain := by
  refine .object (fun m hm => ?_) (fun m hm => ?_)
  · obtain ⟨entry, -, rfl⟩ := List.mem_map.1 hm
    exact fits_ofText _
  · obtain ⟨entry, -, rfl⟩ := List.mem_map.1 hm
    exact h _

theorem plain_ofState (s : State) : (ofState s).Plain := by
  have hkeys : ∀ name ∈ fieldNames.map Json.Piece.ofText, ∀ p ∈ name, p.Fits := by
    intro name hname
    obtain ⟨field, -, rfl⟩ := List.mem_map.1 hname
    exact fits_ofText field
  have hvalues : ∀ j ∈ values s, j.Plain := by
    have hplaces := plain_ofTable plain_ofLocation s.places
    have hflags := plain_ofTable Json.Plain.bool s.flags
    have hcounters := plain_ofTable (fun n : Int64 => .int n.toInt) s.counters
    have hstrings := plain_ofTable plain_text s.strings
    simp only [values, List.forall_mem_cons]
    exact ⟨plain_text _, hplaces, hflags, hcounters, hstrings, .bool _, .int _, nofun⟩
  refine .object (fun m hm => ?_) (fun m hm => ?_)
  · exact hkeys _ (List.of_mem_zip hm).1
  · exact hvalues _ (List.of_mem_zip hm).2

/-! ## What is written is read -/

theorem text?_reread (s : String) : (Json.text s).reread.text? = some s := by
  rw [Json.text, Json.reread, Json.text?, Json.text?_reread_ofText]

theorem bool?_reread (b : Bool) : (Json.bool b).reread.bool? = some b := by
  simp only [Json.reread, Json.bool?]

theorem int?_reread (n : Int) : (Json.int n).reread.int? = some n := by
  have hsame : (Json.int n).reread = .int n := by simp only [Json.int, Json.reread]
  rw [hsame, Json.int?_int]

theorem int64?_reread (n : Int64) : (Json.int n.toInt).reread.int64? = some n := by
  have hle : Int64.minValue.toInt ≤ n.toInt := n.minValue_le_toInt
  have hge : n.toInt ≤ Int64.maxValue.toInt := n.toInt_le
  rw [Json.int64?, int?_reread]
  dsimp only
  rw [if_pos ⟨hle, hge⟩, Int64.ofInt_toInt]

theorem uint64?_reread (n : UInt64) : (Json.int n.toNat).reread.uint64? = some n := by
  have hge : (n.toNat : Int) ≤ maxWord := by
    have := n.toNat_lt
    simp only [maxWord, UInt64.size]
    omega
  rw [Json.uint64?, int?_reread]
  dsimp only
  rw [if_pos ⟨Int.natCast_nonneg _, hge⟩, Int.toNat_natCast, UInt64.ofNat_toNat]

theorem location?_reread (place : Location) : location? (ofLocation place).reread = some place := by
  cases place with
  | room name =>
    have hread := text?_reread name
    simp only [ofLocation, Json.reread, List.map_cons, List.map_nil, location?,
      Json.text?_reread_ofText, hread, Option.map_some]
  | inventory =>
    have hread := text?_reread "inventory"
    simp only [Json.text, Json.reread] at hread
    simp only [ofLocation, Json.text, Json.reread, location?, hread]
  | nowhere =>
    have hread := text?_reread "nowhere"
    simp only [Json.text, Json.reread] at hread
    simp only [ofLocation, Json.text, Json.reread, location?, hread]

theorem table?_reread {α : Type} {value : α → Json} {value? : Json → Option α}
    (h : ∀ a, value? (value a).reread = some a) (t : Table α) :
    table? value? (ofTable value t).reread = some t := by
  have hmembers : ∀ entries : List (String × α),
      (entries.map fun entry => ((Json.Piece.ofText entry.1).map Json.Piece.reread,
        (value entry.2).reread)).mapM (member? value?) = some entries := by
    intro entries
    induction entries with
    | nil => rfl
    | cons entry rest ih =>
      simp only [List.map_cons, List.mapM_cons, member?, Json.text?_reread_ofText, h, ih]
      rfl
  simp only [ofTable, Json.reread, table?, List.map_map, Function.comp_def, hmembers,
    Option.map_some, Table.ofList_entries]

theorem values?_reread (s : State) :
    values? (ofState s).reread = some ((values s).map Json.reread) := by
  simp only [ofState, fieldNames, values, Json.reread, List.map_cons, List.map_nil,
    List.zip_cons_cons, List.zip_nil_left, values?, List.mapM_cons, List.mapM_nil, member?,
    Json.text?_reread_ofText, Option.bind_eq_bind, Option.bind_some, Option.pure_def]
  -- each name is found once among the seven
  simp [field?]

theorem state?_reread (s : State) : state? (ofState s).reread = some s := by
  rw [state?, values?_reread]
  have hplaces := table?_reread location?_reread s.places
  have hflags := table?_reread bool?_reread s.flags
  have hcounters := table?_reread int64?_reread s.counters
  have hstrings := table?_reread text?_reread s.strings
  simp only [values, List.map_cons, List.map_nil, Option.bind_eq_bind, Option.bind_some,
    text?_reread, hplaces, hflags, hcounters, hstrings, bool?_reread, uint64?_reread,
    Option.pure_def]

end Snapshot

/-- Every state is found again in its snapshot. -/
theorem State.ofSnapshot?_toSnapshot (s : State) : State.ofSnapshot? s.toSnapshot = some s := by
  rw [State.ofSnapshot?, State.toSnapshot, Json.ofText?_toText (Snapshot.plain_ofState s),
    Option.bind_some, Snapshot.state?_reread]

/-- Snapshots and states correspond.  Every state is found again in its snapshot,
whatever its names and texts are made of and however great its numbers are, and
no other state has that snapshot.  A text in which a state is found may be laid
out otherwise than a snapshot; to write the state anew and read it again finds
what was found in the text, and nothing where nothing was. -/
theorem State.snapshot_round_trip :
    (∀ s : State, ofSnapshot? s.toSnapshot = some s) ∧
    (∀ s s' : State, s.toSnapshot = s'.toSnapshot ↔ s = s') ∧
    ∀ text, ((ofSnapshot? text).bind fun s => ofSnapshot? s.toSnapshot) = ofSnapshot? text := by
  refine ⟨ofSnapshot?_toSnapshot, fun s s' => ⟨fun h => ?_, congrArg toSnapshot⟩, fun text => ?_⟩
  · have hread := ofSnapshot?_toSnapshot s
    rw [h, ofSnapshot?_toSnapshot] at hread
    exact (Option.some.inj hread).symm
  · cases ofSnapshot? text with
    | none => rfl
    | some s => rw [Option.bind_some, ofSnapshot?_toSnapshot]

end TextAdventure
