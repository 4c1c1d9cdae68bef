import CrateListing.Table
import Mathlib.Data.List.Basic
import Mathlib.Data.List.Induction

/-!
# Looking up in tables

What a table holds after entries were stored one after the other: every
identifier that was stored is there, and of several items with one identifier
the last one is found.

Main results:

- Theorem `Assoc.find?_ofList`: the last value that was stored under a key is read back.
- Theorem `Table.find?_ofItems`: a table of items finds the last item with an identifier.
- Theorem `Table.mem_keys_ofItems`: the identifiers of a table are those of its items.
- Theorem `Table.keys_ofItems`: they stand in the order of their first items.
- Theorem `Table.ofItems_values`: a table is rebuilt from items that know their identifiers.
-/

namespace CrateListing

/-! ## Association lists -/

namespace Assoc

variable {κ α : Type} [DecidableEq κ]

/-- A key is found exactly when it occurs. -/
theorem exists_find?_iff (key : κ) (table : List (κ × α)) :
    (∃ value, find? key table = some value) ↔ key ∈ keys table := by
  induction table with
  | nil => simp [keys]
  | cons entry rest ih =>
      obtain ⟨k, value⟩ := entry
      by_cases hk : k = key
      · simp [find?, keys, hk]
      · simpa [find?, keys, hk, Ne.symm hk] using ih

/-- Nothing is found exactly for a key that is not there. -/
theorem find?_eq_none_iff {key : κ} {table : List (κ × α)} :
    find? key table = none ↔ key ∉ keys table := by
  rw [← exists_find?_iff, Option.eq_none_iff_forall_ne_some]
  push Not
  rfl

/-- What is found stands in the list under its key. -/
theorem mem_of_find? {key : κ} {value : α} {table : List (κ × α)}
    (h : find? key table = some value) : (key, value) ∈ table := by
  induction table with
  | nil => cases h
  | cons entry rest ih =>
      obtain ⟨k, old⟩ := entry
      by_cases hk : k = key
      · simp only [find?, hk, if_true, Option.some.injEq] at h
        simp [hk, h]
      · rw [find?, if_neg hk] at h
        exact List.mem_cons_of_mem _ (ih h)

/-- An entry is found when no key occurs twice. -/
theorem find?_of_mem {key : κ} {value : α} {table : List (κ × α)} (hnodup : (keys table).Nodup)
    (h : (key, value) ∈ table) : find? key table = some value := by
  induction table with
  | nil => simp at h
  | cons entry rest ih =>
      obtain ⟨k, old⟩ := entry
      obtain ⟨hk, hrest⟩ := List.nodup_cons.1 hnodup
      rcases List.mem_cons.1 h with heq | hmem
      · cases heq
        simp [find?]
      · have hne : k ≠ key := by
          rintro rfl
          exact hk (List.mem_map.2 ⟨(k, value), hmem, rfl⟩)
        rw [find?, if_neg hne]
        exact ih hrest hmem

/-- The first list is searched before the second one. -/
theorem find?_append (key : κ) (first second : List (κ × α)) :
    find? key (first ++ second) = (find? key first).or (find? key second) := by
  induction first with
  | nil => rfl
  | cons entry rest ih =>
      obtain ⟨k, value⟩ := entry
      by_cases hk : k = key
      · simp [find?, hk]
      · simp [find?, hk, ih]

/-- Entries that are stored hide what was there before, and a later one hides an earlier one. -/
theorem find?_foldl_insert (key : κ) (entries table : List (κ × α)) :
    find? key (entries.foldl (fun table entry => insert entry.1 entry.2 table) table)
      = (find? key entries.reverse).or (find? key table) := by
  induction entries generalizing table with
  | nil => rfl
  | cons entry rest ih =>
      obtain ⟨k, value⟩ := entry
      rw [List.foldl_cons, ih, find?_insert, List.reverse_cons, find?_append, Option.or_assoc]
      by_cases hk : k = key
      · simp [find?, hk]
      · simp [find?, hk]

/-- The last value that was stored under a key is read back. -/
theorem find?_ofList (key : κ) (entries : List (κ × α)) :
    find? key (ofList entries) = find? key entries.reverse := by
  rw [ofList, find?_foldl_insert, find?_nil, Option.or_none]

/-- An entry of the table is one of those that were stored. -/
theorem mem_of_mem_ofList {entry : κ × α} {entries : List (κ × α)} (h : entry ∈ ofList entries) :
    entry ∈ entries := by
  have hfind := find?_of_mem (nodup_keys_ofList entries) h
  rw [find?_ofList] at hfind
  exact List.mem_reverse.1 (mem_of_find? hfind)

/-- The keys of a list built by insertions are those of its entries. -/
theorem mem_keys_ofList (key : κ) (entries : List (κ × α)) :
    key ∈ keys (ofList entries) ↔ key ∈ keys entries := by
  rw [← exists_find?_iff, find?_ofList, exists_find?_iff]
  simp [keys]

/-- A key that is new goes to the end, and one that is there stays where it is. -/
theorem keys_insert (key : κ) (value : α) (table : List (κ × α)) :
    keys (insert key value table)
      = if key ∈ keys table then keys table else keys table ++ [key] := by
  induction table with
  | nil => rfl
  | cons entry rest ih =>
      obtain ⟨k, old⟩ := entry
      by_cases hk : k = key
      · simp [insert, keys, hk]
      · simp only [keys] at ih
        by_cases hmem : key ∈ rest.map Prod.fst
        · simp [insert, hk, keys, ih, hmem]
        · simp [insert, hk, Ne.symm hk, keys, ih, hmem]

/-- The keys stand in the order in which they were stored first. -/
theorem keys_ofList (entries : List (κ × α)) :
    keys (ofList entries) = (keys entries).eraseDups := by
  induction entries using List.reverseRecOn with
  | nil => rfl
  | append_singleton entries entry ih =>
      have hlast : ofList (entries ++ [entry]) = insert entry.1 entry.2 (ofList entries) := by
        simp [ofList]
      have hkeys : keys (entries ++ [entry]) = keys entries ++ [entry.1] := by
        simp [keys]
      rw [hlast, keys_insert, ih, hkeys, List.eraseDups_append]
      by_cases hmem : entry.1 ∈ keys entries
      · simp [hmem, List.removeAll]
      · simp [hmem, List.removeAll, List.eraseDups_cons]

/-- Looking up among items by a key of their own. -/
theorem find?_map_key (id : α → κ) (key : κ) (items : List α) :
    find? key (items.map fun item => (id item, item))
      = items.find? fun item => decide (id item = key) := by
  induction items with
  | nil => rfl
  | cons item rest ih =>
      by_cases hk : id item = key
      · simp [find?, hk]
      · simp [find?, hk, ih]

/-- Looking up among values that were changed. -/
theorem find?_map_value {β : Type} (f : α → β) (key : κ) (table : List (κ × α)) :
    find? key (table.map fun entry => (entry.1, f entry.2)) = (find? key table).map f := by
  induction table with
  | nil => rfl
  | cons entry rest ih =>
      obtain ⟨k, value⟩ := entry
      by_cases hk : k = key
      · simp [find?, hk]
      · simp [find?, hk, ih]

end Assoc

/-! ## Tables -/

namespace Table

variable {α : Type}

/-- An identifier is found exactly when it occurs. -/
theorem exists_find?_iff (table : Table α) (id : Int) :
    (∃ item, table.find? id = some item) ↔ id ∈ table.keys :=
  Assoc.exists_find?_iff id table.entries

/-- What is found is one of the values. -/
theorem mem_values_of_find? {table : Table α} {id : Int} {item : α}
    (h : table.find? id = some item) : item ∈ table.values :=
  List.mem_map_of_mem (Assoc.mem_of_find? h)

/-- A table of items finds the last item with an identifier. -/
theorem find?_ofItems (id : α → Int) (items : List α) (key : Int) :
    (ofItems id items).find? key = items.reverse.find? fun item => decide (id item = key) := by
  rw [find?, ofItems, ofEntries, Assoc.find?_ofList, ← List.map_reverse, Assoc.find?_map_key]

/-- What is found in a table of items is one of them. -/
theorem mem_of_find?_ofItems {id : α → Int} {items : List α} {key : Int} {item : α}
    (h : (ofItems id items).find? key = some item) : item ∈ items := by
  rw [find?_ofItems] at h
  exact List.mem_reverse.1 (List.mem_of_find?_eq_some h)

/-- The identifiers of a table are those of its items. -/
theorem mem_keys_ofItems (id : α → Int) (items : List α) (key : Int) :
    key ∈ (ofItems id items).keys ↔ key ∈ items.map id := by
  rw [keys, ofItems, ofEntries, Assoc.mem_keys_ofList]
  simp [Assoc.keys]

/-- The identifiers of a table stand in the order of their first items. -/
theorem keys_ofItems (id : α → Int) (items : List α) :
    (ofItems id items).keys = (items.map id).eraseDups := by
  have hkeys : Assoc.keys (items.map fun item => (id item, item)) = items.map id := by
    simp [Assoc.keys]
  rw [keys, ofItems, ofEntries, Assoc.keys_ofList, hkeys]

/-- What is done with the identifiers in order is done with the items in order. -/
theorem map_keys_eq_map_values {β : Type} (table : Table α) {f : Int → β} {g : α → β}
    (h : ∀ id item, table.find? id = some item → f id = g item) :
    table.keys.map f = table.values.map g := by
  rw [keys, values, Assoc.keys, Assoc.values, List.map_map, List.map_map]
  refine List.map_congr_left fun entry hentry => ?_
  exact h entry.1 entry.2 (Assoc.find?_of_mem table.nodup hentry)

/-- Every item of a table is stored under its own identifier. -/
def KeyedBy (id : α → Int) (table : Table α) : Prop :=
  ∀ entry ∈ table.entries, id entry.2 = entry.1

instance (id : α → Int) (table : Table α) : Decidable (table.KeyedBy id) :=
  inferInstanceAs (Decidable (∀ entry ∈ table.entries, id entry.2 = entry.1))

/-- Items that know their own identifiers are stored under them. -/
theorem keyedBy_ofItems (id : α → Int) (items : List α) : (ofItems id items).KeyedBy id := by
  intro entry hentry
  have hfind := Assoc.find?_of_mem (ofItems id items).nodup hentry
  have hlast := (find?_ofItems id items entry.1).symm.trans hfind
  simpa using List.find?_some hlast

/-- The identifiers of the values are the keys, in the same order. -/
theorem KeyedBy.map_id_values {id : α → Int} {table : Table α} (h : table.KeyedBy id) :
    table.values.map id = table.keys := by
  rw [values, keys, Assoc.values, Assoc.keys, List.map_map]
  exact List.map_congr_left h

/-- A table whose items are stored under their own identifiers is rebuilt from its items. -/
theorem ofItems_values {id : α → Int} {table : Table α} (h : table.KeyedBy id) :
    ofItems id table.values = table := by
  have hentries : table.values.map (fun item => (id item, item)) = table.entries := by
    rw [values, Assoc.values, List.map_map]
    refine (List.map_congr_left fun entry hentry => ?_).trans (List.map_id _)
    exact Prod.ext (h entry hentry) rfl
  rw [ofItems, hentries, ofEntries_entries]

/-- The table with a function applied to each item. -/
def mapValues {β : Type} (f : α → β) (table : Table α) : Table β where
  entries := table.entries.map fun entry => (entry.1, f entry.2)
  nodup := by
    have hkeys : Assoc.keys (table.entries.map fun entry => (entry.1, f entry.2))
        = Assoc.keys table.entries := by
      simp [Assoc.keys]
    rw [hkeys]
    exact table.nodup

/-- A mapped table holds the mapped value under each key. -/
theorem find?_mapValues {β : Type} (f : α → β) (table : Table α) (id : Int) :
    (table.mapValues f).find? id = (table.find? id).map f :=
  Assoc.find?_map_value f id table.entries

/-- Mapping the values keeps the keys. -/
@[simp]
theorem keys_mapValues {β : Type} (f : α → β) (table : Table α) :
    (table.mapValues f).keys = table.keys := by
  simp [keys, Assoc.keys, mapValues]

/-- Items that keep their identifiers stay in their places. -/
theorem KeyedBy.mapValues {id : α → Int} {table : Table α} (h : table.KeyedBy id) {f : α → α}
    (hf : ∀ item, id (f item) = id item) : (table.mapValues f).KeyedBy id := by
  intro entry hentry
  obtain ⟨old, hold, rfl⟩ := List.mem_map.1 hentry
  rw [hf]
  exact h old hold

/-- Storing changed items in order gives the changed table. -/
theorem ofEntries_map {β : Type} (f : α → β) (table : Table α) :
    ofEntries (table.entries.map fun entry => (entry.1, f entry.2)) = table.mapValues f :=
  ofEntries_entries (table.mapValues f)

/-- A table stays as it is when none of its values is changed. -/
theorem mapValues_eq_self {f : α → α} {table : Table α}
    (h : ∀ entry ∈ table.entries, f entry.2 = entry.2) : table.mapValues f = table := by
  refine Table.ext ?_
  have hentry : ∀ entry ∈ table.entries, (entry.1, f entry.2) = entry := by
    intro entry hentry
    rw [h entry hentry]
  exact List.map_congr_left hentry |>.trans (List.map_id' _)

end Table
end CrateListing
