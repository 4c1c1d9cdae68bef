import CrateListing.Assoc

/-!
# Tables

A table holds items by identifier, in the order in which the identifiers first
appeared.  No identifier occurs twice: of several items with one identifier the
last one counts.

Main definitions:

- `Table.ofEntries`, `Table.ofItems`: tables from lists in which identifiers may repeat.
- `Table.find?`: the item with an identifier.
-/

namespace CrateListing

/-- Items by identifier, in order. -/
@[ext]
structure Table (α : Type) where
  entries : List (Int × α)
  nodup : (Assoc.keys entries).Nodup
deriving Repr

namespace Table

variable {α : Type}

/-- The table without items. -/
def empty : Table α :=
  ⟨[], List.nodup_nil⟩

instance : Inhabited (Table α) :=
  ⟨empty⟩

/-- The table in which entries are stored one after the other. -/
def ofEntries (entries : List (Int × α)) : Table α :=
  ⟨Assoc.ofList entries, Assoc.nodup_keys_ofList entries⟩

/-- The table of items that know their own identifier. -/
def ofItems (id : α → Int) (items : List α) : Table α :=
  ofEntries (items.map fun item => (id item, item))

/-- The item with an identifier. -/
def find? (table : Table α) (id : Int) : Option α :=
  Assoc.find? id table.entries

/-- The identifiers in order. -/
def keys (table : Table α) : List Int :=
  Assoc.keys table.entries

/-- The items in order. -/
def values (table : Table α) : List α :=
  Assoc.values table.entries

/-- The number of items. -/
def size (table : Table α) : Nat :=
  table.entries.length

/-! ## Tables and their entries -/

/-- There is nothing in an empty table. -/
@[simp]
theorem find?_empty (id : Int) : (empty : Table α).find? id = none :=
  rfl

/-- A table is built again from its entries. -/
@[simp]
theorem ofEntries_entries (table : Table α) : ofEntries table.entries = table :=
  Table.ext (Assoc.ofList_eq_self table.nodup)

/-- A table has as many keys as entries. -/
theorem length_keys (table : Table α) : table.keys.length = table.size := by
  simp [keys, Assoc.keys, size]

end Table
end CrateListing
