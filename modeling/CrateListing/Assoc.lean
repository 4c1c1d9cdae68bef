/-!
# Association lists in order of first insertion

Keyed data whose order is visible in the output.  Writing to a key that is
already there replaces its value and leaves its position; a new key goes to the
end.

Main results:

- `find?_insert`: reading back after a write.
- `nodup_keys_insert`: writing never makes a key occur twice.
- `ofList_eq_self`: entries with distinct keys are stored as they are.
-/

namespace CrateListing
namespace Assoc

variable {κ α : Type} [DecidableEq κ]

/-- The value stored under a key. -/
def find? (key : κ) : List (κ × α) → Option α
  | [] => none
  | (k, value) :: rest => if k = key then some value else find? key rest

/-- Stores a value under a key. -/
def insert (key : κ) (value : α) : List (κ × α) → List (κ × α)
  | [] => [(key, value)]
  | (k, old) :: rest =>
      if k = key then (k, value) :: rest else (k, old) :: insert key value rest

/-- Stores entries one after the other. -/
def ofList (entries : List (κ × α)) : List (κ × α) :=
  entries.foldl (fun table entry => insert entry.1 entry.2 table) []

/-- The keys in order. -/
def keys (table : List (κ × α)) : List κ :=
  table.map Prod.fst

/-- The values in order. -/
def values (table : List (κ × α)) : List α :=
  table.map Prod.snd

/-! ## Reading back what was stored -/

@[simp]
theorem find?_nil (key : κ) : find? key ([] : List (κ × α)) = none :=
  rfl

/-- After an insertion the new value stands for its key, and other keys keep theirs. -/
theorem find?_insert (key other : κ) (value : α) (table : List (κ × α)) :
    find? other (insert key value table)
      = if key = other then some value else find? other table := by
  induction table with
  | nil => simp [insert, find?]
  | cons entry rest ih =>
      obtain ⟨k, old⟩ := entry
      by_cases hk : k = key
      · subst hk
        by_cases ho : k = other <;> simp [insert, find?, ho]
      · by_cases ho : k = other
        · subst ho
          simp [insert, find?, hk, Ne.symm hk]
        · simp [insert, find?, hk, ho, ih]

/-- An insertion adds its key and no other. -/
theorem mem_keys_insert (key other : κ) (value : α) (table : List (κ × α)) :
    other ∈ keys (insert key value table) ↔ other = key ∨ other ∈ keys table := by
  induction table with
  | nil => simp [insert, keys]
  | cons entry rest ih =>
      obtain ⟨k, old⟩ := entry
      by_cases hk : k = key
      · subst hk
        simp [insert, keys]
      · simp only [insert, hk, if_false, keys, List.map_cons, List.mem_cons] at ih ⊢
        rw [ih]
        constructor
        · rintro (h | h | h)
          · exact Or.inr (Or.inl h)
          · exact Or.inl h
          · exact Or.inr (Or.inr h)
        · rintro (h | h | h)
          · exact Or.inr (Or.inl h)
          · exact Or.inl h
          · exact Or.inr (Or.inr h)

/-- An insertion keeps the keys distinct. -/
theorem nodup_keys_insert (key : κ) (value : α) {table : List (κ × α)}
    (h : (keys table).Nodup) : (keys (insert key value table)).Nodup := by
  induction table with
  | nil => simp [insert, keys]
  | cons entry rest ih =>
      obtain ⟨k, old⟩ := entry
      have hrest : (keys rest).Nodup := (List.nodup_cons.1 h).2
      have hk : k ∉ keys rest := (List.nodup_cons.1 h).1
      by_cases heq : k = key
      · subst heq
        simpa [insert, keys] using h
      · simp only [insert, heq, if_false]
        refine List.nodup_cons.2 ⟨?_, ih hrest⟩
        intro hmem
        rcases (mem_keys_insert key k value rest).1 hmem with hkey | hold
        · exact heq hkey
        · exact hk hold

/-! ## Storing many entries -/

/-- Insertions one after the other keep the keys distinct. -/
theorem nodup_keys_foldl_insert (entries : List (κ × α)) {table : List (κ × α)}
    (h : (keys table).Nodup) :
    (keys (entries.foldl (fun table entry => insert entry.1 entry.2 table) table)).Nodup := by
  induction entries generalizing table with
  | nil => exact h
  | cons entry rest ih => exact ih (nodup_keys_insert entry.1 entry.2 h)

/-- The keys of a list that was built by insertions are distinct. -/
theorem nodup_keys_ofList (entries : List (κ × α)) : (keys (ofList entries)).Nodup :=
  nodup_keys_foldl_insert entries List.nodup_nil

/-- A new key is put at the end. -/
theorem insert_of_not_mem_keys (key : κ) (value : α) {table : List (κ × α)}
    (h : key ∉ keys table) : insert key value table = table ++ [(key, value)] := by
  induction table with
  | nil => rfl
  | cons entry rest ih =>
      obtain ⟨k, old⟩ := entry
      have hk : ¬ k = key := fun heq => h (by simp [keys, heq])
      have hrest : key ∉ keys rest := fun hmem => h (List.mem_cons_of_mem k hmem)
      simp [insert, hk, ih hrest]

/-- Entries with distinct new keys are put at the end in their order. -/
theorem foldl_insert_of_nodup (entries : List (κ × α)) {table : List (κ × α)}
    (h : (keys (table ++ entries)).Nodup) :
    entries.foldl (fun table entry => insert entry.1 entry.2 table) table = table ++ entries := by
  induction entries generalizing table with
  | nil => simp
  | cons entry rest ih =>
      obtain ⟨key, value⟩ := entry
      have hkey : key ∉ keys table := by
        intro hmem
        rw [keys, List.map_append, List.nodup_append] at h
        exact h.2.2 key hmem key (by simp) rfl
      have hsplit : table ++ (key, value) :: rest = (table ++ [(key, value)]) ++ rest := by simp
      rw [hsplit] at h
      simp only [List.foldl_cons]
      rw [insert_of_not_mem_keys key value hkey, ih h, hsplit]

/-- A list with distinct keys stays as it is when it is built by insertions. -/
theorem ofList_eq_self {entries : List (κ × α)} (h : (keys entries).Nodup) :
    ofList entries = entries :=
  foldl_insert_of_nodup entries h

end Assoc
end CrateListing
