/-!
# Tables

A table is a list of entries in the order in which their keys were first written. An entry that is
written again keeps its place and takes the new value, so no key occurs twice in a table that was
built by `put`.

* `Table.get?` — the value of a key.
* `Table.put` — one more entry written; `get?_put` says what is found then.
* `Table.keys` — the keys in order; `keys_put` says how they grow.
* `Table.ofEntries` — entries written one after the other; `ofEntries_of_nodup` says when they stay
  as they are.
-/

namespace Walkthrough

/-- Entries by key, in order. -/
abbrev Table (κ α : Type) := List (κ × α)

namespace Table

variable {κ α : Type}

def keys (table : Table κ α) : List κ := table.map Prod.fst

def values (table : Table κ α) : List α := table.map Prod.snd

variable [DecidableEq κ]

def get? (key : κ) : Table κ α → Option α
  | [] => none
  | (k, v) :: rest => if k = key then some v else get? key rest

def has (key : κ) (table : Table κ α) : Bool := (table.get? key).isSome

/-- The table after an entry is written. -/
def put (key : κ) (value : α) : Table κ α → Table κ α
  | [] => [(key, value)]
  | (k, v) :: rest => if k = key then (k, value) :: rest else (k, v) :: put key value rest

/-- The table of entries that are written one after the other. -/
def ofEntries (entries : List (κ × α)) : Table κ α :=
  entries.foldl (fun table entry => table.put entry.1 entry.2) []

@[simp] theorem get?_nil (key : κ) : get? key ([] : Table κ α) = none := rfl

theorem get?_cons (key k : κ) (v : α) (rest : Table κ α) :
    get? key ((k, v) :: rest) = if k = key then some v else get? key rest := rfl

/-- After an entry is written its key has its value, and every other key the value it had. -/
theorem get?_put (key k : κ) (value : α) (table : Table κ α) :
    get? k (put key value table) = if key = k then some value else get? k table := by
  induction table with
  | nil => rfl
  | cons entry rest ih =>
    obtain ⟨k', v⟩ := entry
    by_cases h : k' = key <;> by_cases hk : k' = k <;> grind [put, get?_cons]

/-- A key that is written again keeps its place; a new one comes last. -/
theorem keys_put (key : κ) (value : α) (table : Table κ α) :
    (put key value table).keys = if key ∈ table.keys then table.keys else table.keys ++ [key] := by
  induction table with
  | nil => rfl
  | cons entry rest ih =>
    obtain ⟨k, v⟩ := entry
    by_cases h : k = key <;> grind [put, keys]

theorem mem_of_get? {key : κ} {value : α} {table : Table κ α}
    (h : table.get? key = some value) : (key, value) ∈ table := by
  induction table with
  | nil => simp at h
  | cons entry rest ih =>
    obtain ⟨k, v⟩ := entry
    by_cases hk : k = key <;> grind [get?_cons]

/-- In a table without a second entry for a key, every entry is found. -/
theorem get?_of_mem {key : κ} {value : α} {table : Table κ α} (hnodup : table.keys.Nodup)
    (h : (key, value) ∈ table) : table.get? key = some value := by
  induction table with
  | nil => simp at h
  | cons entry rest ih =>
    obtain ⟨k, v⟩ := entry
    obtain ⟨hk, hrest⟩ := List.nodup_cons.mp hnodup
    rw [get?_cons]
    rcases List.mem_cons.mp h with heq | hmem
    · cases heq
      rw [if_pos rfl]
    · have hkey : key ∈ rest.map Prod.fst := List.mem_map_of_mem hmem
      rw [if_neg fun he : k = key => hk (he ▸ hkey)]
      exact ih hrest hmem

theorem mem_of_mem_put {key : κ} {value : α} {entry : κ × α} {table : Table κ α}
    (h : entry ∈ put key value table) : entry = (key, value) ∨ entry ∈ table := by
  induction table with
  | nil => exact .inl (List.mem_singleton.mp h)
  | cons first rest ih =>
    obtain ⟨k, v⟩ := first
    by_cases hk : k = key <;> grind [put]

/-- Whatever is in a table was written to it. -/
theorem mem_of_mem_ofEntries {entry : κ × α} {entries : List (κ × α)}
    (h : entry ∈ ofEntries entries) : entry ∈ entries := by
  have general (table : Table κ α)
      (hmem : entry ∈ entries.foldl (fun table entry => table.put entry.1 entry.2) table) :
      entry ∈ table ∨ entry ∈ entries := by
    clear h
    induction entries generalizing table with
    | nil => exact .inl hmem
    | cons first rest ih =>
      rcases ih _ hmem with hput | hrest
      · rcases mem_of_mem_put hput with hnew | hold
        · exact .inr (hnew ▸ List.mem_cons_self)
        · exact .inl hold
      · exact .inr (List.mem_cons_of_mem _ hrest)
  rcases general [] h with hnil | hmem
  · exact absurd hnil List.not_mem_nil
  · exact hmem

/-- No key occurs twice in a table to which entries are written. -/
theorem nodup_keys_put {key : κ} {value : α} {table : Table κ α} (h : table.keys.Nodup) :
    (put key value table).keys.Nodup := by
  rw [keys_put]
  split
  · exact h
  · rename_i hk
    rw [List.nodup_append]
    exact ⟨h, by simp, by grind⟩

theorem nodup_keys_ofEntries (entries : List (κ × α)) : (ofEntries entries).keys.Nodup := by
  have general (table : Table κ α) (h : table.keys.Nodup) :
      (entries.foldl (fun table entry => table.put entry.1 entry.2) table).keys.Nodup := by
    induction entries generalizing table with
    | nil => exact h
    | cons entry rest ih => exact ih _ (nodup_keys_put h)
  exact general [] List.nodup_nil

/-- An entry with a new key comes last. -/
theorem put_of_not_mem {key : κ} {value : α} {table : Table κ α} (h : key ∉ table.keys) :
    put key value table = table ++ [(key, value)] := by
  induction table with
  | nil => rfl
  | cons entry rest ih =>
    obtain ⟨k, v⟩ := entry
    have hk : k ≠ key := fun he => h (he ▸ List.mem_cons_self)
    have hrest : key ∉ keys rest := fun hmem => h (List.mem_cons_of_mem k hmem)
    rw [put, if_neg hk, ih hrest]
    rfl

/-- Entries that have a key each are a table as they are. -/
theorem ofEntries_of_nodup {entries : Table κ α} (h : entries.keys.Nodup) :
    ofEntries entries = entries := by
  have general (table : Table κ α) (hnodup : (table ++ entries).keys.Nodup) :
      entries.foldl (fun table entry => table.put entry.1 entry.2) table = table ++ entries := by
    clear h
    induction entries generalizing table with
    | nil => exact (List.append_nil table).symm
    | cons entry rest ih =>
      have hnew : entry.1 ∉ table.keys := by
        rw [keys, List.map_append, List.nodup_append] at hnodup
        exact fun hmem => hnodup.2.2 _ hmem _ List.mem_cons_self rfl
      have happend : table ++ entry :: rest = (table ++ [entry]) ++ rest := by simp
      rw [happend] at hnodup ⊢
      rw [List.foldl_cons, put_of_not_mem hnew]
      exact ih _ hnodup
  exact general [] h

end Table

end Walkthrough
