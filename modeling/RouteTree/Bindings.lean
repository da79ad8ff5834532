import RouteTree.Text

namespace RouteTree

/-! Lists of keys with values, in which a key keeps the place of its first insertion. -/

abbrev Entries (α : Type) := List (Text × α)

namespace Entries

variable {α : Type}

def keys (entries : Entries α) : List Text := entries.map Prod.fst

def get? (key : Text) : Entries α → Option α
  | [] => none
  | (k, value) :: rest => if k = key then some value else get? key rest

/-- Replaces the value of `key` in its place, or puts a new entry at the end. -/
def insert (key : Text) (value : α) : Entries α → Entries α
  | [] => [(key, value)]
  | (k, old) :: rest =>
      if k = key then (k, value) :: rest else (k, old) :: insert key value rest

def insertAll (entries new : Entries α) : Entries α :=
  new.foldl (fun known entry => known.insert entry.1 entry.2) entries

def collect (new : Entries α) : Entries α := insertAll [] new

@[simp] theorem keys_nil : keys ([] : Entries α) = [] := rfl

@[simp] theorem keys_cons (key : Text) (value : α) (rest : Entries α) :
    keys ((key, value) :: rest) = key :: keys rest := rfl

@[simp] theorem length_keys (entries : Entries α) : entries.keys.length = entries.length := by
  simp [keys]

theorem isSome_get? (key : Text) (entries : Entries α) :
    (entries.get? key).isSome = true ↔ key ∈ entries.keys := by
  induction entries with
  | nil => simp [get?]
  | cons entry rest ih =>
      obtain ⟨k, value⟩ := entry
      by_cases h : k = key
      · simp [get?, h]
      · have hne : key ≠ k := fun heq => h heq.symm
        simpa [get?, h, hne] using ih

theorem get?_eq_none {entries : Entries α} {key : Text} :
    entries.get? key = none ↔ key ∉ entries.keys := by
  rw [← isSome_get?, Bool.not_eq_true, Option.isSome_eq_false_iff, Option.isNone_iff_eq_none]

theorem mem_of_get? {entries : Entries α} {key : Text} {value : α}
    (h : entries.get? key = some value) : (key, value) ∈ entries := by
  induction entries with
  | nil => cases h
  | cons entry rest ih =>
      obtain ⟨k, first⟩ := entry
      rw [get?] at h
      split at h
      · rename_i hkey
        cases h
        rw [hkey]
        exact List.mem_cons_self
      · exact List.mem_cons_of_mem _ (ih h)

theorem get?_eq_some_iff {entries : Entries α} (h : entries.keys.Nodup) {key : Text} {value : α} :
    entries.get? key = some value ↔ (key, value) ∈ entries := by
  induction entries with
  | nil => simp [get?]
  | cons entry rest ih =>
      obtain ⟨k, first⟩ := entry
      rw [keys_cons, List.nodup_cons] at h
      by_cases hkey : k = key
      · subst hkey
        have hnew : (k, value) ∉ rest := fun hmem => h.1 (List.mem_map_of_mem hmem)
        simp [get?, hnew, eq_comm]
      · have hne : key ≠ k := fun heq => hkey heq.symm
        simp [get?, hkey, hne, ih h.2]

theorem keys_insert (key : Text) (value : α) (entries : Entries α) :
    (entries.insert key value).keys =
      if key ∈ entries.keys then entries.keys else entries.keys ++ [key] := by
  induction entries with
  | nil => rfl
  | cons entry rest ih =>
      obtain ⟨k, old⟩ := entry
      by_cases h : k = key
      · simp [insert, h]
      · have hne : key ≠ k := fun heq => h heq.symm
        by_cases hmem : key ∈ keys rest <;> simp [insert, h, hne, ih, hmem]

theorem mem_keys_insert {key other : Text} {value : α} {entries : Entries α} :
    other ∈ (entries.insert key value).keys ↔ other ∈ entries.keys ∨ other = key := by
  rw [keys_insert]
  split
  · rename_i hmem
    exact (or_iff_left_of_imp fun heq => heq ▸ hmem).symm
  · rw [List.mem_append, List.mem_singleton]

theorem get?_insert (key other : Text) (value : α) (entries : Entries α) :
    (entries.insert key value).get? other =
      if key = other then some value else entries.get? other := by
  induction entries with
  | nil => rfl
  | cons entry rest ih =>
      obtain ⟨k, old⟩ := entry
      by_cases h : k = key
      · subst h
        by_cases ho : k = other <;> simp [insert, get?, ho]
      · by_cases ho : k = other
        · subst ho
          have hne : key ≠ k := fun heq => h heq.symm
          simp [insert, get?, h, hne]
        · simp [insert, get?, h, ho, ih]

theorem nodup_keys_insert (key : Text) (value : α) {entries : Entries α}
    (h : entries.keys.Nodup) : (entries.insert key value).keys.Nodup := by
  rw [keys_insert]
  split
  · exact h
  · rename_i hnew
    rw [List.nodup_append]
    refine ⟨h, by simp, ?_⟩
    intro left hleft right hright heq
    simp only [List.mem_singleton] at hright
    subst hright heq
    exact hnew hleft

theorem nodup_keys_insertAll (new : Entries α) {entries : Entries α}
    (h : entries.keys.Nodup) : (entries.insertAll new).keys.Nodup := by
  induction new generalizing entries with
  | nil => exact h
  | cons entry rest ih => exact ih (nodup_keys_insert entry.1 entry.2 h)

theorem insert_of_not_mem {key : Text} {entries : Entries α} (h : key ∉ entries.keys)
    (value : α) : entries.insert key value = entries ++ [(key, value)] := by
  induction entries with
  | nil => rfl
  | cons entry rest ih =>
      obtain ⟨k, old⟩ := entry
      rw [keys_cons, List.mem_cons, not_or] at h
      rw [insert, if_neg (Ne.symm h.1), ih h.2, List.cons_append]

theorem insertAll_eq_append {entries new : Entries α} (h : (keys (entries ++ new)).Nodup) :
    entries.insertAll new = entries ++ new := by
  induction new generalizing entries with
  | nil => exact (List.append_nil entries).symm
  | cons entry rest ih =>
      have hassoc : entries ++ entry :: rest = (entries ++ [entry]) ++ rest := by simp
      have hnew : entry.1 ∉ entries.keys := by
        intro hmem
        simp only [keys, List.map_append, List.map_cons] at h hmem
        exact (List.nodup_append.mp h).2.2 entry.1 hmem entry.1 List.mem_cons_self rfl
      have hinsert : entries.insertAll (entry :: rest) =
          (entries.insert entry.1 entry.2).insertAll rest := rfl
      rw [hassoc] at h ⊢
      rw [hinsert, insert_of_not_mem hnew]
      exact ih h

theorem collect_of_nodup {new : Entries α} (h : new.keys.Nodup) : collect new = new :=
  insertAll_eq_append h

end Entries

/-- Entries whose keys are pairwise distinct. -/
structure Bindings (α : Type) where
  entries : Entries α
  nodup : entries.keys.Nodup

namespace Bindings

variable {α : Type}

def empty : Bindings α := ⟨[], List.nodup_nil⟩

def insert (key : Text) (value : α) (b : Bindings α) : Bindings α :=
  ⟨b.entries.insert key value, Entries.nodup_keys_insert key value b.nodup⟩

def ofList (new : List (Text × α)) : Bindings α :=
  ⟨Entries.collect new, Entries.nodup_keys_insertAll new List.nodup_nil⟩

def get? (key : Text) (b : Bindings α) : Option α := b.entries.get? key

def contains (key : Text) (b : Bindings α) : Bool := (b.get? key).isSome

def keys (b : Bindings α) : List Text := b.entries.keys

def size (b : Bindings α) : Nat := b.entries.length

def isEmpty (b : Bindings α) : Bool := b.entries.isEmpty

end Bindings

end RouteTree
