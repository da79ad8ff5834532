import RouteTree.Proofs.Trees
import RouteTree.Value
import Mathlib.Data.Finset.Card
import Mathlib.Data.List.Basic

namespace RouteTree

namespace Entries

variable {α : Type}

def LastUnder (key : Text) (value : α) (insertions : Entries α) : Prop :=
  ∃ before after, insertions = before ++ (key, value) :: after ∧ key ∉ keys after

/-- The keys, their number and the lookup are what the insertions leave. -/
structure Records (insertions : Entries α) (names : List Text) (size : Nat)
    (get? : Text → Option α) : Prop where
  distinct : names.Nodup
  inserted : ∀ key, key ∈ names ↔ key ∈ insertions.keys
  ordered : names.Pairwise fun key later =>
    insertions.keys.idxOf key < insertions.keys.idxOf later
  size : size = insertions.keys.toFinset.card
  last : ∀ key value, get? key = some value ↔ insertions.LastUnder key value
  missing : ∀ key, get? key = none ↔ key ∉ insertions.keys

theorem keys_append (entries more : Entries α) :
    keys (entries ++ more) = entries.keys ++ more.keys :=
  List.map_append

theorem keys_concat (entries : Entries α) (key : Text) (value : α) :
    keys (entries ++ [(key, value)]) = entries.keys ++ [key] :=
  keys_append entries [(key, value)]

theorem lastUnder_concat {insertions : Entries α} {key other : Text} {value last : α} :
    LastUnder other last (insertions ++ [(key, value)]) ↔
      if key = other then value = last else insertions.LastUnder other last := by
  constructor
  · rintro ⟨before, after, heq, hafter⟩
    rcases List.eq_nil_or_concat after with rfl | ⟨middle, newest, rfl⟩
    · obtain ⟨-, hentry⟩ := List.append_inj' heq rfl
      cases hentry
      rw [if_pos rfl]
    · rw [List.concat_eq_append, ← List.cons_append, ← List.append_assoc] at heq
      obtain ⟨hinsertions, hentry⟩ := List.append_inj' heq rfl
      cases hentry
      rw [List.concat_eq_append, keys_concat, List.mem_append, not_or, List.mem_singleton] at hafter
      rw [if_neg (Ne.symm hafter.2)]
      exact ⟨before, middle, hinsertions, hafter.1⟩
  · intro h
    split at h
    · rename_i hkey
      subst hkey h
      exact ⟨insertions, [], rfl, List.not_mem_nil⟩
    · rename_i hkey
      obtain ⟨before, after, rfl, hafter⟩ := h
      refine ⟨before, after ++ [(key, value)], by simp, ?_⟩
      rw [keys_concat, List.mem_append, not_or, List.mem_singleton]
      exact ⟨hafter, Ne.symm hkey⟩

section

variable {insertions entries : Entries α}

theorem pairwise_insert (hmem : ∀ key, key ∈ entries.keys ↔ key ∈ insertions.keys)
    (h : entries.keys.Pairwise fun key later =>
      insertions.keys.idxOf key < insertions.keys.idxOf later) (key : Text) (value : α) :
    (entries.insert key value).keys.Pairwise fun first later =>
      (keys (insertions ++ [(key, value)])).idxOf first <
        (keys (insertions ++ [(key, value)])).idxOf later := by
  have hidx : ∀ old ∈ entries.keys,
      (insertions.keys ++ [key]).idxOf old = insertions.keys.idxOf old := by
    intro old hold
    exact List.idxOf_append_of_mem ((hmem old).mp hold)
  have hold : entries.keys.Pairwise fun first later =>
      (insertions.keys ++ [key]).idxOf first < (insertions.keys ++ [key]).idxOf later := by
    refine h.imp_of_mem ?_
    intro first later hfirst hlater hlt
    rwa [hidx first hfirst, hidx later hlater]
  rw [keys_concat, keys_insert]
  split
  · exact hold
  · rename_i hnew
    rw [List.pairwise_append]
    refine ⟨hold, List.pairwise_singleton _ _, ?_⟩
    intro old hmemold newest hnewest
    rw [List.mem_singleton] at hnewest
    subst hnewest
    have hnew : newest ∉ insertions.keys := fun h => hnew ((hmem newest).mpr h)
    rw [hidx old hmemold, List.idxOf_append_of_notMem hnew]
    exact Nat.lt_add_right _ (List.idxOf_lt_length_of_mem ((hmem old).mp hmemold))

theorem length_eq_card (hnodup : entries.keys.Nodup)
    (hmem : ∀ key, key ∈ entries.keys ↔ key ∈ insertions.keys) :
    entries.length = insertions.keys.toFinset.card := by
  have hsame : entries.keys.toFinset = insertions.keys.toFinset := by
    ext key
    rw [List.mem_toFinset, List.mem_toFinset]
    exact hmem key
  rw [← hsame, List.toFinset_card_of_nodup hnodup, length_keys]

theorem Records.insert (h : Records insertions entries.keys entries.length (entries.get? ·))
    (key : Text) (value : α) :
    Records (insertions ++ [(key, value)]) (entries.insert key value).keys
      (entries.insert key value).length ((entries.insert key value).get? ·) := by
  have hdistinct := nodup_keys_insert key value h.distinct
  have hinserted : ∀ other, other ∈ (entries.insert key value).keys ↔
      other ∈ keys (insertions ++ [(key, value)]) := by
    intro other
    rw [mem_keys_insert, keys_concat, List.mem_append, List.mem_singleton, h.inserted]
  refine ⟨hdistinct, hinserted, pairwise_insert h.inserted h.ordered key value,
    length_eq_card hdistinct hinserted, ?_, ?_⟩
  · intro other last
    rw [get?_insert, lastUnder_concat, ← h.last]
    split
    · rw [Option.some_inj]
    · rfl
  · intro other
    rw [get?_eq_none, hinserted]

theorem records_nil :
    let none : Entries α := []
    Records none none.keys none.length (none.get? ·) := by
  refine ⟨List.nodup_nil, fun _ => Iff.rfl, .nil, rfl, ?_, ?_⟩
  · intro key value
    refine iff_of_false nofun ?_
    rintro ⟨before, after, heq, -⟩
    exact absurd heq (by simp)
  · exact fun _ => iff_of_true rfl List.not_mem_nil

theorem Records.insertAll (h : Records insertions entries.keys entries.length (entries.get? ·))
    (new : Entries α) :
    Records (insertions ++ new) (entries.insertAll new).keys (entries.insertAll new).length
      ((entries.insertAll new).get? ·) := by
  induction new generalizing insertions entries with
  | nil => rwa [List.append_nil]
  | cons entry rest ih =>
      have hstep := ih (h.insert entry.1 entry.2)
      rwa [List.append_assoc] at hstep

theorem idxOf?_keys_insert {key other : Text} (hne : other ≠ key) (value : α) :
    (entries.insert key value).keys.idxOf? other = entries.keys.idxOf? other := by
  induction entries with
  | nil =>
      have hkeys : (insert key value []).keys = [key] := rfl
      simp [hkeys, List.idxOf?_cons, Ne.symm hne]
  | cons entry rest ih =>
      obtain ⟨k, old⟩ := entry
      rw [insert]
      split
      · rfl
      · rw [keys_cons, keys_cons, List.idxOf?_cons, List.idxOf?_cons, ih]

end

end Entries

namespace Bindings

variable {α : Type}

def insertAll (b : Bindings α) (new : List (Text × α)) : Bindings α :=
  new.foldl (fun b entry => b.insert entry.1 entry.2) b

theorem entries_insertAll (b : Bindings α) (new : List (Text × α)) :
    (b.insertAll new).entries = b.entries.insertAll new := by
  induction new generalizing b with
  | nil => rfl
  | cons entry rest ih => exact ih (b.insert entry.1 entry.2)

end Bindings

namespace Branch

def insertAll (b : Branch) (new : List (Text × Node)) : Branch :=
  new.foldl (fun b entry => b.insert entry.1 entry.2) b

theorem insertAll_eq (b : Branch) (new : List (Text × Node)) :
    b.insertAll new = ⟨b.base, b.children.insertAll new⟩ := by
  induction new generalizing b with
  | nil => rfl
  | cons entry rest ih => exact ih (b.insert entry.1 entry.2)

end Branch

/-- Mappings and branches record their insertions, and an insertion moves no other key. -/
theorem Bindings.insertions_recorded {α : Type} :
    (∀ pairs insertions : List (Text × α),
      let b := (ofList pairs).insertAll insertions
      Entries.Records (pairs ++ insertions) b.keys b.size (b.get? ·)) ∧
    (∀ (base : Text) (insertions : List (Text × Node)),
      let b := (Branch.ofBase base).insertAll insertions
      b.base = base ∧ Entries.Records insertions b.keys b.size (b.get? ·)) ∧
    (∀ (b : Bindings α) (key other : Text) (value : α), other ≠ key →
      (b.insert key value).get? other = b.get? other ∧
        (b.insert key value).keys.idxOf? other = b.keys.idxOf? other) ∧
    ∀ (b : Branch) (key other : Text) (node : Node), other ≠ key →
      (b.insert key node).get? other = b.get? other ∧
        (b.insert key node).keys.idxOf? other = b.keys.idxOf? other := by
  refine ⟨?_, ?_, ?_, ?_⟩
  · intro pairs insertions b
    have hpairs := Entries.records_nil.insertAll pairs
    have hall := Entries.Records.insertAll hpairs insertions
    have hentries : b.entries = Entries.insertAll (Entries.insertAll [] pairs) insertions :=
      entries_insertAll (ofList pairs) insertions
    rw [← hentries] at hall
    exact hall
  · intro base insertions b
    have hb : b = ⟨base, Entries.insertAll [] insertions⟩ :=
      Branch.insertAll_eq (Branch.ofBase base) insertions
    rw [hb]
    exact ⟨rfl, Entries.records_nil.insertAll insertions⟩
  · intro b key other value hne
    exact ⟨(Entries.get?_insert key other value b.entries).trans (if_neg (Ne.symm hne)),
      Entries.idxOf?_keys_insert hne value⟩
  · intro b key other node hne
    exact ⟨(Entries.get?_insert key other node b.children).trans (if_neg (Ne.symm hne)),
      Entries.idxOf?_keys_insert hne node⟩

theorem Bindings.insertions_recorded_repeated :
    let pairs : List (Text × Nat) := [(['a'], 1), (['b'], 2), (['a'], 3)]
    let insertions : List (Text × Nat) := [(['c'], 4), (['b'], 5)]
    let b := (ofList pairs).insertAll insertions
    b.entries = [(['a'], 3), (['b'], 5), (['c'], 4)] ∧
      Entries.Records (pairs ++ insertions) b.keys b.size (b.get? ·) ∧ ['c'] ≠ ['a'] ∧
      (b.insert ['a'] 6).get? ['c'] = b.get? ['c'] ∧
      (b.insert ['a'] 6).keys.idxOf? ['c'] = b.keys.idxOf? ['c'] := by
  intro pairs insertions b
  have hne : ['c'] ≠ ['a'] := by decide
  exact ⟨rfl, insertions_recorded.1 pairs insertions, hne,
    insertions_recorded.2.2.1 b ['a'] ['c'] 6 hne⟩

end RouteTree
