import Mathlib.Data.List.Nodup

/-!
# Python dictionaries

`dict`, and pyrin's `Context` and `DTO` that subclass it, as an association list in
insertion order with each key once. Iteration order matters to the code (`from_dict` walks
`kwargs.items()` in order), so the list is not quotiented. Assigning to a present key keeps
its position; a new key goes last.
-/

namespace Pyrin

structure Dict (κ α : Type) where
  entries : List (κ × α)
  nodup : (entries.map Prod.fst).Nodup
  deriving DecidableEq, Repr

namespace Dict

variable {κ α : Type} [DecidableEq κ]

def empty : Dict κ α := ⟨[], List.nodup_nil⟩

def keys (d : Dict κ α) : List κ := d.entries.map Prod.fst

def lookup (k : κ) : List (κ × α) → Option α
  | [] => none
  | (k', v) :: es => if k' = k then some v else lookup k es

def get? (d : Dict κ α) (k : κ) : Option α := lookup k d.entries

def get (d : Dict κ α) (k : κ) (default : α) : α := (d.get? k).getD default

def setEntries (k : κ) (v : α) : List (κ × α) → List (κ × α)
  | [] => [(k, v)]
  | (k', v') :: es => if k' = k then (k, v) :: es else (k', v') :: setEntries k v es

theorem keys_setEntries (k : κ) (v : α) (es : List (κ × α)) :
    (setEntries k v es).map Prod.fst =
      if k ∈ es.map Prod.fst then es.map Prod.fst else es.map Prod.fst ++ [k] := by
  induction es with
  | nil => rfl
  | cons e es ih =>
    obtain ⟨k', v'⟩ := e
    by_cases hk : k' = k
    · subst hk; simp [setEntries]
    · by_cases hm : k ∈ es.map Prod.fst <;>
        simp [setEntries, hk, ih, hm, Ne.symm hk]

theorem setEntries_nodup (k : κ) (v : α) {es : List (κ × α)} (h : (es.map Prod.fst).Nodup) :
    ((setEntries k v es).map Prod.fst).Nodup := by
  rw [keys_setEntries]
  split
  · exact h
  · rename_i hk
    exact List.nodup_append.mpr ⟨h, List.nodup_singleton k, by simpa using hk⟩

def set (d : Dict κ α) (k : κ) (v : α) : Dict κ α :=
  ⟨setEntries k v d.entries, setEntries_nodup k v d.nodup⟩

def pop (d : Dict κ α) (k : κ) (default : α) : α × Dict κ α :=
  (d.get k default, ⟨d.entries.filter (·.1 ≠ k), by
    have h := d.nodup.filter (fun x => decide (x ≠ k))
    rwa [List.filter_map] at h⟩)

-- ---------------------------------------------------------------------------
-- Lookup laws
-- ---------------------------------------------------------------------------

@[simp] theorem get?_empty (k : κ) : (empty : Dict κ α).get? k = none := rfl

theorem lookup_setEntries (k k' : κ) (v : α) (es : List (κ × α)) :
    lookup k' (setEntries k v es) = if k' = k then some v else lookup k' es := by
  induction es with
  | nil => simp [setEntries, lookup, eq_comm]
  | cons e es ih =>
    obtain ⟨k'', v'⟩ := e
    by_cases h : k'' = k
    · subst h
      by_cases h' : k'' = k'
      · subst h'; simp [setEntries, lookup]
      · simp [setEntries, lookup, h', Ne.symm h']
    · by_cases h' : k'' = k'
      · subst h'; simp [setEntries, lookup, h, Ne.symm h]
      · simp [setEntries, lookup, h, h', ih]

@[simp] theorem get?_set (d : Dict κ α) (k k' : κ) (v : α) :
    (d.set k v).get? k' = if k' = k then some v else d.get? k' :=
  lookup_setEntries k k' v d.entries

theorem lookup_isSome_iff (k : κ) (es : List (κ × α)) :
    (lookup k es).isSome ↔ k ∈ es.map Prod.fst := by
  induction es with
  | nil => simp [lookup]
  | cons e es ih =>
    obtain ⟨k', v⟩ := e
    by_cases h : k' = k
    · subst h; simp [lookup]
    · simp [lookup, h, ih, Ne.symm h]

theorem mem_keys (d : Dict κ α) (k : κ) : k ∈ d.keys ↔ (d.get? k).isSome :=
  (lookup_isSome_iff k d.entries).symm

theorem get?_eq_none (d : Dict κ α) (k : κ) : d.get? k = none ↔ k ∉ d.keys := by
  rw [mem_keys, Option.not_isSome_iff_eq_none]

@[simp] theorem keys_set (d : Dict κ α) (k : κ) (v : α) :
    (d.set k v).keys = if k ∈ d.keys then d.keys else d.keys ++ [k] :=
  keys_setEntries k v d.entries

theorem lookup_filter (k k' : κ) (es : List (κ × α)) :
    lookup k' (es.filter (·.1 ≠ k)) = if k' = k then none else lookup k' es := by
  induction es with
  | nil => simp [lookup]
  | cons e es ih =>
    obtain ⟨k'', v⟩ := e
    by_cases h : k'' = k
    · subst h; by_cases h' : k'' = k' <;> simp_all [lookup, List.filter_cons]
    · by_cases h' : k'' = k' <;> simp_all [lookup, List.filter_cons]

@[simp] theorem pop_fst (d : Dict κ α) (k : κ) (default : α) :
    (d.pop k default).1 = (d.get? k).getD default := rfl

@[simp] theorem get?_pop (d : Dict κ α) (k k' : κ) (default : α) :
    (d.pop k default).2.get? k' = if k' = k then none else d.get? k' :=
  lookup_filter k k' d.entries

end Dict

end Pyrin
