/-!
# Finite maps from names

A `Dict` is a finite map whose keys are names, kept as the list of its entries
in ascending order of the keys, so that two maps with the same entries are
equal and a listing of the keys is sorted and free of repetitions.

The main statement is `get?_insert`: an insertion changes the value of its own
key and of no other.
-/

namespace AnalyticsQuery

universe u

variable {α : Type u}

namespace Dict

/-- The value that the first entry of a key holds. -/
def find (key : String) : List (String × α) → Option α
  | [] => none
  | (k, v) :: rest => if k = key then some v else find key rest

/-- Put a value under a key, in the place where the keys stay ascending. -/
def put (key : String) (value : α) : List (String × α) → List (String × α)
  | [] => [(key, value)]
  | (k, v) :: rest =>
      if key < k then (key, value) :: (k, v) :: rest
      else if key = k then (key, value) :: rest
      else (k, v) :: put key value rest

theorem lt_of_not_lt_of_ne {a b : String} (hlt : ¬ a < b) (hne : a ≠ b) : b < a := by
  rcases String.le_total a b with h | h
  · exact absurd (String.le_antisymm h (String.not_lt.mp hlt)) hne
  · rcases Decidable.em (b < a) with h' | h'
    · exact h'
    · exact absurd (String.le_antisymm (String.not_lt.mp h') h) hne

theorem fst_mem_put {key : String} {value : α} {l : List (String × α)} {e : String × α}
    (h : e ∈ put key value l) : e.1 = key ∨ e ∈ l := by
  induction l with
  | nil =>
      simp only [put, List.mem_singleton] at h
      exact Or.inl (by rw [h])
  | cons head rest ih =>
      obtain ⟨k, v⟩ := head
      simp only [put] at h
      split at h
      · simp only [List.mem_cons] at h ⊢
        rcases h with h | h
        · exact Or.inl (by rw [h])
        · exact Or.inr h
      · split at h
        · simp only [List.mem_cons] at h ⊢
          rcases h with h | h
          · exact Or.inl (by rw [h])
          · exact Or.inr (Or.inr h)
        · simp only [List.mem_cons] at h ⊢
          rcases h with h | h
          · exact Or.inr (Or.inl h)
          · rcases ih h with h | h
            · exact Or.inl h
            · exact Or.inr (Or.inr h)

theorem put_ascending {key : String} {value : α} {l : List (String × α)}
    (h : l.Pairwise (fun a b => a.1 < b.1)) :
    (put key value l).Pairwise (fun a b => a.1 < b.1) := by
  induction l with
  | nil => simp [put]
  | cons head rest ih =>
      obtain ⟨k, v⟩ := head
      have hrest := List.pairwise_cons.mp h
      simp only [put]
      split
      · rename_i hlt
        refine List.pairwise_cons.mpr ⟨fun e he => ?_, h⟩
        rcases List.mem_cons.mp he with he | he
        · rw [he]; exact hlt
        · exact String.lt_trans hlt (hrest.1 e he)
      · rename_i hlt
        split
        · rename_i heq
          subst heq
          exact List.pairwise_cons.mpr ⟨fun e he => hrest.1 e he, hrest.2⟩
        · rename_i hne
          refine List.pairwise_cons.mpr ⟨fun e he => ?_, ih hrest.2⟩
          rcases fst_mem_put he with he | he
          · rw [he]; exact lt_of_not_lt_of_ne hlt hne
          · exact hrest.1 e he

end Dict

/-- A finite map from names to values, its entries in ascending order of their keys. -/
structure Dict (α : Type u) where
  entries : List (String × α)
  ascending : entries.Pairwise (fun a b => a.1 < b.1)

namespace Dict

/-- The map without entries. -/
def empty : Dict α where
  entries := []
  ascending := List.Pairwise.nil

instance : Inhabited (Dict α) := ⟨empty⟩

instance [DecidableEq α] : DecidableEq (Dict α) := fun a b =>
  decidable_of_iff (a.entries = b.entries)
    ⟨fun h => by cases a; cases b; cases h; rfl, fun h => by rw [h]⟩

/-- The value under a key. -/
def get? (d : Dict α) (key : String) : Option α :=
  find key d.entries

/-- Whether a key has a value. -/
def contains (d : Dict α) (key : String) : Bool :=
  (d.get? key).isSome

/-- The map with a value put under a key, in place of the one that was there. -/
def insert (d : Dict α) (key : String) (value : α) : Dict α where
  entries := put key value d.entries
  ascending := put_ascending d.ascending

/-- The keys in ascending order. -/
def keys (d : Dict α) : List String :=
  d.entries.map (·.1)

/-- The values in ascending order of their keys. -/
def values (d : Dict α) : List α :=
  d.entries.map (·.2)

/-- The number of keys. -/
def size (d : Dict α) : Nat :=
  d.entries.length

/-- The map of a list of entries; of two entries with one key the later counts. -/
def ofList (l : List (String × α)) : Dict α :=
  l.foldl (fun d e => d.insert e.1 e.2) empty

/-- The entries that satisfy a test. -/
def filter (p : String → α → Bool) (d : Dict α) : Dict α where
  entries := d.entries.filter fun e => p e.1 e.2
  ascending := d.ascending.sublist List.filter_sublist

/-- Apply a function to every value. -/
def map {β : Type u} (f : α → β) (d : Dict α) : Dict β where
  entries := d.entries.map fun e => (e.1, f e.2)
  ascending := List.pairwise_map.mpr d.ascending

theorem find_put (key k : String) (value : α) (l : List (String × α))
    (h : l.Pairwise (fun a b => a.1 < b.1)) :
    find k (put key value l) = if key = k then some value else find k l := by
  induction l with
  | nil => simp [put, find]
  | cons head rest ih =>
      obtain ⟨k', v⟩ := head
      have hrest := List.pairwise_cons.mp h
      simp only [put]
      split
      · simp [find]
      · split
        · rename_i heq
          subst heq
          simp only [find]
          split <;> rfl
        · rename_i hne
          simp only [find, ih hrest.2]
          split
          · rename_i hk
            subst hk
            simp [hne]
          · rfl

@[simp]
theorem get?_empty (key : String) : (empty : Dict α).get? key = none := rfl

@[simp]
theorem get?_insert (d : Dict α) (key k : String) (value : α) :
    (d.insert key value).get? k = if key = k then some value else d.get? k :=
  find_put key k value d.entries d.ascending

end Dict
end AnalyticsQuery
