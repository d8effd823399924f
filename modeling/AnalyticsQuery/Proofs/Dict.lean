import AnalyticsQuery.Dict

/-!
# Finite maps of lists of entries

Facts about the map that is made from a list of entries by one insertion after
another.

* `keys_ofList_congr`: the keys of the map depend on the keys of the list only,
  not on the values under them.
* `get?_ofList_eq_some_iff`: of the entries of one key, the last one counts, so
  that the map has no entries but those of the list (`mem_of_get?_ofList`), and
  all of them when their keys are pairwise distinct (`get?_ofList_of_mem`).
* `entries_ofList_perm`, `keys_ofList_perm`: then its entries are those of the
  list in another order, and so are its keys.
* `contains_ofList`: the map has a value for every key of the list, and for no other.
* `contains_iff_mem_keys`: the keys of a map are those that have a value.
* `get?_filter`: taking entries out by a test takes each out on its own.
* `map_injective`: a map can be told from the values of a function on it, if the
  function tells values apart.
-/

namespace AnalyticsQuery
namespace Dict

variable {α β : Type}

theorem put_map
    (f : α → β) (key : String) (value : α) (l : List (String × α)) :
    put key (f value) (l.map fun e => (e.1, f e.2)) =
      (put key value l).map fun e => (e.1, f e.2) := by
  induction l with
  | nil => rfl
  | cons head rest ih =>
      obtain ⟨k, v⟩ := head
      rw [List.map_cons]
      simp only [put]
      rw [ih]
      split
      · rfl
      · split <;> rfl

theorem map_insert
    (f : α → β) (d : Dict α) (key : String) (value : α) :
    (d.insert key value).map f = (d.map f).insert key (f value) := by
  simp only [map, insert, put_map]

/-- The values of a map that is made from a list can be changed in the list. -/
theorem map_ofList
    (f : α → β) (l : List (String × α)) :
    (ofList l).map f = ofList (l.map fun e => (e.1, f e.2)) := by
  have hfold :
      ∀ (l : List (String × α)) (d : Dict α),
        (l.foldl (fun d e => d.insert e.1 e.2) d).map f =
          (l.map fun e => (e.1, f e.2)).foldl (fun d e => d.insert e.1 e.2) (d.map f) := by
    intro l
    induction l with
    | nil =>
        intro d
        rfl
    | cons e l ih =>
        intro d
        rw [List.foldl_cons, ih, map_insert]
        rfl
  exact hfold l empty

@[simp] theorem keys_map (f : α → β) (d : Dict α) : (d.map f).keys = d.keys := by
  simp [keys, map]

/-- The keys of a map do not depend on the values in the list that it is made from. -/
theorem keys_ofList_congr
    {l : List (String × α)} {m : List (String × β)}
    (h : l.map Prod.fst = m.map Prod.fst) :
    (ofList l).keys = (ofList m).keys := by
  have hunits :
      (l.map fun e => (e.1, ())) = m.map fun e => (e.1, ()) := by
    have hkeys := congrArg (List.map fun key : String => (key, ())) h
    rw [List.map_map, List.map_map] at hkeys
    exact hkeys
  calc (ofList l).keys
      = ((ofList l).map fun _ => ()).keys := (keys_map _ _).symm
    _ = ((ofList m).map fun _ => ()).keys := by
        rw [map_ofList, map_ofList, hunits]
    _ = (ofList m).keys := keys_map _ _

/-- In a map that is made from entries, the last entry of a key counts. -/
theorem get?_ofList_eq_some_iff {key : String} {value : α} {l : List (String × α)} :
    (ofList l).get? key = some value ↔
      ∃ before after, l = before ++ (key, value) :: after ∧ key ∉ after.map Prod.fst := by
  have hfold :
      ∀ d : Dict α, (l.foldl (fun d e => d.insert e.1 e.2) d).get? key = some value ↔
        (∃ before after, l = before ++ (key, value) :: after ∧ key ∉ after.map Prod.fst) ∨
          key ∉ l.map Prod.fst ∧ d.get? key = some value := by
    induction l with
    | nil => simp
    | cons e l ih =>
        intro d
        rw [List.foldl_cons, ih, get?_insert]
        constructor
        · rintro (⟨before, after, rfl, hlast⟩ | ⟨hnot, h⟩)
          · exact Or.inl ⟨e :: before, after, rfl, hlast⟩
          · split at h
            · rename_i hkey
              cases h
              exact Or.inl ⟨[], l, by rw [← hkey]; rfl, hnot⟩
            · rename_i hkey
              refine Or.inr ⟨?_, h⟩
              rw [List.map_cons, List.mem_cons, not_or]
              exact ⟨Ne.symm hkey, hnot⟩
        · rintro (⟨before, after, heq, hlast⟩ | ⟨hnot, h⟩)
          · cases before with
            | nil =>
                cases heq
                exact Or.inr ⟨hlast, if_pos rfl⟩
            | cons e' before =>
                cases heq
                exact Or.inl ⟨before, after, rfl, hlast⟩
          · rw [List.map_cons, List.mem_cons, not_or] at hnot
            exact Or.inr ⟨hnot.2, by rw [if_neg (Ne.symm hnot.1)]; exact h⟩
  simpa [ofList] using hfold empty

/-- A map that is made from entries has no others. -/
theorem mem_of_get?_ofList
    {key : String} {value : α} {l : List (String × α)} (h : (ofList l).get? key = some value) :
    (key, value) ∈ l := by
  obtain ⟨before, after, rfl, -⟩ := get?_ofList_eq_some_iff.mp h
  simp

/-- A map that is made from entries under pairwise distinct keys has all of them. -/
theorem get?_ofList_of_mem
    {key : String} {value : α} {l : List (String × α)}
    (hkeys : (l.map Prod.fst).Nodup) (h : (key, value) ∈ l) :
    (ofList l).get? key = some value := by
  obtain ⟨before, after, rfl⟩ := List.append_of_mem h
  rw [List.map_append, List.map_cons, List.nodup_append] at hkeys
  exact get?_ofList_eq_some_iff.mpr ⟨before, after, rfl, (List.nodup_cons.mp hkeys.2.1).1⟩

theorem put_perm
    {key : String} {l : List (String × α)} (h : key ∉ l.map Prod.fst) (value : α) :
    (put key value l).Perm ((key, value) :: l) := by
  induction l with
  | nil => exact List.Perm.refl _
  | cons head rest ih =>
      obtain ⟨k, v⟩ := head
      simp only [List.map_cons, List.mem_cons, not_or] at h
      obtain ⟨hne, hrest⟩ := h
      simp only [put, if_neg hne]
      split
      · exact List.Perm.refl _
      · exact ((ih hrest).cons (k, v)).trans (List.Perm.swap (key, value) (k, v) _)

/-- A map that is made from entries under pairwise distinct keys has these entries and no other. -/
theorem entries_ofList_perm
    {l : List (String × α)} (hkeys : (l.map Prod.fst).Nodup) :
    (ofList l).entries.Perm l := by
  have hfold :
      ∀ d : Dict α, (∀ key ∈ l.map Prod.fst, key ∉ d.keys) →
        (l.foldl (fun d e => d.insert e.1 e.2) d).entries.Perm (l ++ d.entries) := by
    induction l with
    | nil =>
        intro d _
        exact List.Perm.refl _
    | cons e l ih =>
        intro d hd
        rw [List.map_cons, List.nodup_cons] at hkeys
        obtain ⟨hfresh, hkeys⟩ := hkeys
        have hinsert : (d.insert e.1 e.2).entries.Perm (e :: d.entries) :=
          put_perm (hd e.1 (List.mem_cons_self ..)) e.2
        have hrest : ∀ key ∈ l.map Prod.fst, key ∉ (d.insert e.1 e.2).keys := by
          intro key hkey hmem
          rcases List.mem_cons.mp ((hinsert.map Prod.fst).mem_iff.mp hmem) with rfl | hmem
          · exact hfresh hkey
          · exact hd key (List.mem_cons_of_mem e.1 hkey) hmem
        have htail := (ih hkeys (d.insert e.1 e.2) hrest).trans (hinsert.append_left _)
        exact htail.trans List.perm_middle
  have hall := hfold empty fun _ _ hmem => by cases hmem
  simpa [ofList, empty] using hall

theorem keys_ofList_perm
    {l : List (String × α)} (hkeys : (l.map Prod.fst).Nodup) :
    (ofList l).keys.Perm (l.map Prod.fst) :=
  (entries_ofList_perm hkeys).map Prod.fst

theorem eq_of_entries {d d' : Dict α} (h : d.entries = d'.entries) : d = d' := by
  cases d
  cases d'
  cases h
  rfl

/-- A function that tells values apart tells maps apart. -/
theorem map_injective
    {f : α → β} (hf : ∀ a b, f a = f b → a = b) {d d' : Dict α} (h : d.map f = d'.map f) :
    d = d' := by
  have hentries :
      d.entries.map (fun e => (e.1, f e.2)) = d'.entries.map fun e => (e.1, f e.2) :=
    congrArg Dict.entries h
  have hentry : ∀ e e' : String × α, (e.1, f e.2) = (e'.1, f e'.2) → e = e' := by
    rintro ⟨k, v⟩ ⟨k', v'⟩ heq
    obtain ⟨hkey, hvalue⟩ := Prod.mk.inj heq
    exact Prod.ext hkey (hf v v' hvalue)
  exact eq_of_entries ((List.map_inj_right hentry).mp hentries)

theorem mem_of_find
    {key : String} {value : α} {l : List (String × α)} (h : find key l = some value) :
    (key, value) ∈ l := by
  induction l with
  | nil => cases h
  | cons e rest ih =>
      obtain ⟨k, v⟩ := e
      simp only [find] at h
      split at h
      · rename_i hk
        cases h
        rw [hk]
        exact List.mem_cons_self
      · exact List.mem_cons_of_mem _ (ih h)

theorem mem_entries_of_get?
    {d : Dict α} {key : String} {value : α} (h : d.get? key = some value) :
    (key, value) ∈ d.entries :=
  mem_of_find h

theorem isSome_find_of_mem
    {key : String} {l : List (String × α)} (h : key ∈ l.map Prod.fst) :
    (find key l).isSome = true := by
  induction l with
  | nil => cases h
  | cons e rest ih =>
      obtain ⟨k, v⟩ := e
      simp only [find]
      by_cases hk : k = key
      · simp [hk]
      · rw [if_neg hk]
        rcases List.mem_cons.mp h with rfl | h
        · exact absurd rfl hk
        · exact ih h

/-- The keys are those that have a value. -/
theorem contains_iff_mem_keys {d : Dict α} {key : String} :
    d.contains key = true ↔ key ∈ d.keys := by
  constructor
  · intro h
    obtain ⟨value, hvalue⟩ := Option.isSome_iff_exists.mp h
    exact List.mem_map_of_mem (mem_entries_of_get? hvalue)
  · intro h
    exact isSome_find_of_mem h

theorem find_eq_none_of_lt
    {key : String} {l : List (String × α)} (h : ∀ e ∈ l, key < e.1) : find key l = none := by
  induction l with
  | nil => rfl
  | cons e rest ih =>
      have hne : e.1 ≠ key := (String.ne_of_lt (h e List.mem_cons_self)).symm
      rw [find, if_neg hne]
      exact ih fun e he => h e (List.mem_cons_of_mem _ he)

theorem find_filter
    (p : String → α → Bool) (key : String) {l : List (String × α)}
    (h : l.Pairwise (fun a b => a.1 < b.1)) :
    find key (l.filter fun e => p e.1 e.2) = (find key l).filter (p key) := by
  induction l with
  | nil => rfl
  | cons e rest ih =>
      obtain ⟨k, v⟩ := e
      obtain ⟨hlt, hrest⟩ := List.pairwise_cons.mp h
      by_cases hk : k = key
      · subst hk
        cases hp : p k v with
        | true => simp [find, hp, Option.filter]
        | false =>
            have hnone : find k rest = none := find_eq_none_of_lt hlt
            simp [find, hp, ih hrest, hnone, Option.filter]
      · cases hp : p k v with
        | true => simp [find, hp, hk, ih hrest]
        | false => simp [find, hp, hk, ih hrest]

/-- The value under a key is kept when it satisfies the test. -/
theorem get?_filter (p : String → α → Bool) (d : Dict α) (key : String) :
    (d.filter p).get? key = (d.get? key).filter (p key) :=
  find_filter p key d.ascending

/-- A map that is made from entries has a value for their keys and for no other. -/
theorem contains_ofList {key : String} {l : List (String × α)} :
    (ofList l).contains key = true ↔ key ∈ l.map Prod.fst := by
  have hfold :
      ∀ d : Dict α, (l.foldl (fun d e => d.insert e.1 e.2) d).contains key = true ↔
        key ∈ l.map Prod.fst ∨ d.contains key = true := by
    induction l with
    | nil => simp
    | cons e l ih =>
        intro d
        rw [List.foldl_cons, ih]
        by_cases hkey : e.1 = key
        · simp [contains, hkey]
        · simp [contains, hkey, Ne.symm hkey]
  simpa [ofList, contains] using hfold empty

end Dict
end AnalyticsQuery
