import AnalyticsQuery.Json.Decode
import Mathlib.Data.List.Perm.Basic

/-!
# Texts that spell a value

A JSON text spells a value when it has the parts of the value and no others.  The
members of an object may stand in any order, and blanks, escapes and the ways to
write a number do not count, as they are gone from a draft.

Whether a draft spells a value can be computed: each member of the value is looked
for among the members of the draft and taken out there.

* `isSpelledBy_draft`: a value is spelled by its own draft.
* `exists_members_of_isSpelledBy`: an object is spelled by its members one by one,
  up to their order.
-/

namespace AnalyticsQuery
namespace Json

/-- The first member with a given key, and all the other members. -/
def takeMember (key : String) : List (Key × Draft) → Option (Draft × List (Key × Draft))
  | [] => none
  | (k, d) :: rest =>
      if k = .text key then some (d, rest)
      else (takeMember key rest).map fun (found, others) => (found, (k, d) :: others)

mutual

/-- Whether a draft spells a value, with the members of its objects in any order. -/
def isSpelledBy : Json → Draft → Bool
  | .null, .null => true
  | .bool b, .bool b' => b = b'
  | .num n, .num n' => n = n'
  | .str s, .str s' => s = s'
  | .arr items, .list drafts .closed => itemsSpelledBy items drafts
  | .obj entries, .record members .closed => entriesSpelledBy entries members
  | _, _ => false

/-- Whether drafts spell the items of an array. -/
def itemsSpelledBy : List Json → List Draft → Bool
  | [], [] => true
  | v :: items, d :: drafts => v.isSpelledBy d && itemsSpelledBy items drafts
  | _, _ => false

/-- Whether members spell the entries of an object, in any order. -/
def entriesSpelledBy : List (String × Json) → List (Key × Draft) → Bool
  | [], members => members.isEmpty
  | (key, v) :: entries, members =>
      match takeMember key members with
      | none => false
      | some (d, others) => v.isSpelledBy d && entriesSpelledBy entries others

end

mutual

theorem isSpelledBy_draft : (v : Json) → v.isSpelledBy v.draft = true
  | .null => rfl
  | .bool b => by simp [draft, isSpelledBy]
  | .num n => by simp [draft, isSpelledBy]
  | .str s => by simp [draft, isSpelledBy]
  | .arr items => itemsSpelledBy_draftItems items
  | .obj entries => entriesSpelledBy_draftMembers entries

theorem itemsSpelledBy_draftItems :
    (items : List Json) → itemsSpelledBy items (draftItems items) = true
  | [] => rfl
  | v :: items => by
      rw [draftItems, itemsSpelledBy, isSpelledBy_draft v, itemsSpelledBy_draftItems items]
      rfl

theorem entriesSpelledBy_draftMembers :
    (entries : List (String × Json)) → entriesSpelledBy entries (draftMembers entries) = true
  | [] => rfl
  | (key, v) :: entries => by
      simp only [draftMembers, entriesSpelledBy, takeMember, if_true]
      rw [isSpelledBy_draft v, entriesSpelledBy_draftMembers entries]
      rfl

end

/-! ## What spells a value -/

section Parts

variable {d : Draft}

theorem eq_of_str_isSpelledBy {s : String} (h : (str s).isSpelledBy d = true) : d = .str s := by
  cases d <;> simp_all [isSpelledBy]

theorem eq_of_num_isSpelledBy {n : Number} (h : (num n).isSpelledBy d = true) : d = .num n := by
  cases d <;> simp_all [isSpelledBy]

theorem eq_null_of_null_isSpelledBy (h : null.isSpelledBy d = true) : d = .null := by
  cases d <;> simp_all [isSpelledBy]

theorem eq_null_of_isSpelledBy_null {v : Json} (h : v.isSpelledBy .null = true) : v = null := by
  cases v <;> simp_all [isSpelledBy]

theorem exists_items_of_isSpelledBy {items : List Json} (h : (arr items).isSpelledBy d = true) :
    ∃ drafts, d = .list drafts .closed ∧ itemsSpelledBy items drafts = true := by
  cases d with
  | list drafts ending =>
      cases ending with
      | closed => exact ⟨drafts, rfl, h⟩
      | _ => cases h
  | _ => cases h

end Parts

/-- A member with the key of an entry and a draft of its value. -/
def IsMember (entry : String × Json) (member : Key × Draft) : Prop :=
  member.1 = .text entry.1 ∧ entry.2.isSpelledBy member.2 = true

/-- The members of an object that spell its entries one by one, in any order. -/
def AreMembers (entries : List (String × Json)) (members : List (Key × Draft)) : Prop :=
  ∃ ordered, members.Perm ordered ∧ List.Forall₂ IsMember entries ordered

theorem AreMembers.perm
    {entries entries' : List (String × Json)} {members : List (Key × Draft)}
    (h : AreMembers entries members) (hperm : entries'.Perm entries) :
    AreMembers entries' members := by
  obtain ⟨ordered, hordered, hspelled⟩ := h
  obtain ⟨ordered', hspelled', hordered'⟩ := List.perm_comp_forall₂ hperm hspelled
  exact ⟨ordered', hordered.trans hordered'.symm, hspelled'⟩

theorem AreMembers.exists_entry
    {entries : List (String × Json)} {members : List (Key × Draft)} {m : Key × Draft}
    (h : AreMembers entries members) (hm : m ∈ members) :
    ∃ entry ∈ entries, IsMember entry m := by
  obtain ⟨ordered, hordered, hspelled⟩ := h
  have hmem : m ∈ ordered := hordered.mem_iff.mp hm
  clear hordered hm
  induction hspelled with
  | nil => cases hmem
  | cons hfirst hrest ih =>
      rcases List.mem_cons.mp hmem with rfl | hmem
      · exact ⟨_, List.mem_cons_self, hfirst⟩
      · obtain ⟨entry, hentry, hspells⟩ := ih hmem
        exact ⟨entry, List.mem_cons_of_mem _ hentry, hspells⟩

theorem areMembers_nil_iff {members : List (Key × Draft)} :
    AreMembers [] members ↔ members = [] := by
  constructor
  · rintro ⟨ordered, hordered, hspelled⟩
    cases hspelled
    exact hordered.eq_nil
  · rintro rfl
    exact ⟨[], .nil, .nil⟩

/-- The member of the first entry stands somewhere among those of the others. -/
theorem AreMembers.exists_split
    {key : String} {v : Json} {entries : List (String × Json)} {members : List (Key × Draft)}
    (h : AreMembers ((key, v) :: entries) members) :
    ∃ front d back, members = front ++ (.text key, d) :: back ∧ v.isSpelledBy d = true ∧
      AreMembers entries (front ++ back) := by
  obtain ⟨ordered, hordered, hspelled⟩ := h
  cases hspelled with
  | @cons _ m _ ordered hfirst hrest =>
      obtain ⟨k, d⟩ := m
      obtain ⟨rfl, hd⟩ := hfirst
      obtain ⟨front, back, rfl⟩ := List.append_of_mem (hordered.mem_iff.mpr List.mem_cons_self)
      have hothers : (front ++ back).Perm ordered :=
        (List.perm_middle.symm.trans hordered).cons_inv
      exact ⟨front, d, back, rfl, hd, ordered, hothers, hrest⟩

theorem perm_of_takeMember
    {key : String} {members others : List (Key × Draft)} {d : Draft}
    (h : takeMember key members = some (d, others)) :
    members.Perm ((.text key, d) :: others) := by
  induction members generalizing others with
  | nil => cases h
  | cons m rest ih =>
      obtain ⟨k, d'⟩ := m
      simp only [takeMember] at h
      split at h
      · rename_i hkey
        cases h
        rw [hkey]
      · obtain ⟨⟨found, left⟩, htake, heq⟩ := Option.map_eq_some_iff.mp h
        cases heq
        exact ((ih htake).cons _).trans (List.Perm.swap _ _ _)

theorem areMembers_of_entriesSpelledBy
    {entries : List (String × Json)} {members : List (Key × Draft)}
    (h : entriesSpelledBy entries members = true) :
    AreMembers entries members := by
  induction entries generalizing members with
  | nil =>
      exact areMembers_nil_iff.mpr (List.isEmpty_iff.mp h)
  | cons entry entries ih =>
      obtain ⟨key, v⟩ := entry
      simp only [entriesSpelledBy] at h
      split at h
      · cases h
      · rename_i d others htake
        obtain ⟨hvalue, hothers⟩ := Bool.and_eq_true_iff.mp h
        obtain ⟨ordered, hperm, hspelled⟩ := ih hothers
        exact ⟨(.text key, d) :: ordered, (perm_of_takeMember htake).trans (hperm.cons _),
          .cons ⟨rfl, hvalue⟩ hspelled⟩

theorem exists_members_of_isSpelledBy
    {entries : List (String × Json)} {d : Draft} (h : (obj entries).isSpelledBy d = true) :
    ∃ members, d = .record members .closed ∧ AreMembers entries members := by
  cases d with
  | record members ending =>
      cases ending with
      | closed => exact ⟨members, rfl, areMembers_of_entriesSpelledBy h⟩
      | _ => cases h
  | _ => cases h

end Json
end AnalyticsQuery
