import AnalyticsQuery.Proofs.Dict
import AnalyticsQuery.Proofs.Json.Record
import AnalyticsQuery.Proofs.Json.Spelling

/-!
# Decoders that read back what was written

A decoder belongs to a function that writes values as JSON when it reads back
whatever that function writes, however a text spells it.  It holds in a value that
has been read before and in one that stands in a text, as long as the text leaves
room for the lists and objects that are written.

Reading back is put together like the types themselves: a decoder of lists reads
back what is written member by member, and one that converts reads back what the
conversion undoes.  A record is read back field by field, as long as no field
takes a member that is written for another one.

* `read_of_arr_isSpelledBy`, `exists_items_of_read_arr`: an array that is read as a
  value is read item by item.
* `ReadsBack.list`, `ReadsBack.optional`, `readsBack_untagged`: decoders that are
  made from others.
* `readMembers_of_readsEntries`, `readsBack_record`: records.
* `decode_draft_of_readsBack`: what was written is read back from its own draft.
-/

namespace AnalyticsQuery
namespace Json

/-- Whether a number of lists and objects can be opened in a place, one inside another. -/
def Place.Holds : Place → Nat → Prop
  | text depth, n => n ≤ depth
  | value, _ => True

theorem Place.exists_inside_of_holds {p : Place} {n : Nat} (h : p.Holds (n + 1)) :
    ∃ q, p.inside = .ok q ∧ q.Holds n := by
  cases p with
  | text depth =>
      cases depth with
      | zero => exact absurd h (Nat.not_succ_le_zero n)
      | succ depth => exact ⟨text depth, rfl, Nat.le_of_succ_le_succ h⟩
  | value => exact ⟨value, rfl, trivial⟩

theorem Place.Holds.mono {p : Place} {m n : Nat} (h : p.Holds n) (hle : m ≤ n) : p.Holds m := by
  cases p with
  | text depth => exact Nat.le_trans hle h
  | value => trivial

/-! ## Arrays as values -/

theorem readItems_of_itemsSpelledBy
    {p : Place} {l : List Json} {drafts : List Draft}
    (h : ∀ v ∈ l, ∀ d, v.isSpelledBy d = true → d.read p = .ok v)
    (hspelled : itemsSpelledBy l drafts = true) (i : Nat) :
    readItems p i drafts = .ok l := by
  induction l generalizing drafts i with
  | nil =>
      cases drafts with
      | nil => rfl
      | cons d drafts => cases hspelled
  | cons v rest ih =>
      cases drafts with
      | nil => cases hspelled
      | cons d drafts =>
          obtain ⟨hv, hdrafts⟩ := Bool.and_eq_true_iff.mp hspelled
          have hfirst : d.read p = .ok v := h v List.mem_cons_self d hv
          have hrest := ih (fun w hw => h w (List.mem_cons_of_mem v hw)) hdrafts (i + 1)
          simp only [readItems, hfirst, Decoder.within_ok, hrest]
          rfl

/-- An array of values that are no lists or objects is read as it is. -/
theorem read_of_arr_isSpelledBy
    {α : Type} {write : α → Json}
    (h : ∀ (p : Place) (a : α) (d : Draft), (write a).isSpelledBy d = true →
      d.read p = .ok (write a))
    {p : Place} (hp : p.Holds 1) {l : List α} {d : Draft}
    (hspelled : (arr (l.map write)).isSpelledBy d = true) :
    d.read p = .ok (arr (l.map write)) := by
  obtain ⟨q, hq, -⟩ := Place.exists_inside_of_holds hp
  obtain ⟨drafts, rfl, hdrafts⟩ := exists_items_of_isSpelledBy hspelled
  have hitems : ∀ v ∈ l.map write, ∀ d, v.isSpelledBy d = true → d.read q = .ok v := by
    intro v hv d hd
    obtain ⟨a, -, rfl⟩ := List.mem_map.mp hv
    exact h q a d hd
  simp only [Draft.read, hq, bind, Except.bind, readItems_of_itemsSpelledBy hitems hdrafts]
  rfl

theorem exists_items_of_read_arr
    {p : Place} {items : List Json} {w : Json} (h : (arr items).draft.read p = .ok w) :
    ∃ q ws, readItems q 0 (draftItems items) = .ok ws ∧ w = arr ws := by
  simp only [draft, Draft.read, bind, Except.bind] at h
  split at h
  · cases h
  · rename_i q hq
    split at h
    · cases h
    · rename_i ws hws
      cases h
      exact ⟨q, ws, hws, rfl⟩

theorem exists_members_of_read_obj
    {p : Place} {members : List (String × Json)} {w : Json}
    (h : (obj members).draft.read p = .ok w) :
    ∃ read, w = obj read := by
  simp only [draft, Draft.read, bind, Except.bind] at h
  split at h
  · cases h
  · split at h
    · cases h
    · cases h
      exact ⟨_, rfl⟩

/-! ## Decoders made from others -/

namespace Decoder

variable {α β : Type} {decode : Decoder α} {write : α → Json} {depth : Nat}

/-- A decoder reads back what is written, with at most `depth` lists and objects one inside
another, from each draft that spells it. -/
def ReadsBack (decode : Decoder α) (write : α → Json) (depth : Nat) : Prop :=
  ∀ (p : Place) (a : α) (d : Draft), p.Holds depth → (write a).isSpelledBy d = true →
    decode p d = .ok a

theorem readsBack_string : string.ReadsBack .str 0 := by
  intro p s d hp hd
  rw [eq_of_str_isSpelledBy hd]
  rfl

theorem natural_of_lt {limit n : Nat} (h : n < limit) (expected : String) (p : Place)
    (fits : -9223372036854775808 ≤ (n : Int) ∧ (n : Int) < 18446744073709551616) :
    natural limit expected p (.num (.int n fits)) = .ok ⟨n, h⟩ := by
  have hrange : (0 : Int) ≤ n ∧ (n : Int) < limit := by omega
  simp only [natural]
  rw [dif_pos hrange]
  rfl

theorem readsBack_uint32 : uint32.ReadsBack ofUInt32 0 := by
  intro p n d hp hd
  rw [eq_of_num_isSpelledBy hd, uint32, Number.ofUInt32, natural_of_lt n.toNat_lt]
  rfl

theorem elements_of_itemsSpelledBy
    {p : Place} {l : List α} {drafts : List Draft}
    (h : ∀ a d, (write a).isSpelledBy d = true → decode p d = .ok a)
    (hspelled : itemsSpelledBy (l.map write) drafts = true) (i : Nat) :
    elements decode p i drafts = .ok l := by
  induction l generalizing drafts i with
  | nil =>
      cases drafts with
      | nil => rfl
      | cons d drafts => cases hspelled
  | cons a rest ih =>
      cases drafts with
      | nil => cases hspelled
      | cons d drafts =>
          obtain ⟨ha, hdrafts⟩ := Bool.and_eq_true_iff.mp hspelled
          simp only [elements, h a d ha, within_ok, ih hdrafts (i + 1)]
          rfl

/-- A list is read back member by member. -/
theorem ReadsBack.list (h : decode.ReadsBack write depth) :
    (list decode).ReadsBack (fun l => .arr (l.map write)) (depth + 1) := by
  intro p l d hp hd
  obtain ⟨q, hq, hdepth⟩ := Place.exists_inside_of_holds hp
  obtain ⟨drafts, rfl, hdrafts⟩ := exists_items_of_isSpelledBy hd
  have hitems := elements_of_itemsSpelledBy (fun a d hd => h q a d hdepth hd) hdrafts 0
  simp only [Decoder.list, hq, bind, Except.bind, hitems]
  rfl

/-- A value that may be missing is read back where null stands for none, unless a value is written
as null too. -/
theorem ReadsBack.optional
    (h : decode.ReadsBack write depth) (hnull : ∀ a, write a ≠ .null) :
    (optional decode).ReadsBack (fun o => o.elim .null write) depth := by
  intro p o d hp hd
  cases o with
  | none =>
      rw [eq_null_of_null_isSpelledBy hd]
      rfl
  | some a =>
      have hread : decode p d = .ok a := h p a d hp hd
      cases d with
      | null => exact absurd (eq_null_of_isSpelledBy_null hd) (hnull a)
      | _ => simp only [Decoder.optional, hread, Except.map]

/-- Alternatives read back a value that can be read as it is and is the choice for no other. -/
theorem readsBack_untagged
    {type : String} {choose : Json → Option α}
    (hread : ∀ (p : Place) (a : α) (d : Draft), p.Holds depth → (write a).isSpelledBy d = true →
      d.read p = .ok (write a))
    (hchoose : ∀ a, choose (write a) = some a) :
    (untagged type choose).ReadsBack write depth := by
  intro p a d hp hd
  simp only [untagged, Decoder.refine, json, hread p a d hp hd, hchoose]

/-- What was written is read back from its own draft. -/
theorem decode_draft_of_readsBack
    (h : decode.ReadsBack write depth) {p : Place} (hp : p.Holds depth) (a : α) :
    decode p (write a).draft = .ok a :=
  h p a _ hp (isSpelledBy_draft (write a))

end Decoder

/-! ## Records -/

section Members

variable {α : Type}

/-- A member of an object that is written, or left out. -/
def member (written : Bool) (key : String) (v : Json) : List (String × Json) :=
  if written then [(key, v)] else []

/-- The member of a value that may be missing: it is null then, and written only if `shown` says
so. -/
def optionalMember (shown : String → Bool) (key : String) (write : α → Json) (o : Option α) :
    List (String × Json) :=
  member (shown key || o.isSome) key (o.elim null write)

/-- The member of a list, which is written only if `shown` says so when the list is empty. -/
def listMember (shown : String → Bool) (key : String) (write : List α → Json) (l : List α) :
    List (String × Json) :=
  member (shown key || !l.isEmpty) key (write l)

end Members

theorem Field.named_name {α : Type} (field : Field α) : field.named field.name = true := by
  simp [named]

namespace Fields

/-- The names under which the fields of a record are written. -/
def names : {σ τ : Type} → Fields σ τ → List String
  | _, _, nil => []
  | _, _, cons field rest => field.name :: rest.names

/-- Whether no field takes what is written under the name of a later one. -/
def areApart : {σ τ : Type} → Fields σ τ → Bool
  | _, _, nil => true
  | _, _, cons field rest => rest.names.all (fun name => !field.named name) && rest.areApart

/-- Entries in the order of the fields, each under the name of its field, that hold a record: a
field reads back the value of its entry, or may be left out. -/
inductive ReadsEntries (p : Place) :
    {σ τ : Type} → Fields σ τ → List (String × Json) → τ → Prop
  | nil : ReadsEntries p .nil [] ()
  | given {α σ τ : Type} {name : String} {aliases : List String} {decode : Decoder α}
      {whenAbsent whenOmitted : Option α} {rest : Fields σ τ} {write : α → Json} {depth : Nat}
      {entries : List (String × Json)} {r : τ}
      (h : decode.ReadsBack write depth) (hp : p.Holds depth) (a : α)
      (hrest : ReadsEntries p rest entries r) :
      ReadsEntries p (.cons ⟨name, aliases, decode, whenAbsent, whenOmitted⟩ rest)
        ((name, write a) :: entries) (a, r)
  | absent {α σ τ : Type} {field : Field α} {rest : Fields σ τ} {a : α}
      {entries : List (String × Json)} {r : τ}
      (habsent : field.absent = some a)
      (hrest : ReadsEntries p rest entries r) :
      ReadsEntries p (.cons field rest) entries (a, r)

variable {σ τ : Type} {fields : Fields σ τ} {p : Place} {entries : List (String × Json)} {r : τ}

section Members

variable {α : Type} {name : String} {aliases : List String} {write : α → Json} {depth : Nat}

/-- The last field of a record may be an optional one, which is written when it has a value. -/
theorem ReadsEntries.lastOptional
    {decode : Decoder α} (h : decode.ReadsBack write depth) (hnull : ∀ a, write a ≠ .null)
    (hp : p.Holds depth) (o : Option α) :
    ReadsEntries p (.cons (.withDefault name aliases (Decoder.optional decode) none) .nil)
      (o.toList.map fun a => (name, write a)) (o, ()) := by
  cases o with
  | none => exact .absent rfl .nil
  | some a => exact .given (h.optional hnull) hp (some a) .nil

/-- A field need not be written when it has its default value. -/
theorem ReadsEntries.member
    {decode : Decoder α} (h : decode.ReadsBack write depth) (hp : p.Holds depth) {a default : α}
    {written : Bool} (hdefault : written = false → a = default)
    (hrest : ReadsEntries p fields entries r) :
    ReadsEntries p (.cons (.withDefault name aliases decode default) fields)
      (Json.member written name (write a) ++ entries) (a, r) := by
  cases written with
  | false =>
      rw [hdefault rfl]
      exact .absent rfl hrest
  | true => exact .given h hp a hrest

/-- An optional field without a value is written as null or left out. -/
theorem ReadsEntries.optionalMember
    {decode : Decoder α} (h : decode.ReadsBack write depth) (hnull : ∀ a, write a ≠ .null)
    (hp : p.Holds depth) (shown : String → Bool) (o : Option α)
    (hrest : ReadsEntries p fields entries r) :
    ReadsEntries p (.cons (.withDefault name aliases (Decoder.optional decode) none) fields)
      (Json.optionalMember shown name write o ++ entries) (o, r) :=
  .member (h.optional hnull) hp (by simp) hrest

/-- An empty list is written or left out. -/
theorem ReadsEntries.listMember
    {decode : Decoder (List α)} {write : List α → Json} (h : decode.ReadsBack write depth)
    (hp : p.Holds depth) (shown : String → Bool) (l : List α)
    (hrest : ReadsEntries p fields entries r) :
    ReadsEntries p (.cons (.withDefault name aliases decode []) fields)
      (Json.listMember shown name write l ++ entries) (l, r) :=
  .member h hp (by simp) hrest

end Members

theorem ReadsEntries.keys_sublist (h : fields.ReadsEntries p entries r) :
    (entries.map Prod.fst).Sublist fields.names := by
  induction h with
  | nil => exact List.Sublist.refl []
  | given h hp a hrest ih => exact ih.cons_cons _
  | absent habsent hrest ih => exact ih.cons _

theorem nodup_names (h : fields.areApart = true) : fields.names.Nodup := by
  induction fields with
  | nil => exact List.nodup_nil
  | cons field rest ih =>
      obtain ⟨hfirst, hrest⟩ := Bool.and_eq_true_iff.mp h
      refine List.nodup_cons.mpr ⟨?_, ih hrest⟩
      intro hmem
      have hother := List.all_eq_true.mp hfirst field.name hmem
      simp [Field.named_name] at hother

/-- A member for one of the later fields does not name the first one. -/
theorem not_named_of_areMembers
    {α : Type} {field : Field α} (h : (cons field fields).areApart = true)
    (hreads : fields.ReadsEntries p entries r) {members : List (Key × Draft)}
    (hmembers : AreMembers entries members) :
    ∀ m ∈ members, ∃ key, m.1 = .text key ∧ field.named key = false := by
  intro m hm
  obtain ⟨entry, hentry, hkey, -⟩ := hmembers.exists_entry hm
  have hname : entry.1 ∈ fields.names :=
    hreads.keys_sublist.subset (List.mem_map_of_mem hentry)
  have hother := List.all_eq_true.mp (Bool.and_eq_true_iff.mp h).1 entry.1 hname
  exact ⟨entry.1, hkey, by simpa using hother⟩

/-- The members of an object are read as the record that its entries hold, in whatever order they
stand. -/
theorem readMembers_of_readsEntries
    (h : fields.areApart = true) (hreads : fields.ReadsEntries p entries r)
    {members : List (Key × Draft)} (hmembers : AreMembers entries members) :
    ∃ s, fields.readMembers p fields.start members = .ok s ∧ fields.finish s = .ok r := by
  induction hreads generalizing members with
  | nil =>
      rw [areMembers_nil_iff.mp hmembers]
      exact ⟨(), rfl, rfl⟩
  | given hread hp a hrest ih =>
      rename_i name aliases decode whenAbsent whenOmitted rest write depth entries r
      obtain ⟨front, d, back, rfl, hd, hothers⟩ := hmembers.exists_split
      obtain ⟨s, hs, hfinish⟩ := ih (Bool.and_eq_true_iff.mp h).2 hothers
      have hnamed := Field.named_name ⟨name, aliases, decode, whenAbsent, whenOmitted⟩
      have hvalue : decode p d = .ok a := hread p a d hp hd
      have happart := not_named_of_areMembers h hrest hothers
      refine ⟨(some a, s), readMembers_of_named happart hnamed hvalue hs, ?_⟩
      exact finish_cons rfl hfinish
  | absent habsent hrest ih =>
      rename_i field rest a entries r
      obtain ⟨s, hs, hfinish⟩ := ih (Bool.and_eq_true_iff.mp h).2 hmembers
      have happart := not_named_of_areMembers h hrest hmembers
      refine ⟨(none, s), ?_, ?_⟩
      · rw [start, readMembers_of_not_named happart, hs]
        rfl
      · exact finish_cons habsent hfinish

end Fields

namespace Decoder

variable {β σ τ : Type} {fields : Fields σ τ} {p : Place}

/-- An object is read by its members. -/
theorem record_of_areMembers
    (h : fields.areApart = true) {q : Place} (hq : p.inside = .ok q)
    {entries : List (String × Json)} {r : τ} (hreads : fields.ReadsEntries q entries r)
    {members : List (Key × Draft)} (hmembers : AreMembers entries members) (name : String) :
    record name fields p (.record members .closed) = .ok r := by
  obtain ⟨s, hs, hfinish⟩ := Fields.readMembers_of_readsEntries h hreads hmembers
  simp only [record, hq, hs, bind, Except.bind, guardEnd, RecordEnd.readFault?, hfinish]

/-- A record that is written as an object is read back from it through a conversion that undoes its
parts. -/
theorem readsBack_record
    {name : String} {convert : τ → Except Mismatch β} {depth : Nat}
    (parts : β → τ) (entries : β → List (String × Json)) (h : fields.areApart = true)
    (hconvert : ∀ b, convert (parts b) = .ok b)
    (hreads : ∀ q b, q.Holds depth → fields.ReadsEntries q (entries b) (parts b)) :
    (refine (record name fields) convert).ReadsBack
      (fun b => .ofDict (Dict.ofList (entries b))) (depth + 1) := by
  intro p b d hp hd
  obtain ⟨q, hq, hdepth⟩ := Place.exists_inside_of_holds hp
  have hentries := hreads q b hdepth
  have hkeys : ((entries b).map Prod.fst).Nodup :=
    (Fields.nodup_names h).sublist hentries.keys_sublist
  obtain ⟨members, rfl, hmembers⟩ := exists_members_of_isSpelledBy hd
  have hordered := hmembers.perm (Dict.entries_ofList_perm hkeys).symm
  simp only [refine, record_of_areMembers h hq hentries hordered, hconvert]

end Decoder

end Json
end AnalyticsQuery
