import AnalyticsQuery.Json.Decode

/-!
# Fields of a record

A record that is read from an object has a slot for each of its fields.  A member
fills the slot of the field that it names, and no slot is filled twice.  So the
members that name one field are none or one, and its slot tells which.

* `slot_of_put`: what one member does to the first slot.
* `slot_readMembers`: what a list of texts leaves in the first slot.
* `readMembers_of_not_named`, `readMembers_of_named`: the first field is read apart
  from the others, wherever its member stands.
-/

namespace AnalyticsQuery
namespace Json

theorem Decoder.within_ok {α : Type} (step : Step) (a : α) :
    within step (.ok a) = .ok a :=
  rfl

theorem Decoder.within_error {α : Type} (step : Step) (e : DecodeError) :
    within step (.error e : Except DecodeError α) = .error (e.under step) :=
  rfl

namespace Fields

variable {α σ τ : Type} {field : Field α} {rest : Fields σ τ} {p : Place}

/-- A member that names the first field fills its slot, which is empty; any other member leaves it
as it is. -/
theorem slot_of_put
    {key : String} {d : Draft} {s s' : Option α × σ}
    (h : (cons field rest).put key p d s = some (.ok s')) :
    field.named key = false ∧ s'.1 = s.1 ∨
      field.named key = true ∧ s.1 = none ∧ ∃ a, field.decode p d = .ok a ∧ s'.1 = some a := by
  obtain ⟨slot, others⟩ := s
  simp only [put] at h
  split at h
  · rename_i hnamed
    split at h
    · cases h
    · rename_i hempty
      cases hdecode : field.decode p d with
      | error e => simp [hdecode, Decoder.within_error, Except.map] at h
      | ok a =>
          simp only [hdecode, Decoder.within_ok, Except.map, Option.some.injEq,
            Except.ok.injEq] at h
          subst h
          exact Or.inr ⟨hnamed, rfl, a, rfl, rfl⟩
  · rename_i hother
    left
    cases hput : rest.put key p d others with
    | none => simp [hput] at h
    | some r =>
        cases r with
        | error e => simp [hput, Except.map] at h
        | ok others' =>
            simp only [hput, Option.map_some, Except.map, Option.some.injEq,
              Except.ok.injEq] at h
            subst h
            exact ⟨by simpa using hother, rfl⟩

/-- A member that names no field does not name the first one. -/
theorem not_named_of_put_eq_none
    {key : String} {d : Draft} {s : Option α × σ}
    (h : (cons field rest).put key p d s = none) :
    field.named key = false := by
  obtain ⟨slot, others⟩ := s
  cases hnamed : field.named key with
  | false => rfl
  | true => cases slot <;> simp [put, hnamed] at h

/-- Members that do not name the first field are read into the other ones. -/
theorem readMembers_of_not_named
    {members : List (Key × Draft)}
    (h : ∀ m ∈ members, ∃ key, m.1 = .text key ∧ field.named key = false)
    (slot : Option α) (others : σ) :
    (cons field rest).readMembers p (slot, others) members =
      (rest.readMembers p others members).map fun s => (slot, s) := by
  induction members generalizing others with
  | nil => rfl
  | cons m members ih =>
      obtain ⟨k, d⟩ := m
      obtain ⟨key, rfl, hother⟩ := h _ List.mem_cons_self
      have hrest := ih fun m hm => h m (List.mem_cons_of_mem _ hm)
      simp only [readMembers, put, hother, Bool.false_eq_true, if_false]
      cases rest.put key p d others with
      | none =>
          cases d.skipFault? with
          | none => exact hrest others
          | some fault => rfl
      | some result =>
          cases result with
          | error e => rfl
          | ok others' => exact hrest others'

/-- The only member that names the first field is read into its slot, and the others into theirs. -/
theorem readMembers_of_named
    {front back : List (Key × Draft)}
    (hothers : ∀ m ∈ front ++ back, ∃ key, m.1 = .text key ∧ field.named key = false)
    {key : String} (hnamed : field.named key = true) {d : Draft} {a : α}
    (hdecode : field.decode p d = .ok a) {others others' : σ}
    (hrest : rest.readMembers p others (front ++ back) = .ok others') :
    (cons field rest).readMembers p (none, others) (front ++ (.text key, d) :: back) =
      .ok (some a, others') := by
  -- Members in front of it are read into other slots, so the induction is for all of those.
  induction front generalizing others with
  | nil =>
      rw [List.nil_append] at hrest hothers
      have hback :
          (cons field rest).readMembers p (some a, others) back = .ok (some a, others') := by
        rw [readMembers_of_not_named hothers, hrest]
        rfl
      simp only [List.nil_append, readMembers, put, hnamed, if_true, hdecode, Decoder.within_ok,
        Except.map]
      exact hback
  | cons m front ih =>
      obtain ⟨k, d'⟩ := m
      obtain ⟨key', rfl, hother⟩ := hothers _ List.mem_cons_self
      have hlater : ∀ m ∈ front ++ back, ∃ key, m.1 = .text key ∧ field.named key = false :=
        fun m hm => hothers m (List.mem_cons_of_mem _ hm)
      simp only [List.cons_append, readMembers, put, hother, Bool.false_eq_true, if_false]
        at hrest ⊢
      cases hput : rest.put key' p d' others with
      | none =>
          rw [hput] at hrest
          cases hskip : d'.skipFault? with
          | none =>
              simp only [hskip] at hrest
              exact ih hlater hrest
          | some fault => simp [hskip] at hrest
      | some result =>
          rw [hput] at hrest
          cases result with
          | error e => cases hrest
          | ok others₁ => exact ih hlater hrest

/-- Members that are texts, as the drafts of an object. -/
def textMembers (pairs : List (String × String)) : List (Key × Draft) :=
  pairs.map fun pair => (.text pair.1, .str pair.2)

/-- The slot of the first field holds what the members say that name it: they are none or one. -/
theorem slot_readMembers
    (read : String → α) (hread : ∀ text, field.decode p (.str text) = .ok (read text))
    {pairs : List (String × String)} {s s' : Option α × σ}
    (h : (cons field rest).readMembers p s (textMembers pairs) = .ok s') :
    s'.1.toList =
      s.1.toList ++ (pairs.filter fun pair => field.named pair.1).map fun pair => read pair.2 := by
  -- Each member leaves a slot behind, so the induction is for every slot.
  induction pairs generalizing s with
  | nil =>
      cases h
      simp
  | cons pair pairs ih =>
      simp only [textMembers, List.map_cons, readMembers] at h
      split at h
      · cases h
      · rename_i s₁ hput
        have hrest := ih h
        rcases slot_of_put hput with ⟨hnamed, hslot⟩ | ⟨hnamed, hslot, a, ha, hfilled⟩
        · simp [hrest, hslot, hnamed]
        · rw [hread] at ha
          cases ha
          simp [hrest, hfilled, hslot, hnamed]
      · rename_i hput
        have hnamed := not_named_of_put_eq_none hput
        simp only [Draft.skipFault?] at h
        simp [ih h, hnamed]

/-- The first field has the value in its slot, or the one for a field that is left out. -/
theorem first_of_finish
    {s : Option α × σ} {r : α × τ} (h : (cons field rest).finish s = .ok r) :
    (s.1 <|> field.absent) = some r.1 := by
  obtain ⟨slot, others⟩ := s
  simp only [finish] at h
  cases hslot : (slot <|> field.absent) with
  | none =>
      rw [hslot] at h
      cases h
  | some a =>
      rw [hslot] at h
      cases hrest : rest.finish others with
      | error e =>
          rw [hrest] at h
          cases h
      | ok r' =>
          rw [hrest] at h
          cases h
          rfl

theorem finish_cons
    {slot : Option α} {others : σ} {a : α} {r : τ}
    (h : (slot <|> field.absent) = some a) (hrest : rest.finish others = .ok r) :
    (cons field rest).finish (slot, others) = .ok (a, r) := by
  simp only [finish, h, hrest]
  rfl

end Fields

/-- A whole object is read member by member. -/
theorem Decoder.of_record_closed
    {σ τ : Type} {name : String} {fields : Fields σ τ} {members : List (Key × Draft)} {r : τ}
    (h : Decoder.record name fields .value (.record members .closed) = .ok r) :
    ∃ s, fields.readMembers .value fields.start members = .ok s ∧ fields.finish s = .ok r := by
  cases hread : fields.readMembers .value fields.start members with
  | error e => simp [Decoder.record, Place.inside, hread, bind, Except.bind] at h
  | ok s =>
      simp only [Decoder.record, Place.inside, hread, bind, Except.bind, guardEnd,
        RecordEnd.readFault?] at h
      exact ⟨s, rfl, h⟩

end Json
end AnalyticsQuery
