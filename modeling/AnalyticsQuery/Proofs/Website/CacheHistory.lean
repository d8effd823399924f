import AnalyticsQuery.Website.Cache

/-!
# What the cache of domains remembers

The directory of websites may change its mind or be out of reach from one moment
to the next.  The cache answers for it: as long as no answer grows stale, it says
of a website what the directory said when it first gave an answer, and that the
website has no domain is an answer too.  Up to then the directory is asked with
every question, and from then on never again.

The history of a cache is the list of the questions that it was asked, each with
the directory as it is at that moment.

* `Remembers`: the kept answer for a website is the first one in the history, and
  it was given at the moment of a question in the history.
* `asked_of_get?_eq_some`, `asked_of_get?_eq_none`: what one question does.
* `remembers_asked`, `remembers_after`: the step and the run.
* `answers_with_firstAnswer`: what a question is told after any history.
-/

namespace AnalyticsQuery
namespace Website

/-- A question to the cache: its moment, the directory at that moment, and a website. -/
structure Question where
  now : Moment
  directory : Inquiry
  id : String

/-- What the directory says to a question. -/
def Question.answer (q : Question) : Answer :=
  q.directory q.id

/-- The questions about a website. -/
def about (id : String) (history : List Question) : List Question :=
  history.filter fun q => q.id = id

/-- The first answer about a website that is no failure. -/
def firstAnswer? (id : String) (history : List Question) : Option (Option String) :=
  (about id history).findSome? fun q => q.answer.toOption

/-- A history in which no answer grows stale. -/
def StaysFresh (lifetime : Lifetime) (history : List Question) : Prop :=
  ∀ p ∈ history, ∀ q ∈ history, p.now.until q.now < lifetime.fresh

theorem StaysFresh.of_append_left
    {lifetime : Lifetime} {past rest : List Question}
    (h : StaysFresh lifetime (past ++ rest)) :
    StaysFresh lifetime past :=
  fun p hp q hq => h p (List.mem_append_left _ hp) q (List.mem_append_left _ hq)

theorem firstAnswer?_concat (id : String) (past : List Question) (q : Question) :
    firstAnswer? id (past ++ [q]) =
      (firstAnswer? id past <|> if q.id = id then q.answer.toOption else none) := by
  unfold firstAnswer? about
  rw [List.filter_append, List.findSome?_append]
  by_cases h : q.id = id
  · simp [h]
  · simp [h]

namespace DomainCache

variable {c : DomainCache} {q : Question}

/-- Ask a question. -/
def asked (c : DomainCache) (q : Question) : Lookup :=
  c.lookup q.directory q.now q.id

/-- The cache after questions one after another. -/
def after (c : DomainCache) (history : List Question) : DomainCache :=
  history.foldl (fun c q => (c.asked q).cache) c

/-! ## One question -/

theorem lt_fresh_add_stale
    {lifetime : Lifetime} {age : Seconds} (hstale : 0 ≤ lifetime.stale)
    (hfresh : age < lifetime.fresh) :
    age < lifetime.fresh + lifetime.stale := by
  grind

/-- A fresh answer is given out without asking anyone. -/
theorem asked_of_get?_eq_some
    {e : CachedDomain} (h : c.entries.get? q.id = some e) (hstale : 0 ≤ c.lifetime.stale)
    (hfresh : e.fetched.until q.now < c.lifetime.fresh) :
    c.asked q = ⟨[e.domain], [], c⟩ := by
  have hentry : c.entry? q.now q.id = some e := by
    simp [h, entry?, lt_fresh_add_stale hstale hfresh]
  have hkept : ¬ c.lifetime.fresh ≤ e.fetched.until q.now := by grind
  have hmissing : c.missing q.now [q.id] = [] := by simp [missing, hentry]
  have hquiet : c.stale q.now [q.id] = [] := by simp [stale, isStale, hentry, hkept]
  simp [asked, lookup, lookupAll, hmissing, hquiet, fetch, hentry]

/-- A website of which nothing is kept is asked for, and an answer is kept. -/
theorem asked_of_get?_eq_none
    (h : c.entries.get? q.id = none) (hstale : 0 ≤ c.lifetime.stale)
    (hfresh : q.now.until q.now < c.lifetime.fresh) :
    c.asked q = ⟨[q.answer.toOption.join], [q.answer], keep q.now c q.id q.answer⟩ := by
  have hentry : c.entry? q.now q.id = none := by simp [h, entry?]
  have hmissing : c.missing q.now [q.id] = [q.id] := by
    simp [missing, hentry, List.eraseDups_cons]
  have hquiet : c.stale q.now [q.id] = [] := by simp [stale, isStale, hentry]
  have hkept :
      (DomainCache.entry? (keep q.now c q.id q.answer) q.now q.id).bind CachedDomain.domain =
        q.answer.toOption.join := by
    cases hanswer : q.answer with
    | ok domain =>
        have hlives := lt_fresh_add_stale hstale hfresh
        simp [keep, entry?, Option.filter, hlives, Except.toOption]
    | error e => simp [keep, entry?, h, Except.toOption]
  simp [asked, lookup, lookupAll, hmissing, hquiet, fetch]
  exact ⟨hkept, rfl, rfl⟩

/-! ## Histories -/

/-- What a cache keeps after a history: for each website the first answer, from a moment of the
history. -/
structure Remembers (lifetime : Lifetime) (past : List Question) (c : DomainCache) : Prop where
  lifetime : c.lifetime = lifetime
  domain : ∀ id, (c.entries.get? id).map CachedDomain.domain = firstAnswer? id past
  fetched : ∀ id e, c.entries.get? id = some e → ∃ p ∈ past, e.fetched = p.now

theorem remembers_start (lifetime : Lifetime) : Remembers lifetime [] (start lifetime) where
  lifetime := rfl
  domain := fun _ => rfl
  fetched := fun _ _ h => by cases h

variable {lifetime : Lifetime} {past : List Question}

/-- A website with a kept answer, as the history has it. -/
theorem Remembers.asked_of_answered
    (h : Remembers lifetime past c) (hstale : 0 ≤ lifetime.stale)
    (hfresh : StaysFresh lifetime (past ++ [q])) {domain : Option String}
    (hfirst : firstAnswer? q.id past = some domain) :
    c.asked q = ⟨[domain], [], c⟩ := by
  have hdomain := h.domain q.id
  rw [hfirst] at hdomain
  obtain ⟨e, he, rfl⟩ := Option.map_eq_some_iff.mp hdomain
  obtain ⟨p, hp, hmoment⟩ := h.fetched q.id e he
  apply asked_of_get?_eq_some he
  · rw [h.lifetime]
    exact hstale
  · rw [h.lifetime, hmoment]
    exact hfresh p (List.mem_append_left _ hp) q (by simp)

/-- A website without an answer in the history. -/
theorem Remembers.asked_of_unanswered
    (h : Remembers lifetime past c) (hstale : 0 ≤ lifetime.stale)
    (hfresh : StaysFresh lifetime (past ++ [q])) (hfirst : firstAnswer? q.id past = none) :
    c.asked q = ⟨[q.answer.toOption.join], [q.answer], keep q.now c q.id q.answer⟩ := by
  have hdomain := h.domain q.id
  rw [hfirst] at hdomain
  apply asked_of_get?_eq_none (Option.map_eq_none_iff.mp hdomain)
  · rw [h.lifetime]
    exact hstale
  · rw [h.lifetime]
    exact hfresh q (by simp) q (by simp)

/-- The step: one more question is remembered. -/
theorem remembers_asked
    (h : Remembers lifetime past c) (hstale : 0 ≤ lifetime.stale)
    (hfresh : StaysFresh lifetime (past ++ [q])) :
    Remembers lifetime (past ++ [q]) (c.asked q).cache := by
  cases hfirst : firstAnswer? q.id past with
  | some domain =>
      rw [h.asked_of_answered hstale hfresh hfirst]
      constructor
      · exact h.lifetime
      · intro id
        rw [firstAnswer?_concat, h.domain id]
        by_cases hid : q.id = id
        · subst hid
          simp [hfirst]
        · simp [hid]
      · intro id e he
        obtain ⟨p, hp, hmoment⟩ := h.fetched id e he
        exact ⟨p, List.mem_append_left _ hp, hmoment⟩
  | none =>
      rw [h.asked_of_unanswered hstale hfresh hfirst]
      constructor
      · rw [lifetime_keep]
        exact h.lifetime
      · intro id
        rw [firstAnswer?_concat, get?_keep]
        cases hanswer : q.answer with
        | error e => simp [h.domain id, Except.toOption]
        | ok domain =>
            by_cases hid : q.id = id
            · subst hid
              simp [hfirst, Except.toOption]
            · simp [hid, h.domain id]
      · intro id e he
        rw [get?_keep] at he
        cases hanswer : q.answer with
        | error e' =>
            rw [hanswer] at he
            obtain ⟨p, hp, hmoment⟩ := h.fetched id e he
            exact ⟨p, List.mem_append_left _ hp, hmoment⟩
        | ok domain =>
            rw [hanswer] at he
            by_cases hid : q.id = id
            · simp only [hid, if_true, Option.some.injEq] at he
              subst he
              exact ⟨q, by simp, rfl⟩
            · simp only [hid, if_false] at he
              obtain ⟨p, hp, hmoment⟩ := h.fetched id e he
              exact ⟨p, List.mem_append_left _ hp, hmoment⟩

/-- The run: all questions are remembered. -/
theorem remembers_after
    (h : Remembers lifetime past c) (hstale : 0 ≤ lifetime.stale) {history : List Question}
    (hfresh : StaysFresh lifetime (past ++ history)) :
    Remembers lifetime (past ++ history) (c.after history) := by
  induction history generalizing past c with
  | nil =>
      rw [List.append_nil]
      exact h
  | cons q rest ih =>
      have hsplit : past ++ q :: rest = past ++ [q] ++ rest := by simp
      rw [hsplit] at hfresh ⊢
      exact ih (remembers_asked h hstale hfresh.of_append_left) hfresh

/-- What a question is told after a history, and what the directory is asked for it. -/
theorem asked_after
    (hstale : 0 ≤ lifetime.stale) (hfresh : StaysFresh lifetime (past ++ [q])) :
    (((start lifetime).after past).asked q).domain = (firstAnswer? q.id (past ++ [q])).join ∧
      (((start lifetime).after past).asked q).answers =
        if (firstAnswer? q.id past).isSome then [] else [q.answer] := by
  have hremembers : Remembers lifetime past ((start lifetime).after past) := by
    have hpast : StaysFresh lifetime ([] ++ past) := hfresh.of_append_left
    exact remembers_after (remembers_start lifetime) hstale hpast
  rw [firstAnswer?_concat]
  cases hfirst : firstAnswer? q.id past with
  | some domain =>
      rw [hremembers.asked_of_answered hstale hfresh hfirst]
      simp [Lookup.domain]
  | none =>
      rw [hremembers.asked_of_unanswered hstale hfresh hfirst]
      simp [Lookup.domain]

/-- As long as no answer grows stale, a question is told the first answer in the history of its
website, its own included.  The directory is asked, and once, exactly when there was none before.
Questions about other websites make no difference to either. -/
theorem answers_with_firstAnswer
    {lifetime : Lifetime} (hstale : 0 ≤ lifetime.stale)
    {past : List Question} {q : Question} (hfresh : StaysFresh lifetime (past ++ [q])) :
    (((start lifetime).after past).asked q).domain = (firstAnswer? q.id (past ++ [q])).join ∧
      (((start lifetime).after past).asked q).answers =
        (if (firstAnswer? q.id past).isSome then [] else [q.answer]) ∧
      ∀ past', about q.id past' = about q.id past → StaysFresh lifetime (past' ++ [q]) →
        (((start lifetime).after past').asked q).domain =
            (((start lifetime).after past).asked q).domain ∧
          (((start lifetime).after past').asked q).answers =
            (((start lifetime).after past).asked q).answers := by
  obtain ⟨hdomain, hanswers⟩ := asked_after hstale hfresh
  refine ⟨hdomain, hanswers, ?_⟩
  intro past' habout hfresh'
  obtain ⟨hdomain', hanswers'⟩ := asked_after hstale hfresh'
  have hfirst : firstAnswer? q.id past' = firstAnswer? q.id past := by
    rw [firstAnswer?, firstAnswer?, habout]
  rw [firstAnswer?_concat] at hdomain hdomain'
  rw [hdomain, hdomain', hanswers, hanswers', hfirst]
  exact ⟨rfl, rfl⟩

/-- The directory cannot be reached, then it knows no domain of one website and a domain of
another. -/
def outage : List Question :=
  [ ⟨0, fun _ => .error (.internal "down"), "site_1"⟩,
    ⟨10, fun _ => .ok none, "site_2"⟩,
    ⟨20, fun _ => .ok (some "old.example"), "site_1"⟩ ]

/-- A question after both websites have moved. -/
def afterMove (id : String) : Question :=
  ⟨299, fun _ => .ok (some "new.example"), id⟩

/-- Neither website is asked for again, and a website without a domain stays without one. -/
theorem answers_with_firstAnswer_outage :
    0 ≤ Lifetime.standard.stale ∧
      StaysFresh .standard (outage ++ [afterMove "site_1"]) ∧
      (((start .standard).after outage).asked (afterMove "site_1")).domain = some "old.example" ∧
      (((start .standard).after outage).asked (afterMove "site_1")).answers = [] ∧
      StaysFresh .standard (outage ++ [afterMove "site_2"]) ∧
      (((start .standard).after outage).asked (afterMove "site_2")).domain = none ∧
      (((start .standard).after outage).asked (afterMove "site_2")).answers = [] := by
  have hstale : 0 ≤ Lifetime.standard.stale := by decide +kernel
  have hfirst : StaysFresh .standard (outage ++ [afterMove "site_1"]) := by
    unfold StaysFresh
    decide +kernel
  have hsecond : StaysFresh .standard (outage ++ [afterMove "site_2"]) := by
    unfold StaysFresh
    decide +kernel
  obtain ⟨hdomain, hanswers, -⟩ := answers_with_firstAnswer hstale hfirst
  obtain ⟨hdomain', hanswers', -⟩ := answers_with_firstAnswer hstale hsecond
  refine ⟨hstale, hfirst, hdomain.trans ?_, hanswers.trans ?_, hsecond, hdomain'.trans ?_,
    hanswers'.trans ?_⟩
  · rfl
  · rfl
  · rfl
  · rfl

end DomainCache
end Website
end AnalyticsQuery
