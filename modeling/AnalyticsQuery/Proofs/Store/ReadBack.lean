import AnalyticsQuery.Store.Parameter

/-!
# Bound values are read back as they were

The store reads the text of a bound value in up to two steps.  A text form is
read up to a raw tab or line end, and a backslash in it begins an escape.  The
text of a list is such a text form too; what is read from it is a list in
brackets, whose members are literals in single quotes with commas between them.

This module has the two readers, without any knowledge of how values are
encoded.  Both read characters up to one that stops them and differ only in the
characters that stop and in the escapes that they know.

* `readUntil_flatMap`: a text that was escaped character by character is read
  back, whatever follows it, as long as that begins with a stopping character.
* `encode_reads_back`: each text and each list of texts is read back from its
  encoding with nothing left over; so no two texts share an encoding, and no two
  lists do.
-/

namespace AnalyticsQuery
namespace Store

section Readers

/-- Read up to a stopping character or the end; gives what was read and the text behind it. -/
def readUntil (stops : Char → Bool) (escape? : Char → Option Char) :
    List Char → Option (List Char × List Char)
  | [] => some ([], [])
  | c :: rest =>
      if stops c then some ([], c :: rest)
      else if c = '\\' then
        match rest with
        | [] => none
        | d :: after =>
            match escape? d with
            | none => none
            | some e => (readUntil stops escape? after).map fun r => (e :: r.1, r.2)
      else (readUntil stops escape? rest).map fun r => (c :: r.1, r.2)

/-- The character that a character behind a backslash stands for in a text form. -/
def textEscape? : Char → Option Char
  | '\\' => some '\\'
  | 't' => some '\t'
  | 'n' => some '\n'
  | 'r' => some '\r'
  | _ => none

/-- The escapes of a literal: those of a text form and the single quote. -/
def literalEscape? (c : Char) : Option Char :=
  if c = '\'' then some '\'' else textEscape? c

def stopsText (c : Char) : Bool :=
  c = '\t' || c = '\n'

def stopsLiteral (c : Char) : Bool :=
  c = '\''

/-- Read a text form. -/
def readText (cs : List Char) : Option (List Char × List Char) :=
  readUntil stopsText textEscape? cs

/-- Read a literal in single quotes. -/
def readLiteral : List Char → Option (String × List Char)
  | '\'' :: cs =>
      match readUntil stopsLiteral literalEscape? cs with
      | some (s, '\'' :: rest) => some (String.ofList s, rest)
      | _ => none
  | _ => none

section Steps

variable {stops : Char → Bool} {escape? : Char → Option Char} {c : Char}

theorem readUntil_stop (hc : stops c = true) (rest : List Char) :
    readUntil stops escape? (c :: rest) = some ([], c :: rest) := by
  rw [readUntil.eq_def]
  simp [hc]

theorem readUntil_plain (hc : stops c = false) (hback : c ≠ '\\') (rest : List Char) :
    readUntil stops escape? (c :: rest) =
      (readUntil stops escape? rest).map fun r => (c :: r.1, r.2) := by
  rw [readUntil.eq_def]
  simp [hc, hback]

theorem readUntil_escape
    (hback : stops '\\' = false) {d : Char} (hd : escape? d = some c) (rest : List Char) :
    readUntil stops escape? ('\\' :: d :: rest) =
      (readUntil stops escape? rest).map fun r => (c :: r.1, r.2) := by
  rw [readUntil.eq_def]
  simp [hback, hd]

end Steps

theorem length_readUntil
    {stops : Char → Bool} {escape? : Char → Option Char} {cs s rest : List Char}
    (h : readUntil stops escape? cs = some (s, rest)) :
    rest.length ≤ cs.length := by
  fun_induction readUntil stops escape? cs generalizing s with
  | case1 =>
      cases h
      exact Nat.le_refl _
  | case2 =>
      cases h
      exact Nat.le_refl _
  | case3 => cases h
  | case4 => cases h
  | case5 _ _ _ _ _ ih =>
      obtain ⟨⟨t, u⟩, hread, heq⟩ := Option.map_eq_some_iff.mp h
      cases heq
      have hle : u.length ≤ _ := ih hread
      simp only [List.length_cons]
      omega
  | case6 c after _ _ ih =>
      obtain ⟨⟨t, u⟩, hread, heq⟩ := Option.map_eq_some_iff.mp h
      cases heq
      have hle : u.length ≤ _ := ih hread
      simp only [List.length_cons]
      omega

theorem length_readLiteral
    {cs rest : List Char} {s : String} (h : readLiteral cs = some (s, rest)) :
    rest.length < cs.length := by
  unfold readLiteral at h
  split at h
  · split at h
    · rename_i hread
      cases h
      have hle := length_readUntil hread
      simp only [List.length_cons] at hle ⊢
      omega
    · cases h
  · cases h

/-- Read literals with commas between them up to a closing bracket. -/
def readItems (cs : List Char) : Option (List String × List Char) :=
  match _hread : readLiteral cs with
  | some (s, ',' :: rest) => (readItems rest).map fun r => (s :: r.1, r.2)
  | some (s, ']' :: rest) => some ([s], rest)
  | _ => none
termination_by cs.length
decreasing_by
  have hlt := length_readLiteral _hread
  simp only [List.length_cons] at hlt
  omega

/-- Read a list of literals in brackets. -/
def readList : List Char → Option (List String × List Char)
  | '[' :: ']' :: rest => some ([], rest)
  | '[' :: rest => readItems rest
  | _ => none

theorem readItems_of_comma
    {cs rest : List Char} {s : String} (h : readLiteral cs = some (s, ',' :: rest)) :
    readItems cs = (readItems rest).map fun r => (s :: r.1, r.2) := by
  rw [readItems]
  split <;> simp_all

theorem readItems_of_bracket
    {cs rest : List Char} {s : String} (h : readLiteral cs = some (s, ']' :: rest)) :
    readItems cs = some ([s], rest) := by
  rw [readItems]
  split <;> simp_all

end Readers

/-- A character is written as itself, when it neither stops the reader nor begins an escape, or as
an escape that the reader knows. -/
structure Escapes
    (stops : Char → Bool) (escape? : Char → Option Char) (write : Char → List Char) : Prop where
  backslash : stops '\\' = false
  written : ∀ c, (write c = [c] ∧ stops c = false ∧ c ≠ '\\') ∨
    ∃ d, write c = ['\\', d] ∧ escape? d = some c

/-- What was escaped is read back, whatever follows it. -/
theorem readUntil_flatMap
    {stops : Char → Bool} {escape? : Char → Option Char} {write : Char → List Char}
    (h : Escapes stops escape? write)
    (cs : List Char) {rest : List Char} (hrest : ∀ d ∈ rest.head?, stops d = true) :
    readUntil stops escape? (cs.flatMap write ++ rest) = some (cs, rest) := by
  induction cs with
  | nil =>
      cases rest with
      | nil => rfl
      | cons d after => exact readUntil_stop (hrest d rfl) after
  | cons c cs ih =>
      rw [List.flatMap_cons, List.append_assoc]
      rcases h.written c with ⟨hself, hstop, hback⟩ | ⟨d, hescaped, hd⟩
      · rw [hself, List.singleton_append, readUntil_plain hstop hback, ih]
        rfl
      · rw [hescaped, List.cons_append, List.singleton_append, readUntil_escape h.backslash hd, ih]
        rfl

theorem escapes_text : Escapes stopsText textEscape? escapedChar where
  backslash := by decide
  written c := by
    by_cases hback : c = '\\'
    · subst hback
      exact Or.inr ⟨'\\', rfl, rfl⟩
    by_cases htab : c = '\t'
    · subst htab
      exact Or.inr ⟨'t', rfl, rfl⟩
    by_cases hline : c = '\n'
    · subst hline
      exact Or.inr ⟨'n', rfl, rfl⟩
    by_cases hreturn : c = '\r'
    · subst hreturn
      exact Or.inr ⟨'r', rfl, rfl⟩
    have hself : escapedChar c = [c] := by simp [escapedChar, hback, htab, hline, hreturn]
    have hstop : stopsText c = false := by simp [stopsText, htab, hline]
    exact Or.inl ⟨hself, hstop, hback⟩

theorem escapes_literal : Escapes stopsLiteral literalEscape? literalChar where
  backslash := by decide
  written c := by
    by_cases hback : c = '\\'
    · subst hback
      exact Or.inr ⟨'\\', rfl, rfl⟩
    by_cases hquote : c = '\''
    · subst hquote
      exact Or.inr ⟨'\'', rfl, rfl⟩
    have hself : literalChar c = [c] := by simp [literalChar, hback, hquote]
    have hstop : stopsLiteral c = false := by simp [stopsLiteral, hquote]
    exact Or.inl ⟨hself, hstop, hback⟩

/-- An escaped text form has no raw tab or line end, so that all of it is read. -/
theorem readText_escaped (cs : List Char) :
    readText (cs.flatMap escapedChar) = some (cs, []) := by
  have hread :
      readUntil stopsText textEscape? (cs.flatMap escapedChar ++ []) = some (cs, []) :=
    readUntil_flatMap escapes_text cs (by simp)
  rwa [List.append_nil] at hread

theorem readLiteral_literal (s : String) (rest : List Char) :
    readLiteral (literal s ++ rest) = some (s, rest) := by
  have hread :
      readUntil stopsLiteral literalEscape? (s.toList.flatMap literalChar ++ '\'' :: rest) =
        some (s.toList, '\'' :: rest) :=
    readUntil_flatMap escapes_literal s.toList (by simp [stopsLiteral])
  have htext :
      literal s ++ rest = '\'' :: (s.toList.flatMap literalChar ++ '\'' :: rest) := by
    simp [literal]
  rw [htext, readLiteral, hread]
  simp

/-- Literals are told apart whatever they hold, because a comma or bracket inside one of them stands
in front of its closing quote. -/
theorem readItems_intercalate
    (x : String) (xs : List String) (rest : List Char) :
    readItems ([','].intercalate ((x :: xs).map literal) ++ ']' :: rest) =
      some (x :: xs, rest) := by
  induction xs generalizing x with
  | nil =>
      have hlast := readLiteral_literal x (']' :: rest)
      simpa using readItems_of_bracket hlast
  | cons y ys ih =>
      have hnext :=
        readLiteral_literal x
          (',' :: ([','].intercalate ((y :: ys).map literal) ++ ']' :: rest))
      have htext :
          [','].intercalate ((x :: y :: ys).map literal) ++ ']' :: rest =
            literal x ++
              ',' :: ([','].intercalate ((y :: ys).map literal) ++ ']' :: rest) := by
        simp [List.intercalate_cons_cons]
      rw [htext, readItems_of_comma hnext, ih]
      rfl

theorem readList_listChars (xs : List String) :
    readList (listChars xs) = some (xs, []) := by
  cases xs with
  | nil => rfl
  | cons x xs =>
      have hitems := readItems_intercalate x xs []
      have hopen :
          ∃ cs, [','].intercalate ((x :: xs).map literal) ++ [']'] = '\'' :: cs := by
        cases xs <;> simp [literal, List.intercalate_cons_cons]
      obtain ⟨cs, hcs⟩ := hopen
      rw [hcs] at hitems
      have htext : listChars (x :: xs) = '[' :: '\'' :: cs := by
        rw [listChars, List.cons_append, hcs]
      rw [htext]
      exact hitems

/-- Texts and lists of texts are read back from their encodings with nothing left over; hence the
encoding is injective on both. -/
theorem encode_reads_back :
    (∀ s : String, readText (encode (.text s)).toList = some (s.toList, [])) ∧
      (∀ xs : List String, ∃ cs,
        readText (encode (.texts xs)).toList = some (cs, []) ∧ readList cs = some (xs, [])) ∧
      Function.Injective (fun s => encode (.text s)) ∧
      Function.Injective fun xs => encode (.texts xs) := by
  have htext : ∀ s : String, readText (encode (.text s)).toList = some (s.toList, []) := by
    intro s
    rw [encode, String.toList_ofList]
    exact readText_escaped s.toList
  have hlist :
      ∀ xs : List String,
        readText (encode (.texts xs)).toList = some (listChars xs, []) := by
    intro xs
    rw [encode, String.toList_ofList]
    exact readText_escaped (listChars xs)
  refine ⟨htext, ?_, ?_, ?_⟩
  · intro xs
    exact ⟨listChars xs, hlist xs, readList_listChars xs⟩
  -- One text is read back as one value, so equal encodings come from equal values.
  · intro s t h
    have hread := htext s
    rw [show encode (.text s) = encode (.text t) from h, htext t] at hread
    have hchars : t.toList = s.toList := by simpa using hread
    exact String.toList_inj.mp hchars.symm
  · intro xs ys h
    have hread := hlist xs
    rw [show encode (.texts xs) = encode (.texts ys) from h, hlist ys] at hread
    have hchars : listChars ys = listChars xs := by simpa using hread
    have hvalue := readList_listChars xs
    rw [← hchars, readList_listChars ys] at hvalue
    simpa using hvalue.symm

example : encode (.texts ["O'Brien", "a\tb"]) = "['O\\\\'Brien','a\\tb']" := by
  decide

end Store
end AnalyticsQuery
