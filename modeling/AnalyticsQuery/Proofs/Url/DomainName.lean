import AnalyticsQuery.Proofs.Text.Letters
import AnalyticsQuery.Proofs.Text.Split
import AnalyticsQuery.Proofs.Url.Percent
import AnalyticsQuery.Proofs.Url.Punycode
import AnalyticsQuery.Url.Idna.Domain

/-!
# Domain names that read as themselves

A domain name in ASCII holds no blank, no percent sign and no sign that parts a
URL.  This follows from the check of its labels; it covers labels in Punycode
too, as a code holds no sign that the label does not hold.

Bringing a name into its one form spells it in small letters and, as long as it
is given in ASCII, does nothing else.  So the form is its own form, and so is
what is left of it behind its first label.

* `mem_toAscii?`: the characters of a domain name in ASCII.
* `toAscii?_eq_some_iff`: the form of a name that is given in ASCII.
* `toAscii?_behind`: the form of a name without its first label.
* `toAscii?_of_plain`: a name without labels in Punycode needs no check but that
  of its characters.
-/

namespace AnalyticsQuery
namespace Url

/-- What holds for the first 128 characters holds for all of ASCII. -/
theorem of_ascii {p : Char → Prop} (h : ∀ n < 128, p (Char.ofNat n)) {c : Char}
    (hc : c.toNat < 128) : p c := by
  have hchar := h c.toNat hc
  rwa [Char.ofNat_toNat] at hchar

/-- A list is read when each of its elements is. -/
theorem mapM_eq_some_iff {α β : Type} {f : α → Option β} {l : List α} {m : List β} :
    l.mapM f = some m ↔ l.map f = m.map some := by
  induction l generalizing m with
  | nil => cases m <;> simp
  | cons a rest ih =>
      cases m with
      | nil => simp [List.mapM_cons, Option.bind_eq_some_iff]
      | cons b others => simp [List.mapM_cons, Option.bind_eq_some_iff, ih]

namespace Idna

/-- A character that may stand in a domain name in ASCII. -/
def IsNameChar (c : Char) : Prop :=
  c.toNat < 128 ∧ isDenied c = false

instance (c : Char) : Decidable (IsNameChar c) :=
  inferInstanceAs (Decidable (_ ∧ _))

theorem isNameChar_of_isDigit {c : Char} (h : Punycode.IsDigit c) : IsNameChar c := by
  have hall : ∀ d < 36, IsNameChar (Punycode.digitChar d) := by decide
  obtain ⟨d, hd, rfl⟩ := h
  exact hall d hd

theorem isNameChar_of_digitValue? {c : Char} (h : (Punycode.digitValue? c).isSome = true) :
    IsNameChar c := by
  have hlt : c.toNat < 128 := by
    by_contra hge
    have hnone : Punycode.digitValue? c = none := by
      simp only [Punycode.digitValue?]
      split
      · omega
      · split
        · omega
        · split
          · omega
          · rfl
    rw [hnone] at h
    cases h
  have hall : ∀ n < 128, (Punycode.digitValue? (Char.ofNat n)).isSome = true →
      IsNameChar (Char.ofNat n) := by
    decide +kernel
  exact @of_ascii (fun c => (Punycode.digitValue? c).isSome = true → IsNameChar c) hall c hlt h

/-- The ASCII form of a label holds no denied character when its text holds none. -/
theorem isNameChar_of_mem_ascii
    {cs : List Char} {l : Label} (h : Label.of? cs = some l)
    (hfree : ∀ d ∈ l.text, isDenied d = false)
    {c : Char} (hc : c ∈ l.ascii) : IsNameChar c := by
  have hstarts : ∀ d ∈ ['x', 'n', '-', '-'], IsNameChar d := by
    simp only [List.mem_cons, List.not_mem_nil, or_false, forall_eq_or_imp, forall_eq]
    decide
  unfold Label.of? at h
  split at h
  · rename_i code
    obtain ⟨text, hdecoded, rfl⟩ := Option.map_eq_some_iff.mp h
    have hcode : Punycode.decode? code = some text := by
      unfold decodedLabel? at hdecoded
      split at hdecoded
      · cases hdecoded
      · rename_i label hlabel
        split at hdecoded
        · cases hdecoded
        · cases hdecoded
          exact hlabel
    have hsplit : c ∈ ['x', 'n', '-', '-'] ++ code := hc
    rcases List.mem_append.mp hsplit with hc | hc
    · exact hstarts c hc
    · rcases Punycode.mem_of_decode? hcode hc with ⟨hmem, hlt⟩ | rfl | hdigit
      · exact ⟨hlt, hfree c hmem⟩
      · decide
      · exact isNameChar_of_digitValue? hdigit
  · split at h
    · rename_i hascii
      cases h
      have hlt := List.all_eq_true.mp hascii c hc
      exact ⟨of_decide_eq_true hlt, hfree c hc⟩
    · cases h
      have hsplit : c ∈ ['x', 'n', '-', '-'] ++ Punycode.encode cs := hc
      rcases List.mem_append.mp hsplit with hc | hc
      · exact hstarts c hc
      · rcases Punycode.mem_encode hc with ⟨hmem, hlt⟩ | rfl | hdigit
        · exact ⟨hlt, hfree c hmem⟩
        · decide
        · exact isNameChar_of_isDigit hdigit

/-- What is asked of the labels of a domain name together. -/
structure AreAccepted (labels : List Label) : Prop where
  allowed : ∀ l ∈ labels, ∀ c ∈ l.text, isDenied c = false
  fit : ∀ l ∈ labels, l.fits = true
  directed : (∃ l ∈ labels, isRightToLeft l.text = true) →
    ∀ l ∈ labels, keepsDirection l.text = true

theorem AreAccepted.of_subset
    {labels rest : List Label} (h : AreAccepted labels) (hsub : ∀ l ∈ rest, l ∈ labels) :
    AreAccepted rest where
  allowed l hl := h.allowed l (hsub l hl)
  fit l hl := h.fit l (hsub l hl)
  directed := by
    rintro ⟨l, hl, hright⟩ other hother
    exact h.directed ⟨l, hsub l hl, hright⟩ other (hsub other hother)

/-- The form of a domain name is put together from the ASCII forms of its labels. -/
theorem toAscii?_eq_some_iff_labels {domain name : List Char} :
    toAscii? domain = some name ↔ ∃ points labels, mapped? domain = some points ∧
      (Text.splitOn '.' (composed (points.map Char.ofNat))).mapM Label.of? = some labels ∧
      AreAccepted labels ∧ name = List.intercalate ['.'] (labels.map Label.ascii) := by
  simp only [toAscii?, Option.bind_eq_bind, Option.bind_eq_some_iff, Option.ite_none_right_eq_some,
    Bool.and_eq_true, Bool.or_eq_true, Bool.not_eq_true', List.any_eq_false, List.all_eq_true,
    Bool.not_eq_true]
  constructor
  · rintro ⟨points, hpoints, labels, hlabels, ⟨⟨hallowed, hfit⟩, hdirected⟩, hname⟩
    refine ⟨points, labels, hpoints, hlabels, ⟨hallowed, hfit, ?_⟩, Option.some.inj hname.symm⟩
    rintro ⟨l, hl, hright⟩
    rcases hdirected with hnone | hall
    · exact absurd hright (by simp [hnone l hl])
    · exact hall
  · rintro ⟨points, labels, hpoints, hlabels, haccepted, rfl⟩
    refine ⟨points, hpoints, labels, hlabels, ⟨⟨haccepted.allowed, haccepted.fit⟩, ?_⟩, rfl⟩
    by_cases hright : ∃ l ∈ labels, isRightToLeft l.text = true
    · exact Or.inr (haccepted.directed hright)
    · refine Or.inl fun l hl => ?_
      by_contra hlabel
      exact hright ⟨l, hl, by simpa using hlabel⟩

theorem mem_intercalate {separator c : Char} {parts : List (List Char)}
    (h : c ∈ List.intercalate [separator] parts) : c = separator ∨ ∃ part ∈ parts, c ∈ part := by
  induction parts with
  | nil => cases h
  | cons part rest ih =>
      cases rest with
      | nil =>
          exact Or.inr ⟨part, List.mem_singleton_self part, by simpa [List.intercalate] using h⟩
      | cons other rest =>
          rw [List.intercalate_cons_cons, List.append_assoc] at h
          rcases List.mem_append.mp h with h | h
          · exact Or.inr ⟨part, List.mem_cons_self, h⟩
          · rcases List.mem_append.mp h with h | h
            · exact Or.inl (List.mem_singleton.mp h)
            · rcases ih h with h | ⟨found, hfound, h⟩
              · exact Or.inl h
              · exact Or.inr ⟨found, List.mem_cons_of_mem part hfound, h⟩

/-- The characters of a domain name in ASCII. -/
theorem mem_toAscii? {domain name : List Char} (h : toAscii? domain = some name) {c : Char}
    (hc : c ∈ name) : IsNameChar c := by
  obtain ⟨points, labels, -, hlabels, haccepted, rfl⟩ := toAscii?_eq_some_iff_labels.mp h
  rcases mem_intercalate hc with rfl | ⟨part, hpart, hc⟩
  · decide
  · obtain ⟨l, hl, rfl⟩ := List.mem_map.mp hpart
    have hmem : some l ∈ labels.map some := List.mem_map_of_mem hl
    rw [← mapM_eq_some_iff.mp hlabels] at hmem
    obtain ⟨cs, -, hlabel⟩ := List.mem_map.mp hmem
    exact isNameChar_of_mem_ascii hlabel (haccepted.allowed l hl) hc

/-! ## Names given in ASCII -/

theorem isAscii_iff {cs : List Char} : isAscii cs = true ↔ ∀ c ∈ cs, c.toNat < 128 := by
  simp [isAscii]

theorem isAscii_map_toLower {cs : List Char} (h : isAscii cs = true) :
    isAscii (cs.map Char.toLower) = true := by
  rw [isAscii_iff] at h ⊢
  intro c hc
  obtain ⟨d, hd, rfl⟩ := List.mem_map.mp hc
  exact Text.toNat_toLower_lt (h d hd)

theorem ruleOf_of_lt {c : Char} (h : c.toNat < 128) :
    ruleOf c = .mapped [c.toLower.toNat] ∨ ruleOf c = .valid ∧ c.toLower = c := by
  rw [ruleOf, if_pos h]
  split
  · exact Or.inl rfl
  · rename_i hupper
    refine Or.inr ⟨rfl, ?_⟩
    rw [Text.toLower_eq_self_iff]
    rintro ⟨hlow, hhigh⟩
    exact hupper ((Text.isUpper_iff c).mpr ⟨hlow, hhigh⟩)

/-- Characters of ASCII are mapped to small letters. -/
theorem mapped?_of_isAscii {cs : List Char} (h : isAscii cs = true) :
    mapped? cs = some ((cs.map Char.toLower).map Char.toNat) := by
  rw [isAscii_iff] at h
  induction cs with
  | nil => rfl
  | cons c rest ih =>
      have hrest := ih fun d hd => h d (List.mem_cons_of_mem c hd)
      rcases ruleOf_of_lt (h c List.mem_cons_self) with hrule | ⟨hrule, hlower⟩
      · rw [mapped?, hrule, hrest]
        rfl
      · rw [mapped?, hrule, hrest, List.map_cons, List.map_cons, hlower]

theorem composed_mapped_of_isAscii {cs : List Char} (h : isAscii cs = true) :
    composed (((cs.map Char.toLower).map Char.toNat).map Char.ofNat) = cs.map Char.toLower := by
  have hback : ((cs.map Char.toLower).map Char.toNat).map Char.ofNat = cs.map Char.toLower := by
    rw [List.map_map, List.map_congr_left (g := id), List.map_id]
    intro c _
    exact Char.ofNat_toNat c
  rw [hback, composed, if_pos (isAscii_map_toLower h)]

/-- A label in ASCII is its own form, in Punycode or not. -/
theorem ascii_of_of? {cs : List Char} {l : Label} (h : Label.of? cs = some l)
    (hascii : isAscii cs = true) : l.ascii = cs := by
  unfold Label.of? at h
  split at h
  · obtain ⟨text, -, rfl⟩ := Option.map_eq_some_iff.mp h
    rfl
  · rw [if_pos hascii] at h
    cases h
    rfl

theorem isAscii_of_mem_splitOn {cs part : List Char} (h : isAscii cs = true)
    (hpart : part ∈ Text.splitOn '.' cs) : isAscii part = true := by
  rw [isAscii_iff] at h ⊢
  intro c hc
  exact h c (Text.mem_of_mem_splitOn hpart hc)

theorem map_ascii_of_map {parts : List (List Char)} {labels : List Label}
    (h : parts.map Label.of? = labels.map some) (hascii : ∀ part ∈ parts, isAscii part = true) :
    labels.map Label.ascii = parts := by
  induction parts generalizing labels with
  | nil =>
      rw [List.map_eq_nil_iff.mp h.symm]
      rfl
  | cons part rest ih =>
      obtain ⟨l, others, rfl, hl, hothers⟩ := List.map_eq_cons_iff.mp h.symm
      obtain ⟨hpart, hrest⟩ := List.forall_mem_cons.mp hascii
      rw [List.map_cons, ascii_of_of? hl.symm hpart, ih hothers.symm hrest]

/-- A name that is given in ASCII is brought into small letters, once its labels are accepted. -/
theorem toAscii?_eq_some_iff {cs name : List Char} (h : isAscii cs = true) :
    toAscii? cs = some name ↔
      (∃ labels, (Text.splitOn '.' (cs.map Char.toLower)).mapM Label.of? = some labels ∧
        AreAccepted labels) ∧ name = cs.map Char.toLower := by
  have hjoined : ∀ labels,
      (Text.splitOn '.' (cs.map Char.toLower)).mapM Label.of? = some labels →
        List.intercalate ['.'] (labels.map Label.ascii) = cs.map Char.toLower := by
    intro labels hlabels
    have hparts : labels.map Label.ascii = Text.splitOn '.' (cs.map Char.toLower) :=
      map_ascii_of_map (mapM_eq_some_iff.mp hlabels) fun part hpart =>
        isAscii_of_mem_splitOn (isAscii_map_toLower h) hpart
    rw [hparts, Text.intercalate_splitOn]
  rw [toAscii?_eq_some_iff_labels, mapped?_of_isAscii h]
  constructor
  · rintro ⟨points, labels, hpoints, hlabels, haccepted, rfl⟩
    cases hpoints
    rw [composed_mapped_of_isAscii h] at hlabels
    exact ⟨⟨labels, hlabels, haccepted⟩, hjoined labels hlabels⟩
  · rintro ⟨⟨labels, hlabels, haccepted⟩, rfl⟩
    refine ⟨_, labels, rfl, ?_, haccepted, (hjoined labels hlabels).symm⟩
    rw [composed_mapped_of_isAscii h]
    exact hlabels

/-- The form of a name in ASCII is its own form. -/
theorem toAscii?_map_toLower {cs name : List Char} (h : isAscii cs = true)
    (hname : toAscii? cs = some name) : toAscii? name = some name := by
  obtain ⟨hlabels, rfl⟩ := (toAscii?_eq_some_iff h).mp hname
  rw [toAscii?_eq_some_iff (isAscii_map_toLower h), Text.map_toLower_map_toLower]
  exact ⟨hlabels, rfl⟩

/-- What stands behind a point of an accepted name is accepted too. -/
theorem toAscii?_behind {first rest name : List Char} (h : isAscii (first ++ '.' :: rest) = true)
    (hname : toAscii? (first ++ '.' :: rest) = some name) :
    toAscii? rest = some (rest.map Char.toLower) := by
  have hrest : isAscii rest = true := by
    rw [isAscii_iff] at h ⊢
    intro c hc
    exact h c (List.mem_append_right first (List.mem_cons_of_mem '.' hc))
  obtain ⟨⟨labels, hlabels, haccepted⟩, -⟩ := (toAscii?_eq_some_iff h).mp hname
  have hpoint : '.'.toLower = '.' := by decide
  rw [List.map_append, List.map_cons, hpoint, Text.splitOn_append_cons, mapM_eq_some_iff,
    List.map_append] at hlabels
  obtain ⟨front, back, rfl, -, hback⟩ := List.map_eq_append_iff.mp hlabels.symm
  refine (toAscii?_eq_some_iff hrest).mpr ⟨⟨back, mapM_eq_some_iff.mpr hback.symm, ?_⟩, rfl⟩
  exact haccepted.of_subset fun l hl => List.mem_append_right front hl

/-- The beginning of a label in Punycode. -/
def codePrefix : List Char := ['x', 'n', '-', '-']

theorem of?_of_plain {cs : List Char} (hplain : ¬ codePrefix <+: cs) (hascii : isAscii cs = true) :
    Label.of? cs = some ⟨cs, cs⟩ := by
  unfold Label.of?
  split
  · rename_i code
    exact absurd ⟨code, rfl⟩ hplain
  · rw [if_pos hascii]

/-- No character of ASCII is written from right to left. -/
theorem isRightToLeft_of_isAscii {cs : List Char} (h : isAscii cs = true) :
    isRightToLeft cs = false := by
  have hall : ∀ n < 128,
      (direction (Char.ofNat n) = 'R' || direction (Char.ofNat n) = 'A') = false := by
    decide +kernel
  rw [isAscii_iff] at h
  rw [isRightToLeft, List.any_eq_false]
  intro c hc
  have hdirection :=
    @of_ascii (fun c => (direction c = 'R' || direction c = 'A') = false) hall c (h c hc)
  rw [hdirection]
  exact Bool.false_ne_true

theorem areAccepted_of_plain {parts : List (List Char)}
    (hascii : ∀ part ∈ parts, isAscii part = true)
    (hallowed : ∀ part ∈ parts, ∀ c ∈ part, isDenied c = false) :
    AreAccepted (parts.map fun part => ⟨part, part⟩) where
  allowed := by
    simpa using hallowed
  fit := by
    intro l hl
    obtain ⟨part, hpart, rfl⟩ := List.mem_map.mp hl
    rw [Label.fits, hascii part hpart]
    rfl
  directed := by
    rintro ⟨l, hl, hright⟩
    obtain ⟨part, hpart, rfl⟩ := List.mem_map.mp hl
    rw [isRightToLeft_of_isAscii (hascii part hpart)] at hright
    cases hright

theorem isNameChar_toLower {c : Char} (h : IsNameChar c) : IsNameChar c.toLower := by
  have hall : ∀ n < 128, IsNameChar (Char.ofNat n) → IsNameChar (Char.ofNat n).toLower := by
    decide +kernel
  exact @of_ascii (fun c => IsNameChar c → IsNameChar c.toLower) hall c h.1 h

/-- A name without labels in Punycode needs no check but that of its characters. -/
theorem toAscii?_of_plain {cs : List Char} (hchars : ∀ c ∈ cs, IsNameChar c)
    (hplain : ∀ part ∈ Text.splitOn '.' (cs.map Char.toLower), ¬ codePrefix <+: part) :
    toAscii? cs = some (cs.map Char.toLower) := by
  have hascii : isAscii cs = true := isAscii_iff.mpr fun c hc => (hchars c hc).1
  have hparts : ∀ part ∈ Text.splitOn '.' (cs.map Char.toLower), isAscii part = true := by
    intro part hpart
    exact isAscii_of_mem_splitOn (isAscii_map_toLower hascii) hpart
  have hallowed :
      ∀ part ∈ Text.splitOn '.' (cs.map Char.toLower), ∀ c ∈ part, isDenied c = false := by
    intro part hpart c hc
    obtain ⟨d, hd, rfl⟩ := List.mem_map.mp (Text.mem_of_mem_splitOn hpart hc)
    exact (isNameChar_toLower (hchars d hd)).2
  refine (toAscii?_eq_some_iff hascii).mpr ⟨⟨_, ?_, areAccepted_of_plain hparts hallowed⟩, rfl⟩
  rw [mapM_eq_some_iff, List.map_map]
  exact List.map_congr_left fun part hpart => of?_of_plain (hplain part hpart) (hparts part hpart)

end Idna
end Url
end AnalyticsQuery
