import AnalyticsQuery.Proofs.Catalog.KnownDomain
import AnalyticsQuery.Proofs.Engine.ParameterIsolation
import AnalyticsQuery.Proofs.Engine.TenantScope
import AnalyticsQuery.Proofs.Query.FilterMeaning
import AnalyticsQuery.Proofs.Query.Parameters
import AnalyticsQuery.Proofs.Url.HostText
import AnalyticsQuery.Website.Domain

/-!
# The bare host of a website

A stored domain is reduced to a host in small letters.  One leading `www.` is
left out, and it is looked for before the host is spelled in small letters.  So
nothing is left of the host `www.`, a second `www.` stays, and so does one that
is spelled with a capital letter, which the hosts of other than the well-known
schemes may have.

Reducing the bare host again gives the bare host, unless one of these is the
case or the bare host is no name of its own: hosts of other schemes are not
decoded, and a name in Punycode has to be the form of what it stands for.

* `bareHost?_ofList`: the bare host of the text of a host.
* `bareHost?_self_iff`: which bare hosts are their own bare hosts.
* `readsAsItself_of_isSpecial`: the names that the well-known schemes give.
* `bareHost_usable_iff`: all that holds for bare hosts, and for what the list of
  referrers makes of them.
-/

namespace AnalyticsQuery
namespace Website

open Url.Idna

/-- The text that a stored domain is read as a URL from. -/
def urlText (raw : String) : String :=
  String.ofList (asUrl (Text.stripWhere Text.isBlankChar raw.toList))

/-- A stored domain is taken for a URL with a host. -/
def Names (raw : String) (url : Url) (host : Url.Host) : Prop :=
  Url.parse (urlText raw) = .ok url ∧ url.host = some host

/-- What is kept of the characters of a host. -/
def bareChars (host : List Char) : List Char :=
  (withoutCommonPrefix host).map Char.toLower

/-- A text is read as a host with that text. -/
def ReadsAsItself (d : String) : Prop :=
  ∃ host, Url.Host.parse d.toList = .ok host ∧ host.chars = d.toList

/-! ## The common prefix -/

theorem withoutCommonPrefix_append (rest : List Char) :
    withoutCommonPrefix (commonPrefix ++ rest) = rest :=
  rfl

theorem withoutCommonPrefix_of_not_starts {cs : List Char} (h : ¬ commonPrefix <+: cs) :
    withoutCommonPrefix cs = cs :=
  if_neg fun hstarts => h (Iff.mp List.isPrefixOf_iff_prefix hstarts)

theorem withoutCommonPrefix_sublist (cs : List Char) :
    (withoutCommonPrefix cs).Sublist cs := by
  unfold withoutCommonPrefix
  split
  · exact List.drop_sublist _ cs
  · exact List.Sublist.refl cs

/-- Nothing is left of the prefix itself only. -/
theorem bareChars_eq_nil_iff {cs : List Char} (hne : cs ≠ []) :
    bareChars cs = [] ↔ cs = commonPrefix := by
  rw [bareChars, List.map_eq_nil_iff]
  by_cases h : commonPrefix <+: cs
  · obtain ⟨rest, rfl⟩ := h
    rw [withoutCommonPrefix_append]
    simp
  · rw [withoutCommonPrefix_of_not_starts h]
    constructor
    · intro hnil
      exact absurd hnil hne
    · rintro rfl
      exact absurd (List.prefix_refl _) h

theorem map_toLower_bareChars (cs : List Char) :
    (bareChars cs).map Char.toLower = bareChars cs :=
  Text.map_toLower_map_toLower _

/-- The prefix is left where it stands twice, or where its spelling hides it. -/
theorem prefix_bareChars_iff (cs : List Char) :
    commonPrefix <+: bareChars cs ↔
      commonPrefix ++ commonPrefix <+: cs.map Char.toLower ∨
        commonPrefix <+: cs.map Char.toLower ∧ ¬ commonPrefix <+: cs := by
  by_cases h : commonPrefix <+: cs
  · obtain ⟨rest, rfl⟩ := h
    have hlower : (commonPrefix ++ rest).map Char.toLower =
        commonPrefix ++ rest.map Char.toLower := rfl
    rw [bareChars, withoutCommonPrefix_append, hlower, List.prefix_append_right_inj]
    simp
  · rw [bareChars, withoutCommonPrefix_of_not_starts h]
    constructor
    · intro hstarts
      exact Or.inr ⟨hstarts, h⟩
    · rintro (htwice | ⟨hstarts, -⟩)
      · exact (List.prefix_append _ _).trans htwice
      · exact hstarts

/-- What has the prefix is longer than what is kept of it. -/
theorem not_starts_of_bareChars_eq {cs : List Char} (h : bareChars cs = cs) :
    ¬ commonPrefix <+: cs := by
  rintro ⟨rest, rfl⟩
  have hlength := congrArg List.length h
  rw [bareChars, withoutCommonPrefix_append, List.length_map, List.length_append] at hlength
  simp [commonPrefix] at hlength

/-! ## The bare host of a host -/

theorem bareHost?_eq_some_iff {raw d : String} :
    bareHost? raw = some d ↔
      Text.stripWhere Text.isBlankChar raw.toList ≠ [] ∧
        ∃ url host, Names raw url host ∧ d.toList = bareChars host.chars := by
  simp only [bareHost?, Names, urlText]
  generalize Text.stripWhere Text.isBlankChar raw.toList = cs
  cases cs with
  | nil => simp
  | cons c rest =>
      rw [List.isEmpty_cons, if_neg Bool.false_ne_true]
      cases Url.parse (String.ofList (asUrl (c :: rest))) with
      | error e => simp
      | ok url =>
          cases hhost : url.host with
          | none => simp [Url.hostChars?, hhost]
          | some host =>
              have hlist : ∀ l : List Char, String.ofList l = d ↔ d.toList = l := by
                intro l
                constructor
                · rintro rfl
                  exact String.toList_ofList
                · rintro rfl
                  exact String.ofList_toList
              simp [Url.hostChars?, hhost, bareChars, hlist]

theorem slash_mem_of_occurs {cs : List Char} (h : Text.occurs [':', '/', '/'] cs = true) :
    '/' ∈ cs := by
  induction cs with
  | nil => cases h
  | cons c rest ih =>
      rw [Text.occurs, Bool.or_eq_true] at h
      rcases h with hstarts | hrest
      · exact (Iff.mp List.isPrefixOf_iff_prefix hstarts).subset (by simp)
      · exact List.mem_cons_of_mem c (ih hrest)

section HostText

variable {cs : List Char}

theorem stripWhere_of_isHostText (h : Url.Host.IsHostText cs) :
    Text.stripWhere Text.isBlankChar cs = cs := by
  apply Text.stripWhere_eq_self
  intro c hc
  have hrange := (Url.not_endsAuthority h hc).2.1
  simp only [Text.isBlankChar, Text.isBlankPoint]
  grind

/-- The text of a host is taken for a name, not for a URL. -/
theorem asUrl_of_isHostText (h : Url.Host.IsHostText cs) :
    asUrl cs = "https://".toList ++ cs := by
  refine if_neg fun hoccurs => ?_
  have hends := (Url.not_endsAuthority h (slash_mem_of_occurs hoccurs)).1
  revert hends
  decide

/-- The text of a host has the bare host of what it is read as. -/
theorem bareHost?_ofList (h : Url.Host.IsHostText cs) (hne : cs ≠ []) (d : String) :
    bareHost? (String.ofList cs) = some d ↔
      ∃ host, Url.Host.parse cs = .ok host ∧ d.toList = bareChars host.chars := by
  have htext : urlText (String.ofList cs) = String.ofList ("https://".toList ++ cs) := by
    rw [urlText, String.toList_ofList, stripWhere_of_isHostText h, asUrl_of_isHostText h]
  rw [bareHost?_eq_some_iff, String.toList_ofList, stripWhere_of_isHostText h]
  simp only [Names, htext, Url.parse_https h hne]
  cases Url.Host.parse cs with
  | error e => simp [Except.map]
  | ok host => simp [Except.map, Url.ofHost, hne]

end HostText

theorem isHostText_bareChars {cs : List Char} (h : Url.Host.IsHostText cs) :
    Url.Host.IsHostText (bareChars cs) := by
  apply Url.Host.IsHostText.map_toLower
  by_cases hstarts : commonPrefix <+: cs
  · obtain ⟨rest, rfl⟩ := hstarts
    rcases h with h | ⟨inner, heq, -⟩
    · exact Or.inl fun c hc => h c (List.mem_append_right commonPrefix hc)
    · cases heq
  · rwa [withoutCommonPrefix_of_not_starts hstarts]

/-- An address is kept as it is. -/
theorem bareChars_of_isAddress {host : Url.Host} (h : host.IsAddress) :
    bareChars host.chars = host.chars := by
  have hstarts : ¬ commonPrefix <+: host.chars := fun hstarts =>
    (h.of_mem_chars (hstarts.subset List.mem_cons_self)).2 rfl
  rw [bareChars, withoutCommonPrefix_of_not_starts hstarts,
    List.map_congr_left fun c hc => (h.of_mem_chars hc).1, List.map_id']

/-- A text in small letters that holds no percent sign is not changed by reading it. -/
theorem eq_of_toAscii? {cs decoded name : List Char} (hhost : Url.Host.IsHostText cs)
    (hpercent : '%' ∉ cs) (hlower : cs.map Char.toLower = cs)
    (hdecoded : Text.decode? (Url.percentDecode (Text.utf8Bytes cs)) = some decoded)
    (hname : toAscii? decoded = some name) : name = cs := by
  have hascii : isAscii cs = true := isAscii_iff.mpr fun c hc => by
    have hrange := (Url.not_endsAuthority hhost hc).2.1
    omega
  rw [Url.percentDecode_utf8Bytes hpercent, Text.decode?_utf8Bytes] at hdecoded
  cases hdecoded
  rw [((toAscii?_eq_some_iff hascii).mp hname).2, hlower]

/-- What is read as a host of which it is the bare text is the text of that host. -/
theorem chars_eq_of_bareChars_eq {cs : List Char} {host : Url.Host}
    (hhost : Url.Host.IsHostText cs) (hread : Url.Host.parse cs = .ok host)
    (h : bareChars host.chars = cs) : host.chars = cs := by
  cases Url.Host.parsed_of_parse hread with
  | address haddress => rwa [bareChars_of_isAddress haddress] at h
  | @domain decoded name hdecoded hname hne hnumber =>
      have hpercent : '%' ∉ cs := by
        intro hmem
        rw [← h] at hmem
        obtain ⟨c, hc, hlower⟩ := List.mem_map.mp hmem
        have hchar : c ∈ name := (withoutCommonPrefix_sublist _).subset hc
        rw [Text.eq_of_toLower_eq hlower (by decide)] at hchar
        have hdenied := (mem_toAscii? hname hchar).2
        revert hdenied
        decide
      have hlower : cs.map Char.toLower = cs := by
        rw [← h, map_toLower_bareChars]
      exact eq_of_toAscii? hhost hpercent hlower hdecoded hname

/-! ## Bare hosts -/

section BareHost

variable {raw d : String} {url : Url} {host : Url.Host}

theorem Names.exists_isReadAs (h : Names raw url host) :
    ∃ cs, (∀ c ∈ cs, c ∈ (urlText raw).toList) ∧ cs ≠ [] ∧
      Url.IsReadAs (Url.schemeType url.scheme) cs host :=
  Url.namesHost_of_parse h.1 h.2

theorem Names.isHostText (h : Names raw url host) : Url.Host.IsHostText host.chars := by
  obtain ⟨cs, -, -, hread⟩ := h.exists_isReadAs
  exact hread.isHostText

theorem Names.chars_ne_nil (h : Names raw url host) : host.chars ≠ [] := by
  obtain ⟨cs, -, hne, hread⟩ := h.exists_isReadAs
  exact hread.chars_ne_nil hne

/-- A bare host is its own bare host when something is left of it, no prefix is, and it is read as
itself. -/
theorem bareHost?_self_iff (h : bareHost? raw = some d) :
    bareHost? d = some d ↔ d ≠ "" ∧ ¬ commonPrefix <+: d.toList ∧ ReadsAsItself d := by
  obtain ⟨-, url, host, hnames, hd⟩ := bareHost?_eq_some_iff.mp h
  have hhost : Url.Host.IsHostText d.toList := hd ▸ isHostText_bareChars hnames.isHostText
  have hlower : d.toList.map Char.toLower = d.toList := by rw [hd, map_toLower_bareChars]
  by_cases hne : d = ""
  · subst hne
    have hnone : bareHost? "" = none := rfl
    simp [hnone]
  · have htext : d.toList ≠ [] := by simpa using hne
    have hself := bareHost?_ofList hhost htext d
    rw [String.ofList_toList] at hself
    rw [hself]
    constructor
    · rintro ⟨found, hread, hbare⟩
      have hchars := chars_eq_of_bareChars_eq hhost hread hbare.symm
      rw [hchars] at hbare
      exact ⟨hne, not_starts_of_bareChars_eq hbare.symm, found, hread, hchars⟩
    · rintro ⟨-, hstarts, found, hread, hchars⟩
      refine ⟨found, hread, ?_⟩
      rw [hchars, bareChars, withoutCommonPrefix_of_not_starts hstarts, hlower]

/-- A domain is spelled plainly when it holds characters of ASCII only and none of them is coded,
and so is its bare host when no label of that is in Punycode. -/
def SpelledPlainly (raw d : String) : Prop :=
  (∀ c ∈ raw.toList, c.toNat < 128 ∧ c ≠ '%') ∨
    ∀ label ∈ Text.splitOn '.' d.toList, ¬ codePrefix <+: label

theorem mem_urlText {c : Char} (h : c ∈ (urlText raw).toList) :
    c ∈ "https://".toList ∨ c ∈ raw.toList := by
  have hstrip : ∀ e ∈ Text.stripWhere Text.isBlankChar raw.toList, e ∈ raw.toList := by
    intro e he
    have hfront := (List.dropWhile_sublist _).subset (List.mem_reverse.mp he)
    exact (List.dropWhile_sublist _).subset (List.mem_reverse.mp hfront)
  rw [urlText, String.toList_ofList, asUrl] at h
  split at h
  · exact Or.inr (hstrip c h)
  · exact (List.mem_append.mp h).imp_right (hstrip c)

theorem endsInNumber_withoutCommonPrefix {name : List Char}
    (hne : withoutCommonPrefix name ≠ []) :
    Url.Host.endsInNumber (withoutCommonPrefix name) = Url.Host.endsInNumber name := by
  by_cases h : commonPrefix <+: name
  · obtain ⟨rest, rfl⟩ := h
    rw [withoutCommonPrefix_append] at hne ⊢
    exact (Url.Host.endsInNumber_behind ['w', 'w', 'w'] hne).symm
  · rw [withoutCommonPrefix_of_not_starts h]

/-- A name that is its own form is so without the prefix, too. -/
theorem toAscii?_withoutCommonPrefix {name : List Char} (hascii : isAscii name = true)
    (h : toAscii? name = some name) :
    toAscii? (withoutCommonPrefix name) = some (bareChars name) := by
  by_cases hstarts : commonPrefix <+: name
  · obtain ⟨rest, rfl⟩ := hstarts
    exact @toAscii?_behind ['w', 'w', 'w'] rest _ hascii h
  · rw [bareChars, withoutCommonPrefix_of_not_starts hstarts]
    rw [← ((toAscii?_eq_some_iff hascii).mp h).2]
    exact h

theorem isPlainChar_of_mem {cs : List Char}
    (h : (cs.all fun c => c.toNat < 128 && c != '%') = true) {c : Char} (hc : c ∈ cs) :
    c.toNat < 128 ∧ c ≠ '%' := by
  simpa using List.all_eq_true.mp h c hc

/-- The well-known schemes give names that are read as they are. -/
theorem readsAsItself_of_isSpecial (hnames : Names raw url host)
    (hd : d.toList = bareChars host.chars)
    (hspecial : (Url.schemeType url.scheme).isSpecial = true) (hne : d ≠ "")
    (hplain : SpelledPlainly raw d) : ReadsAsItself d := by
  obtain ⟨cs, hmem, -, hread⟩ := hnames.exists_isReadAs
  rw [Url.IsReadAs, if_pos hspecial] at hread
  unfold ReadsAsItself
  rw [hd]
  cases Url.Host.parsed_of_parse hread with
  | address haddress =>
      rw [bareChars_of_isAddress haddress]
      exact ⟨host, haddress.parse_chars, rfl⟩
  | @domain decoded name hdecoded hname hnameNe hnumber =>
      have hd : d.toList = bareChars name := hd
      have hbare : bareChars name ≠ [] := by
        rw [← hd]
        simpa using hne
      have hkept : withoutCommonPrefix name ≠ [] := by
        intro hnil
        exact hbare (by rw [bareChars, hnil, List.map_nil])
      have hchars : ∀ c ∈ withoutCommonPrefix name, IsNameChar c := fun c hc =>
        mem_toAscii? hname ((withoutCommonPrefix_sublist name).subset hc)
      have hform : toAscii? (withoutCommonPrefix name) = some (bareChars name) := by
        rcases hplain with hraw | hlabels
        · have hcs : ∀ c ∈ cs, c.toNat < 128 ∧ c ≠ '%' := by
            intro c hc
            rcases mem_urlText (hmem c hc) with h | h
            · exact isPlainChar_of_mem (by decide) h
            · exact hraw c h
          have hascii : isAscii cs = true := isAscii_iff.mpr fun c hc => (hcs c hc).1
          rw [Url.percentDecode_utf8Bytes fun h => (hcs '%' h).2 rfl, Text.decode?_utf8Bytes]
            at hdecoded
          cases hdecoded
          have hnameAscii : isAscii name = true :=
            isAscii_iff.mpr fun c hc => (mem_toAscii? hname hc).1
          exact toAscii?_withoutCommonPrefix hnameAscii (toAscii?_map_toLower hascii hname)
        · rw [hd] at hlabels
          exact toAscii?_of_plain hchars hlabels
      have hkeptAscii : isAscii (withoutCommonPrefix name) = true :=
        isAscii_iff.mpr fun c hc => (hchars c hc).1
      have hbareNumber : Url.Host.endsInNumber (bareChars name) = false := by
        rw [bareChars, Url.Host.endsInNumber_map_toLower, endsInNumber_withoutCommonPrefix hkept,
          hnumber]
      refine ⟨.domain (bareChars name), ?_, rfl⟩
      have hself := Url.Host.parse_of_toAscii? hbare (toAscii?_map_toLower hkeptAscii hform)
      rw [hbareNumber, if_neg Bool.false_ne_true] at hself
      exact hself

/-! ## The referrers without a domain -/

/-- The filter that leaves out a domain is the second one of the referrers. -/
theorem filters_of_resolve_topReferrers {request : Customization} {config : Config}
    (hdomain : request.context.domain = some d)
    (h : Catalog.builtin.resolve Schema.registry "top_referrers" request = .ok config) :
    config.filters[1]? = some (Catalog.exclusion d) := by
  obtain ⟨-, rfl⟩ := Catalog.resolve_topReferrers_eq_ok_iff.mp h
  have htemplate : (Catalog.topReferrers (some d)).filters =
      [Catalog.notEmpty "referrer", Catalog.exclusion d] := rfl
  rw [hdomain, Catalog.customize, htemplate]
  rfl

theorem get?_exclusion {request : BatchRequest} {tenant : Tenant} {q : CompiledQuery}
    (h : Engine.builtin.compileParameter request tenant (some d) "top_referrers" = .ok q) :
    q.params.get? (Sql.filterParameter 1) = some (.text (Operator.containing d)) := by
  simp only [Engine.compileParameter, Engine.builtin] at h
  split at h
  · cases h
  · rename_i config hresolve
    obtain ⟨-, hcompile⟩ := Config.compileValid_eq_ok h
    obtain ⟨table, -, rfl⟩ := Config.compile_eq_ok hcompile
    have hfilter : config.filters[1]? = some (Catalog.exclusion d) :=
      filters_of_resolve_topReferrers rfl hresolve
    have hpattern : ∀ type : ColumnType, Compilation.binding .notContains type
        (.scalar (.text d)) = .text (Operator.containing d) := by
      intro type
      cases type <;> rfl
    rw [Compilation.get?_bindings_filter hfilter]
    exact congrArg some (hpattern _)

/-- A request that is admitted for a named query is compiled. -/
theorem compiles_of_admits {engine : Engine} {parameter : String} {request : BatchRequest}
    {domain : Option String} (tenant : Tenant)
    (h : engine.catalog.Admits engine.registry parameter
      ⟨Engine.contextOf request domain, request.filters, request.groupBy⟩) :
    ∃ q, engine.compileParameter request tenant domain parameter = .ok q := by
  obtain ⟨config, hresolve, hvalid⟩ := h
  obtain ⟨table, htable, -⟩ := Config.validate_eq_ok_iff.mp hvalid
  simp only [Engine.compileParameter, hresolve]
  rw [Config.compileValid, hvalid, Config.compile_of_table? htable]
  exact ⟨_, rfl⟩

/-- The pattern that every text matches is that of the empty text. -/
theorem containing_eq_iff : Operator.containing d = "%%" ↔ d = "" := by
  constructor
  · intro h
    have hchars := congrArg String.toList h
    rw [Operator.containing, String.toList_ofList] at hchars
    have hnone : d.toList.flatMap Operator.patternChar = [] :=
      List.append_cancel_right (List.cons.inj hchars).2
    cases hd : d.toList with
    | nil => exact String.toList_eq_nil_iff.mp hd
    | cons c rest =>
        rw [hd, List.flatMap_cons, List.append_eq_nil_iff, Operator.patternChar] at hnone
        split at hnone
        · cases hnone.1
        · cases hnone.1
  · rintro rfl
    rfl

/-- Only the empty text is in every referrer. -/
theorem forall_not_admits_iff : (∀ x, ¬ (Catalog.exclusion d).Admits x) ↔ d = "" := by
  have hadmits : ∀ x, (Catalog.exclusion d).Admits x ↔ ¬ d.toList <:+: x.toList := fun x => Iff.rfl
  constructor
  · intro h
    have hempty := h ""
    rw [hadmits, not_not] at hempty
    simpa using hempty
  · rintro rfl x
    rw [hadmits, not_not]
    exact List.nil_infix

/-- A bare host has no capital letter.  It is empty when the host is no more than the prefix, and
then the list of referrers leaves all of them out.  It still has the prefix when the host has it
twice or in another spelling.  Apart from these cases it is its own bare host when it is read as
itself, as every bare host of a well-known scheme is that is spelled plainly. -/
theorem bareHost_usable_iff (h : bareHost? raw = some d) :
    ∃ url host, Names raw url host ∧
      (∀ c ∈ d.toList, ¬ Text.IsCapital c) ∧
      (d = "" ↔ host.chars = commonPrefix) ∧
      (commonPrefix <+: d.toList ↔
        commonPrefix ++ commonPrefix <+: host.chars.map Char.toLower ∨
          commonPrefix <+: host.chars.map Char.toLower ∧ ¬ commonPrefix <+: host.chars) ∧
      (bareHost? d = some d ↔ d ≠ "" ∧ ¬ commonPrefix <+: d.toList ∧ ReadsAsItself d) ∧
      ((Url.schemeType url.scheme).isSpecial = true → d ≠ "" → SpelledPlainly raw d →
        ReadsAsItself d) ∧
      (∀ request tenant q,
        Engine.builtin.compileParameter request tenant (bareHost? raw) "top_referrers" = .ok q →
          q.params.get? (Sql.filterParameter 1) = some (.text (Operator.containing d))) ∧
      (Operator.containing d = "%%" ↔ host.chars = commonPrefix) ∧
      ((∀ x, ¬ (Catalog.exclusion d).Admits x) ↔ host.chars = commonPrefix) := by
  obtain ⟨-, url, host, hnames, hd⟩ := bareHost?_eq_some_iff.mp h
  have hempty : d = "" ↔ host.chars = commonPrefix := by
    rw [← bareChars_eq_nil_iff hnames.chars_ne_nil, ← hd, String.toList_eq_nil_iff]
  refine ⟨url, host, hnames, ?_, hempty, ?_, bareHost?_self_iff h,
    readsAsItself_of_isSpecial hnames hd, ?_, containing_eq_iff.trans hempty,
    forall_not_admits_iff.trans hempty⟩
  · intro c hc
    rw [hd] at hc
    obtain ⟨e, -, rfl⟩ := List.mem_map.mp hc
    exact Text.not_isCapital_toLower e
  · rw [hd]
    exact prefix_bareChars_iff host.chars
  · intro request tenant q hcompile
    rw [h] at hcompile
    exact get?_exclusion hcompile

end BareHost

/-- The address of a page is reduced to a host that is not reduced any further. -/
theorem bareHost_usable_page :
    bareHost? "https://www.Example.com/" = some "example.com" ∧
      bareHost? "example.com" = some "example.com" ∧
      ∃ x, (Catalog.exclusion "example.com").Admits x := by
  have hbare : bareHost? "https://www.Example.com/" = some "example.com" := by decide +kernel
  obtain ⟨url, host, hnames, -, hempty, -, hself, hread, -, -, hadmits⟩ :=
    bareHost_usable_iff hbare
  have hscheme : (Url.parse (urlText "https://www.Example.com/")).map
      (fun u => (Url.schemeType u.scheme).isSpecial) = .ok true := by
    decide +kernel
  rw [hnames.1] at hscheme
  have hspecial : (Url.schemeType url.scheme).isSpecial = true := Except.ok.inj hscheme
  have hne : "example.com" ≠ "" := by decide
  have hplain : SpelledPlainly "https://www.Example.com/" "example.com" :=
    Or.inl fun c hc => isPlainChar_of_mem (by decide) hc
  refine ⟨hbare, hself.mpr ⟨hne, by decide, hread hspecial hne hplain⟩, ?_⟩
  rw [← not_forall_not, hadmits, ← hempty]
  exact hne

/-- A request for the referrers of a website. -/
def referrersRequest : BatchRequest where
  id := none
  parameters := ["top_referrers"]
  filters := []
  granularity := none
  groupBy := []
  limit := none
  page := none

theorem admits_referrersRequest :
    Engine.builtin.catalog.Admits Engine.builtin.registry "top_referrers"
      ⟨Engine.contextOf referrersRequest (some ""), referrersRequest.filters,
        referrersRequest.groupBy⟩ := by
  simp only [Engine.builtin]
  refine Catalog.admits_topReferrers_iff.mpr ⟨?_, by decide, ?_, by decide⟩
  · simp [referrersRequest]
  · simp [referrersRequest]

/-- Nothing is left of the prefix alone, and all referrers are left out with it.  A second prefix
stays, and so does one in capital letters under a scheme that is not well known; a host that is
coded there is no bare host of its own. -/
theorem bareHost_unusable :
    (bareHost? "www." = some "" ∧
      ∃ q, Engine.builtin.compileParameter referrersRequest Engine.visitsTenant (bareHost? "www.")
          "top_referrers" = .ok q ∧
        q.params.get? (Sql.filterParameter 1) = some (.text "%%") ∧
        ∀ x, ¬ (Catalog.exclusion "").Admits x) ∧
    (bareHost? "www.www.example.com" = some "www.example.com" ∧
      bareHost? "www.example.com" = some "example.com") ∧
    bareHost? "foo://WWW.Example.com" = some "www.example.com" ∧
    (bareHost? "foo://exa%6Dple.com" = some "exa%6dple.com" ∧
      bareHost? "exa%6dple.com" = some "example.com") := by
  have hempty : bareHost? "www." = some "" := by decide +kernel
  refine ⟨⟨hempty, ?_⟩, by decide +kernel, by decide +kernel, by decide +kernel⟩
  rw [hempty]
  obtain ⟨q, hq⟩ := compiles_of_admits Engine.visitsTenant admits_referrersRequest
  exact ⟨q, hq, get?_exclusion hq, forall_not_admits_iff.mpr rfl⟩

end Website
end AnalyticsQuery
