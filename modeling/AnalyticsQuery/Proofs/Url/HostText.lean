import AnalyticsQuery.Proofs.Url.Address
import AnalyticsQuery.Proofs.Url.Form
import AnalyticsQuery.Proofs.Url.Percent
import AnalyticsQuery.Text.Blank
import AnalyticsQuery.Url.Basic

/-!
# The text of a host

The text of a host can stand in a URL as it is: it holds no blank, no sign that
ends the part of a URL that names the host, and no at sign.  A colon is in it
only in an address in brackets.  So a URL that is made of a scheme and such a
text names what the text is read as.

An address is read back from its text, and so is a domain name that is its own
form.

* `parsed_of_parse`: what a text can be read as.
* `parse_chars_ipv4`, `parse_chars_ipv6`: addresses are read back.
* `Parsed.isHostText`, `isHostText_of_parseOpaque`: the texts of hosts.
* `parse_https`: the URL of the text of a host.
-/

namespace AnalyticsQuery
namespace Url

namespace Host

open Idna

/-! ## Texts that are read -/

/-- A host that is an address. -/
def IsAddress : Host → Prop
  | domain _ => False
  | ipv4 address => address < 256 ^ 4
  | ipv6 pieces => IsIpv6 pieces

/-- What a text can be read as in the URL of a well-known scheme. -/
inductive Parsed (cs : List Char) : Host → Prop
  | domain {decoded name : List Char}
      (decoded_eq : Text.decode? (percentDecode (Text.utf8Bytes cs)) = some decoded)
      (toAscii_eq : toAscii? decoded = some name) (ne_nil : name ≠ [])
      (noNumber : endsInNumber name = false) : Parsed cs (.domain name)
  | address {host : Host} (isAddress : host.IsAddress) : Parsed cs host

theorem of_bracketed? {cs : List Char} {host : Host} (h : bracketed? cs = .ok host) :
    ∃ pieces, host = .ipv6 pieces ∧ IsIpv6 pieces := by
  unfold bracketed? at h
  split at h
  · split at h
    · rename_i pieces hpieces
      cases h
      exact ⟨pieces, rfl, isIpv6_ipv6? hpieces⟩
    · cases h
  · cases h

theorem parsed_of_parse {cs : List Char} {host : Host} (h : parse cs = .ok host) :
    Parsed cs host := by
  unfold parse at h
  split at h
  · obtain ⟨pieces, rfl, hpieces⟩ := of_bracketed? h
    exact .address hpieces
  · split at h
    · cases h
    · cases h
    · rename_i name hne hname
      obtain ⟨decoded, hdecoded, hascii⟩ := Option.bind_eq_some_iff.mp hname
      split at h
      · split at h
        · rename_i address haddress
          cases h
          obtain ⟨numbers, -, hnumbers⟩ := Option.bind_eq_some_iff.mp haddress
          exact .address (ipv4OfNumbers?_lt hnumbers)
        · cases h
      · rename_i hnumber
        cases h
        exact .domain hdecoded hascii hne (by simpa using hnumber)

/-- A name that is its own form is read as it is, or as the address that it is. -/
theorem parse_of_toAscii? {cs : List Char} (hne : cs ≠ []) (h : toAscii? cs = some cs) :
    parse cs =
      if endsInNumber cs then
        match ipv4? cs with
        | some address => .ok (.ipv4 address)
        | none => .error .invalidIpv4
      else .ok (.domain cs) := by
  have hbracket : cs.head? ≠ some '[' := by
    intro hhead
    have hdenied := (mem_toAscii? h (List.mem_of_head? hhead)).2
    revert hdenied
    decide
  have hpercent : '%' ∉ cs := by
    intro hmem
    have hdenied := (mem_toAscii? h hmem).2
    revert hdenied
    decide
  have hdecoded : Text.decode? (percentDecode (Text.utf8Bytes cs)) = some cs := by
    rw [percentDecode_utf8Bytes hpercent, Text.decode?_utf8Bytes]
  unfold parse
  rw [if_neg hbracket, hdecoded, Option.bind_some, h]
  cases cs with
  | nil => exact absurd rfl hne
  | cons c rest => rfl

/-- Numbers between points are a domain name that is its own form. -/
theorem toAscii?_dotted {numbers : List Nat} (hne : numbers ≠ []) :
    toAscii? (dotted numbers) = some (dotted numbers) := by
  have hdigit : ∀ d < 16, IsNameChar (Nat.digitChar d) ∧
      (Nat.digitChar d).toLower = Nat.digitChar d := by
    decide
  have hchars : ∀ c ∈ dotted numbers, IsNameChar c ∧ c.toLower = c := by
    intro c hc
    rcases mem_dotted hc with rfl | ⟨d, hd, rfl⟩
    · decide
    · exact hdigit d hd
  have hlower : (dotted numbers).map Char.toLower = dotted numbers := by
    rw [List.map_congr_left fun c hc => (hchars c hc).2, List.map_id']
  have hplain : ∀ part ∈ Text.splitOn '.' (dotted numbers), ¬ codePrefix <+: part := by
    intro part hpart hstarts
    rw [splitOn_dotted hne] at hpart
    obtain ⟨n, -, rfl⟩ := List.mem_map.mp hpart
    have hx := (Decimal.isDigits_toDigits n).2 'x' (hstarts.subset List.mem_cons_self)
    revert hx
    decide
  have hform := @toAscii?_of_plain (dotted numbers) (fun c hc => (hchars c hc).1)
  rw [hlower] at hform
  exact hform hplain

theorem parse_chars_ipv4 {address : Nat} (h : address < 256 ^ 4) :
    parse (chars (.ipv4 address)) = .ok (.ipv4 address) := by
  have hne : ipv4Bytes address ≠ [] := List.cons_ne_nil _ _
  have htext : chars (.ipv4 address) ≠ [] := dotted_ne_nil hne
  have hform : toAscii? (chars (.ipv4 address)) = some (chars (.ipv4 address)) :=
    toAscii?_dotted hne
  have hnumber : endsInNumber (chars (.ipv4 address)) = true := endsInNumber_dotted hne
  rw [parse_of_toAscii? htext hform, if_pos hnumber, ipv4?_chars h]

theorem parse_chars_ipv6 {pieces : List Nat} (h : IsIpv6 pieces) :
    parse (chars (.ipv6 pieces)) = .ok (.ipv6 pieces) := by
  have hread := ipv6?_ipv6Chars h.1 h.2
  have hlast : (chars (.ipv6 pieces)).getLast? = some ']' := by
    rw [chars, List.getLast?_concat]
  have hinner : ((chars (.ipv6 pieces)).drop 1).dropLast = ipv6Chars pieces := by
    rw [chars, List.cons_append, List.drop_succ_cons, List.drop_zero, List.dropLast_concat]
  have hhead : (chars (.ipv6 pieces)).head? = some '[' := rfl
  unfold parse
  rw [if_pos hhead, bracketed?, if_pos hlast, hinner, hread]

/-- An address is read back from its text. -/
theorem IsAddress.parse_chars {host : Host} (h : host.IsAddress) : parse host.chars = .ok host := by
  cases host with
  | domain name => cases h
  | ipv4 address => exact parse_chars_ipv4 h
  | ipv6 pieces => exact parse_chars_ipv6 h

/-! ## The characters of hosts -/

/-- A character that ends no part of a URL and is not dropped from one. -/
def IsHostChar (c : Char) : Prop :=
  0x20 < c.toNat ∧ c.toNat < 0x7F ∧ c ∉ ['#', '/', '?', '@', '[', '\\', ']']

instance (c : Char) : Decidable (IsHostChar c) :=
  inferInstanceAs (Decidable (_ ∧ _ ∧ _))

/-- A text that can stand for a host in a URL; it has colons in brackets only. -/
def IsHostText (cs : List Char) : Prop :=
  (∀ c ∈ cs, IsHostChar c ∧ c ≠ ':') ∨
    ∃ inner, cs = '[' :: inner ++ [']'] ∧ ∀ c ∈ inner, IsHostChar c

theorem isHostChar_of_isNameChar {c : Char} (h : IsNameChar c) : IsHostChar c ∧ c ≠ ':' := by
  have hall : ∀ n < 128, IsNameChar (Char.ofNat n) →
      IsHostChar (Char.ofNat n) ∧ Char.ofNat n ≠ ':' := by
    decide +kernel
  exact @of_ascii (fun c => IsNameChar c → IsHostChar c ∧ c ≠ ':') hall c h.1 h

theorem isHostText_ipv6 (pieces : List Nat) : IsHostText (chars (.ipv6 pieces)) := by
  have hdigit : ∀ d < 16, IsHostChar (Nat.digitChar d) := by decide
  refine Or.inr ⟨ipv6Chars pieces, rfl, fun c hc => ?_⟩
  rcases mem_ipv6Chars hc with rfl | ⟨d, hd, rfl⟩
  · decide
  · exact hdigit d hd

theorem isHostText_of_toAscii? {cs name : List Char} (h : toAscii? cs = some name) :
    IsHostText name :=
  Or.inl fun _ hc => isHostChar_of_isNameChar (mem_toAscii? h hc)

/-- The characters of an address have one spelling, and no `w` is among them. -/
theorem IsAddress.of_mem_chars {host : Host} (h : host.IsAddress) {c : Char}
    (hc : c ∈ host.chars) : c.toLower = c ∧ c ≠ 'w' := by
  have hdigit : ∀ d < 16, (Nat.digitChar d).toLower = Nat.digitChar d ∧ Nat.digitChar d ≠ 'w' := by
    decide
  cases host with
  | domain name => cases h
  | ipv4 address =>
      rcases mem_dotted hc with rfl | ⟨d, hd, rfl⟩
      · decide
      · exact hdigit d hd
  | ipv6 pieces =>
      simp only [chars, List.cons_append, List.mem_cons, List.mem_append, List.not_mem_nil,
        or_false] at hc
      rcases hc with rfl | hc | rfl
      · decide
      · rcases mem_ipv6Chars hc with rfl | ⟨d, hd, rfl⟩
        · decide
        · exact hdigit d hd
      · decide

theorem IsAddress.chars_ne_nil {host : Host} (h : host.IsAddress) : host.chars ≠ [] := by
  cases host with
  | domain name => cases h
  | ipv4 address => exact dotted_ne_nil (List.cons_ne_nil _ _)
  | ipv6 pieces => exact List.cons_ne_nil _ _

/-- The text of a host that is read in the URL of a well-known scheme. -/
theorem Parsed.isHostText {cs : List Char} {host : Host} (h : Parsed cs host) :
    IsHostText host.chars := by
  cases h with
  | domain hdecoded hname hne hnumber => exact isHostText_of_toAscii? hname
  | address haddress =>
      cases host with
      | domain name => cases haddress
      | ipv4 address => exact isHostText_of_toAscii? (toAscii?_dotted (List.cons_ne_nil _ _))
      | ipv6 pieces => exact isHostText_ipv6 pieces

theorem Parsed.chars_ne_nil {cs : List Char} {host : Host} (h : Parsed cs host) :
    host.chars ≠ [] := by
  cases h with
  | domain hdecoded hname hne hnumber => exact hne
  | address haddress => exact haddress.chars_ne_nil

theorem chars_ne_nil_of_parseOpaque {cs : List Char} {host : Host} (hne : cs ≠ [])
    (h : parseOpaque cs = .ok host) : host.chars ≠ [] := by
  unfold parseOpaque at h
  split at h
  · obtain ⟨pieces, rfl, hpieces⟩ := of_bracketed? h
    exact IsAddress.chars_ne_nil (@id (IsAddress (.ipv6 pieces)) hpieces)
  · split at h
    · cases h
    · cases h
      exact percentEncode_ne_nil hne

/-- The text of a host that is read in any other URL. -/
theorem isHostText_of_parseOpaque {cs : List Char} {host : Host} (h : parseOpaque cs = .ok host) :
    IsHostText host.chars := by
  unfold parseOpaque at h
  split at h
  · obtain ⟨pieces, rfl, -⟩ := of_bracketed? h
    exact isHostText_ipv6 pieces
  · split at h
    · cases h
    · rename_i hforbidden
      cases h
      have hallowed : ∀ c ∈ cs, isForbidden c = false := by
        simpa using hforbidden
      have hascii : ∀ n < 128, isForbidden (Char.ofNat n) = false →
          isControl (Char.ofNat n) = false → IsHostChar (Char.ofNat n) ∧ Char.ofNat n ≠ ':' := by
        decide +kernel
      have hcoding : ∀ n < 16, IsHostChar (upperHexDigit n) ∧ upperHexDigit n ≠ ':' := by
        decide
      refine Or.inl fun c hc => ?_
      rcases mem_percentEncode hc with (rfl | ⟨n, hn, rfl⟩) | ⟨hmem, hlt, hcontrol⟩
      · decide
      · exact hcoding n hn
      · exact @of_ascii (fun c => isForbidden c = false → isControl c = false →
          IsHostChar c ∧ c ≠ ':') hascii c hlt (hallowed c hmem) hcontrol

theorem isHostChar_toLower {c : Char} (h : IsHostChar c) :
    IsHostChar c.toLower ∧ (c ≠ ':' → c.toLower ≠ ':') := by
  have hall : ∀ n < 128, IsHostChar (Char.ofNat n) → IsHostChar (Char.ofNat n).toLower ∧
      (Char.ofNat n ≠ ':' → (Char.ofNat n).toLower ≠ ':') := by
    decide +kernel
  exact @of_ascii (fun c => IsHostChar c → IsHostChar c.toLower ∧ (c ≠ ':' → c.toLower ≠ ':'))
    hall c (by have hlt := h.2.1; omega) h

/-- A text for a host stays one in small letters. -/
theorem IsHostText.map_toLower {cs : List Char} (h : IsHostText cs) :
    IsHostText (cs.map Char.toLower) := by
  rcases h with h | ⟨inner, rfl, h⟩
  · refine Or.inl fun c hc => ?_
    obtain ⟨d, hd, rfl⟩ := List.mem_map.mp hc
    obtain ⟨hchar, hcolon⟩ := h d hd
    exact ⟨(isHostChar_toLower hchar).1, (isHostChar_toLower hchar).2 hcolon⟩
  · refine Or.inr ⟨inner.map Char.toLower, by simp, fun c hc => ?_⟩
    obtain ⟨d, hd, rfl⟩ := List.mem_map.mp hc
    exact (isHostChar_toLower (h d hd)).1

end Host

/-! ## The URL of the text of a host -/

section HostText

open Host

variable {cs : List Char}

theorem isHostChar_of_mem (h : IsHostText cs) {c : Char} (hc : c ∈ cs) :
    IsHostChar c ∨ c = '[' ∨ c = ']' := by
  rcases h with h | ⟨inner, rfl, h⟩
  · exact Or.inl (h c hc).1
  · simp only [List.cons_append, List.mem_cons, List.mem_append, List.not_mem_nil, or_false] at hc
    rcases hc with rfl | hc | rfl
    · exact Or.inr (Or.inl rfl)
    · exact Or.inl (h c hc)
    · exact Or.inr (Or.inr rfl)

theorem splitHost_inside {inner : List Char} (h : ∀ c ∈ inner, IsHostChar c) :
    splitHost true (inner ++ [']']) = (inner ++ [']'], none) := by
  induction inner with
  | nil => rfl
  | cons c rest ih =>
      have hrest := ih fun d hd => h d (List.mem_cons_of_mem c hd)
      have hopen : c ≠ '[' := by
        rintro rfl
        exact absurd (h '[' List.mem_cons_self) (by decide)
      have hclose : c ≠ ']' := by
        rintro rfl
        exact absurd (h ']' List.mem_cons_self) (by decide)
      rw [List.cons_append, splitHost, if_neg (by simp)]
      simp only [if_neg hopen, if_neg hclose, hrest]

/-- The text of a host is not split. -/
theorem splitHost_of_isHostText (h : IsHostText cs) : splitHost false cs = (cs, none) := by
  rcases h with h | ⟨inner, rfl, h⟩
  · induction cs with
    | nil => rfl
    | cons c rest ih =>
        have hrest := ih fun d hd => h d (List.mem_cons_of_mem c hd)
        obtain ⟨hchar, hcolon⟩ := h c List.mem_cons_self
        have hopen : c ≠ '[' := by
          rintro rfl
          exact absurd hchar (by decide)
        rw [splitHost, if_neg (by simp [hcolon])]
        simp only [if_neg hopen, hrest, ite_self]
  · rw [List.cons_append, splitHost, if_neg (by simp)]
    simp only [if_true, splitHost_inside h]

/-- No character of the text of a host is taken for another part of a URL. -/
theorem not_endsAuthority (h : IsHostText cs) {c : Char} (hc : c ∈ cs) :
    endsAuthority true c = false ∧ (0x20 < c.toNat ∧ c.toNat < 0x7F) ∧ c ≠ '@' := by
  have hall : ∀ n < 128, IsHostChar (Char.ofNat n) →
      endsAuthority true (Char.ofNat n) = false ∧
        (0x20 < (Char.ofNat n).toNat ∧ (Char.ofNat n).toNat < 0x7F) ∧ Char.ofNat n ≠ '@' := by
    decide +kernel
  rcases isHostChar_of_mem h hc with hchar | rfl | rfl
  · have hlt := hchar.2.1
    exact @of_ascii (fun c => IsHostChar c →
      endsAuthority true c = false ∧ (0x20 < c.toNat ∧ c.toNat < 0x7F) ∧ c ≠ '@') hall c
      (by omega) hchar
  · decide
  · decide

/-- Nothing is dropped from a text without blanks. -/
theorem cleaned_eq_self {text : List Char} (h : ∀ c ∈ text, 0x20 < c.toNat) :
    cleaned text = text := by
  have hends : ∀ c ∈ text, isDroppedAtEnds c = false := by
    intro c hc
    have hnat := h c hc
    exact decide_eq_false (by omega)
  have hdropped : ∀ c ∈ text, (!isDropped c) = true := by
    intro c hc
    have hnat := h c hc
    have hdrop : ∀ d ∈ ['\t', '\n', '\r'], c ≠ d := by
      rintro d hd rfl
      revert hnat
      simp only [List.mem_cons, List.not_mem_nil, or_false] at hd
      rcases hd with rfl | rfl | rfl <;> decide
    simpa [isDropped, and_assoc] using hdrop
  have hstrip : cleaned text =
      (Text.stripWhere isDroppedAtEnds text).filter fun c => !isDropped c := rfl
  rw [hstrip, Text.stripWhere_eq_self hends, List.filter_eq_self.mpr hdropped]

/-- The URL of a host. -/
def ofHost (host : Host) : Url where
  scheme := "https".toList
  username := []
  password := []
  host := some host
  port := none
  path := .segments [[]]
  query := none
  fragment := none

/-- A URL that is made of a scheme and the text of a host names what the text is read as. -/
theorem parse_https (h : IsHostText cs) (hne : cs ≠ []) :
    Url.parse (String.ofList ("https://".toList ++ cs)) = (Host.parse cs).map ofHost := by
  have hscheme : ("https://".toList.all fun c => 0x20 < c.toNat) = true := by decide
  have hclean : cleaned ("https://".toList ++ cs) = "https://".toList ++ cs := by
    apply cleaned_eq_self
    intro c hc
    rcases List.mem_append.mp hc with hc | hc
    · exact of_decide_eq_true (List.all_eq_true.mp hscheme c hc)
    · exact (not_endsAuthority h hc).2.1.1
  have hread : scheme? ("https://".toList ++ cs) = some ("https".toList, '/' :: '/' :: cs) := rfl
  have htype : schemeType "https".toList = .special := by decide
  have hslashes : ('/' :: '/' :: cs).dropWhile (isSlash true) = cs := by
    cases cs with
    | nil => rfl
    | cons c rest =>
        have hends := (not_endsAuthority h List.mem_cons_self).1
        simp only [endsAuthority, Bool.or_eq_false_iff] at hends
        have hslash : isSlash true c = false := by simp [isSlash, hends]
        have hstop : (c :: rest).dropWhile (isSlash true) = c :: rest := by
          rw [List.dropWhile_cons, hslash]
          rfl
        exact hstop
  have htake : cs.takeWhile (fun c => !endsAuthority true c) = cs := by
    rw [List.takeWhile_eq_self_iff]
    intro c hc
    rw [(not_endsAuthority h hc).1]
    rfl
  have hdrop : cs.dropWhile (fun c => !endsAuthority true c) = [] := by
    rw [List.dropWhile_eq_nil_iff]
    intro c hc
    rw [(not_endsAuthority h hc).1]
    rfl
  have huser : splitUserinfo cs = ⟨false, false, [], [], cs⟩ := by
    have hat : '@' ∉ cs := fun hmem => (not_endsAuthority h hmem).2.2 rfl
    rw [splitUserinfo, if_neg (by simpa using hat)]
  rw [Url.parse, String.toList_ofList, hclean, hread]
  simp only [htype, hslashes]
  have hspecial : SchemeType.isSpecial .special = true := rfl
  have hempty : cs.isEmpty = false := List.isEmpty_eq_false_iff.mpr hne
  have hhost : readHost .special "https".toList cs = (Host.parse cs).map fun host =>
      (some host, none) := by
    rw [readHost, splitHost_of_isHostText h]
    simp only [hempty, hspecial]
    cases Host.parse cs with
    | error e => rfl
    | ok host => rfl
  rw [readAuthority]
  simp only [hspecial, htake, hdrop, huser, hhost]
  cases Host.parse cs with
  | error e => rfl
  | ok host => rfl

end HostText

/-! ## The host of a URL -/

/-- How a text is read as a host depends on the scheme. -/
def IsReadAs (type : SchemeType) (cs : List Char) (host : Host) : Prop :=
  if type.isSpecial then Host.parse cs = .ok host else Host.parseOpaque cs = .ok host

/-- A host is read from characters of a text. -/
def NamesHost (type : SchemeType) (text : List Char) (host : Host) : Prop :=
  ∃ cs, (∀ c ∈ cs, c ∈ text) ∧ cs ≠ [] ∧ IsReadAs type cs host

section Reading

variable {cs scheme : List Char} {type : SchemeType} {url : Url} {host : Host}

theorem NamesHost.of_subset {text : List Char} (h : NamesHost type cs host)
    (hsub : ∀ c ∈ cs, c ∈ text) : NamesHost type text host := by
  obtain ⟨hostText, hmem, hread⟩ := h
  exact ⟨hostText, fun c hc => hsub c (hmem c hc), hread⟩

theorem mem_of_mem_cleaned {c : Char} (h : c ∈ cleaned cs) : c ∈ cs := by
  have hkept := (List.mem_filter.mp h).1
  have hfront := (List.dropWhile_sublist _).subset (List.mem_reverse.mp hkept)
  exact (List.dropWhile_sublist _).subset (List.mem_reverse.mp hfront)

theorem mem_of_scheme? {rest : List Char} (h : scheme? cs = some (scheme, rest)) {c : Char}
    (hc : c ∈ rest) : c ∈ cs := by
  unfold scheme? at h
  split at h
  · cases h
  · split at h
    · split at h
      · rename_i hdrop
        cases h
        apply (List.dropWhile_sublist isSchemeChar).subset
        rw [hdrop]
        exact List.mem_cons_of_mem ':' hc
      · cases h
    · cases h

theorem mem_of_mem_splitUserinfo {c : Char} (h : c ∈ (splitUserinfo cs).rest) : c ∈ cs := by
  unfold splitUserinfo at h
  split at h
  · exact List.mem_reverse.mp ((List.takeWhile_sublist _).subset (List.mem_reverse.mp h))
  · exact h

theorem mem_of_mem_splitHost {inside : Bool} {c : Char} (h : c ∈ (splitHost inside cs).1) :
    c ∈ cs := by
  induction cs generalizing inside with
  | nil => cases h
  | cons d rest ih =>
      rw [splitHost] at h
      split at h
      · cases h
      · rcases List.mem_cons.mp h with rfl | h
        · exact List.mem_cons_self
        · exact List.mem_cons_of_mem d (ih h)

theorem namesHost_of_readHost {port : Option Nat}
    (h : readHost type scheme cs = .ok (some host, port)) : NamesHost type cs host := by
  refine ⟨(splitHost false cs).1, fun c hc => mem_of_mem_splitHost hc, ?_⟩
  simp only [readHost, bind, Except.bind, pure, Except.pure, throw, throwThe,
    MonadExceptOf.throw] at h
  generalize splitHost false cs = parts at h ⊢
  unfold IsReadAs
  split at h
  · cases h
  · split at h
    · split at h
      · cases h
      · rename_i hspecial _ found hfound
        rw [if_pos hspecial, hfound]
        grind
    · split at h
      · cases h
      · rename_i hspecial _ found hfound
        rw [if_neg hspecial, hfound]
        grind

theorem namesHost_of_readAuthority
    (h : readAuthority type scheme cs = .ok url) (hhost : url.host = some host) :
    url.scheme = scheme ∧ NamesHost type cs host := by
  simp only [readAuthority, bind, Except.bind, pure, Except.pure, throw, throwThe,
    MonadExceptOf.throw] at h
  split at h
  · cases h
  · split at h
    · cases h
    · rename_i found hfound
      obtain ⟨foundHost, port⟩ := found
      cases h
      cases hhost
      refine ⟨rfl, (namesHost_of_readHost hfound).of_subset fun c hc => ?_⟩
      exact (List.takeWhile_sublist _).subset (mem_of_mem_splitUserinfo hc)

theorem namesHost_of_readFile (h : readFile scheme cs = .ok url) (hhost : url.host = some host) :
    url.scheme = scheme ∧ NamesHost .file cs host := by
  simp only [readFile, bind, Except.bind, pure, Except.pure, ite_self] at h
  split at h
  · rename_i c d rest
    split at h
    · split at h
      · cases h
        cases hhost
      · rename_i hnamed
        have hne : rest.takeWhile (fun e => !endsAuthority true e) ≠ [] := by
          intro hnil
          rw [hnil] at hnamed
          exact hnamed rfl
        split at h
        · cases h
        · rename_i found hfound
          split at h
          · cases h
            cases hhost
          · cases h
            have hsame : found = host := by
              simp only at hhost
              split at hhost
              · cases hhost
              · exact Option.some.inj hhost
            rw [hsame] at hfound
            refine ⟨rfl, _, fun e he => ?_, hne, hfound⟩
            exact List.mem_cons_of_mem c
              (List.mem_cons_of_mem d ((List.takeWhile_sublist _).subset he))
    · cases h
      cases hhost
  · cases h
    cases hhost

/-- The host of a URL is read from characters of the URL. -/
theorem namesHost_of_parse {text : String} (h : Url.parse text = .ok url)
    (hhost : url.host = some host) : NamesHost (schemeType url.scheme) text.toList host := by
  unfold Url.parse at h
  split at h
  · cases h
  · rename_i scheme rest hscheme
    have hrest : ∀ c ∈ rest, c ∈ text.toList := fun c hc =>
      mem_of_mem_cleaned (mem_of_scheme? hscheme hc)
    split at h
    · rename_i htype
      obtain ⟨rfl, hnames⟩ := namesHost_of_readFile h hhost
      rw [htype]
      exact hnames.of_subset hrest
    · rename_i htype
      obtain ⟨rfl, hnames⟩ := namesHost_of_readAuthority h hhost
      rw [htype]
      exact hnames.of_subset fun c hc => hrest c ((List.dropWhile_sublist _).subset hc)
    · rename_i htype
      split at h
      · rename_i authority
        obtain ⟨rfl, hnames⟩ := namesHost_of_readAuthority h hhost
        rw [htype]
        refine hnames.of_subset fun c hc => hrest c ?_
        exact List.mem_cons_of_mem '/' (List.mem_cons_of_mem '/' hc)
      · cases h
        cases hhost

/-- The text of a host can stand in a URL. -/
theorem IsReadAs.isHostText (h : IsReadAs type cs host) : Host.IsHostText host.chars := by
  unfold IsReadAs at h
  split at h
  · exact (Host.parsed_of_parse h).isHostText
  · exact Host.isHostText_of_parseOpaque h

theorem IsReadAs.chars_ne_nil (h : IsReadAs type cs host) (hne : cs ≠ []) : host.chars ≠ [] := by
  unfold IsReadAs at h
  split at h
  · exact (Host.parsed_of_parse h).chars_ne_nil
  · exact Host.chars_ne_nil_of_parseOpaque hne h

end Reading

end Url
end AnalyticsQuery
