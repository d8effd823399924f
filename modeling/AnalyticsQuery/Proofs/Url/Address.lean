import AnalyticsQuery.Proofs.Decimal.Literal
import AnalyticsQuery.Proofs.Text.Split
import AnalyticsQuery.Proofs.Url.DomainName
import AnalyticsQuery.Url.Host
import Mathlib.Algebra.Group.Nat.Defs
import Mathlib.Data.List.Induction

/-!
# Addresses read back

The text of an address is read as the address.  An IPv4 address is written as
four numbers without needless zeros, so that none of them is octal.  In the text
of an IPv6 address the longest run of zeros is left out; what is left out is
known from the number of the pieces that are there.

* `ipv4?_chars`: an IPv4 address is read back.
* `ipv6?_ipv6Chars`: an IPv6 address is read back.
* `isIpv6_ipv6?`: what is read as an IPv6 address has eight pieces of sixteen
  bits.
-/

namespace AnalyticsQuery
namespace Url
namespace Host

/-! ## Digits -/

/-- A hexadecimal digit as it is written, in small letters. -/
def IsSmallDigit (c : Char) : Prop :=
  ∃ d < 16, c = Nat.digitChar d

theorem isSmallDigit_of_mem_toDigits
    {base n : Nat} (hone : 1 < base) (hbase : base ≤ 16) {c : Char}
    (h : c ∈ Nat.toDigits base n) : IsSmallDigit c := by
  induction n using Nat.strongRecOn with
  | ind n ih =>
      rw [Nat.toDigits_eq_if hone] at h
      split at h
      · exact ⟨n, by omega, List.mem_singleton.mp h⟩
      · rcases List.mem_append.mp h with h | h
        · exact ih (n / base) (Nat.div_lt_self (by omega) hone) h
        · have hlt := Nat.mod_lt n (Nat.zero_lt_of_lt hone)
          exact ⟨n % base, by omega, List.mem_singleton.mp h⟩

/-- A number other than zero is not written with a zero in front. -/
theorem head?_toDigits_ne
    {base n : Nat} (hbase : 1 < base) (hdigit : base ≤ 16) (h : n ≠ 0) :
    (Nat.toDigits base n).head? ≠ some '0' := by
  have hzero : ∀ d < 16, Nat.digitChar d = '0' → d = 0 := by decide
  induction n using Nat.strongRecOn with
  | ind n ih =>
      rw [Nat.toDigits_eq_if hbase]
      split
      · rename_i hsmall
        intro hhead
        exact h (hzero n (by omega) (Option.some.inj hhead))
      · rename_i hlarge
        have hrest : n / base ≠ 0 := by
          have hpos := Nat.div_pos (Nat.le_of_not_lt hlarge) (by omega)
          omega
        have hfront := ih (n / base) (Nat.div_lt_self (by omega) hbase) hrest
        cases hdigits : Nat.toDigits base (n / base) with
        | nil => exact absurd hdigits Nat.toDigits_ne_nil
        | cons c cs =>
            rw [hdigits] at hfront
            exact hfront

theorem ofHexDigits_concat (cs : List Char) (c : Char) :
    ofHexDigits (cs ++ [c]) =
      16 * ofHexDigits cs + (if c.isDigit then c.toNat - 48 else c.toLower.toNat - 87) := by
  rw [ofHexDigits, List.foldl_append]
  rfl

/-- A number is read back from its hexadecimal digits. -/
theorem ofHexDigits_toDigits (n : Nat) : ofHexDigits (Nat.toDigits 16 n) = n := by
  have hvalue : ∀ d < 16, (if (Nat.digitChar d).isDigit then (Nat.digitChar d).toNat - 48
      else (Nat.digitChar d).toLower.toNat - 87) = d := by decide
  induction n using Nat.strongRecOn with
  | ind n ih =>
      rw [Nat.toDigits_eq_if (by decide)]
      split
      · rename_i hsmall
        have hone := ofHexDigits_concat [] (Nat.digitChar n)
        rw [hvalue n hsmall] at hone
        simpa [ofHexDigits] using hone
      · rename_i hlarge
        rw [ofHexDigits_concat, ih (n / 16) (by omega), hvalue (n % 16) (by omega)]
        omega

theorem isHexDigit_of_mem_toDigits {n : Nat} {c : Char} (h : c ∈ Nat.toDigits 16 n) :
    isHexDigit c = true := by
  have hall : ∀ d < 16, isHexDigit (Nat.digitChar d) = true := by decide
  obtain ⟨d, hd, rfl⟩ := isSmallDigit_of_mem_toDigits (by decide) (by decide) h
  exact hall d hd

theorem isHexDigit_lt {c : Char} (h : isHexDigit c = true) : c.toNat < 128 := by
  by_contra hge
  simp [isHexDigit, Char.isDigit, UInt32.le_iff_toNat_le] at h
  omega

theorem hexValue_lt {c : Char} (h : isHexDigit c = true) :
    (if c.isDigit then c.toNat - 48 else c.toLower.toNat - 87) < 16 := by
  have hall : ∀ n < 128, isHexDigit (Char.ofNat n) = true →
      (if (Char.ofNat n).isDigit then (Char.ofNat n).toNat - 48
        else (Char.ofNat n).toLower.toNat - 87) < 16 := by
    decide +kernel
  have hchar := hall c.toNat (isHexDigit_lt h)
  rw [Char.ofNat_toNat] at hchar
  exact hchar h

theorem ofHexDigits_lt {cs : List Char} (h : ∀ c ∈ cs, isHexDigit c = true) :
    ofHexDigits cs < 16 ^ cs.length := by
  induction cs using List.reverseRecOn with
  | nil => decide
  | append_singleton cs c ih =>
      have hcs := ih fun d hd => h d (List.mem_append_left [c] hd)
      have hvalue := hexValue_lt (h c (List.mem_append_right cs List.mem_cons_self))
      rw [ofHexDigits_concat, List.length_append, List.length_singleton, Nat.pow_succ]
      omega

/-- No more than four digits are read for a piece. -/
theorem ofHexDigits_takeWhile_lt (cs : List Char) :
    ofHexDigits ((cs.take 4).takeWhile isHexDigit) < 65536 := by
  have hlength : ((cs.take 4).takeWhile isHexDigit).length ≤ 4 :=
    (List.takeWhile_sublist isHexDigit).length_le.trans (List.length_take_le 4 cs)
  have hvalue := @ofHexDigits_lt ((cs.take 4).takeWhile isHexDigit) fun c hc =>
    List.mem_takeWhile_imp hc
  exact hvalue.trans_le (Nat.pow_le_pow_right (by decide) hlength)

/-! ## Reading pieces -/

section Pieces

variable {n count : Nat} {seen : Bool}

theorem toDigits_sixteen_eq_cons (n : Nat) :
    ∃ c rest, Nat.toDigits 16 n = c :: rest ∧ isHexDigit c = true ∧ c ≠ ':' := by
  cases hdigits : Nat.toDigits 16 n with
  | nil => exact absurd hdigits Nat.toDigits_ne_nil
  | cons c rest =>
      have hc : isHexDigit c = true :=
        isHexDigit_of_mem_toDigits (hdigits ▸ List.mem_cons_self)
      refine ⟨c, rest, rfl, hc, ?_⟩
      rintro rfl
      revert hc
      decide

/-- All digits of a piece are read, and nothing of what follows them. -/
theorem takeWhile_toDigits (hn : n < 65536) {after : List Char}
    (hafter : after = [] ∨ ∃ rest, after = ':' :: rest) :
    ((Nat.toDigits 16 n ++ after).take 4).takeWhile isHexDigit = Nat.toDigits 16 n := by
  have hlength : (Nat.toDigits 16 n).length ≤ 4 :=
    (Nat.length_toDigits_le_iff (by decide) (by decide)).mpr hn
  have hdigits : ∀ c ∈ Nat.toDigits 16 n, isHexDigit c = true :=
    fun c hc => isHexDigit_of_mem_toDigits hc
  rw [List.take_append, List.take_of_length_le hlength, List.takeWhile_append_of_pos hdigits]
  rcases hafter with rfl | ⟨rest, rfl⟩
  · simp
  · cases 4 - (Nat.toDigits 16 n).length with
    | zero => simp
    | succ k => simp [isHexDigit, Char.isDigit]

/-- What follows the digits of a piece decides how it goes on. -/
theorem ipv6Parts?_toDigits (hn : n < 65536) (hcount : count ≠ 8) {after : List Char}
    (hafter : after = [] ∨ ∃ rest, after = ':' :: rest) :
    ipv6Parts? count seen (Nat.toDigits 16 n ++ after) =
      match after with
      | ':' :: next =>
          if next.isEmpty then none
          else (ipv6Parts? (count + 1) seen next).map (.piece n :: ·)
      | _ => some [.piece n] := by
  have htake := takeWhile_toDigits hn hafter
  have hvalue := ofHexDigits_toDigits n
  have hdrop : (Nat.toDigits 16 n ++ after).drop (Nat.toDigits 16 n).length = after :=
    List.drop_left
  obtain ⟨c, rest, hdigits, -, hc⟩ := toDigits_sixteen_eq_cons n
  rw [hdigits, List.cons_append] at htake hdrop
  rw [hdigits] at hvalue
  rw [hdigits, List.cons_append, ipv6Parts?, if_neg hcount, if_neg hc]
  simp only [htake, hvalue, List.isEmpty_cons, Bool.false_eq_true, if_false]
  rcases hafter with rfl | ⟨next, rfl⟩
  · split <;> rename_i heq
    · rfl
    · rw [htake, hdrop] at heq
      cases heq
    · rw [htake, hdrop] at heq
      cases heq
    · rename_i hnone _
      rw [htake, hdrop] at hnone
      exact absurd rfl hnone
  · split <;> rename_i heq
    · rw [htake, hdrop] at heq
      cases heq
    · rw [htake, hdrop] at heq
      cases heq
    · rw [htake, hdrop] at heq
      cases heq
      rfl
    · rw [htake, hdrop] at heq
      exact absurd rfl (heq next)

theorem ipv6Parts?_last (hn : n < 65536) (hcount : count ≠ 8) :
    ipv6Parts? count seen (Nat.toDigits 16 n) = some [.piece n] := by
  have hread := @ipv6Parts?_toDigits n count seen hn hcount [] (Or.inl rfl)
  rwa [List.append_nil] at hread

theorem ipv6Parts?_piece (hn : n < 65536) (hcount : count ≠ 8) {next : List Char}
    (hnext : next ≠ []) :
    ipv6Parts? count seen (Nat.toDigits 16 n ++ ':' :: next) =
      (ipv6Parts? (count + 1) seen next).map (.piece n :: ·) := by
  rw [ipv6Parts?_toDigits hn hcount (Or.inr ⟨next, rfl⟩)]
  exact if_neg (by simpa using hnext)

theorem ipv6Parts?_gap (hcount : count ≠ 8) (rest : List Char) :
    ipv6Parts? count false (':' :: rest) =
      (ipv6Parts? (count + 1) true rest).map (.gap :: ·) := by
  rw [ipv6Parts?, if_neg hcount, if_pos rfl]
  rfl

theorem hexPieces_cons_cons (n m : Nat) (rest : List Nat) :
    hexPieces (n :: m :: rest) = Nat.toDigits 16 n ++ ':' :: hexPieces (m :: rest) := by
  rw [hexPieces, List.map_cons, List.map_cons, List.intercalate_cons_cons, List.append_assoc]
  rfl

theorem hexPieces_ne_nil (n : Nat) (rest : List Nat) : hexPieces (n :: rest) ≠ [] := by
  cases rest with
  | nil => simp [hexPieces]
  | cons m rest =>
      rw [hexPieces_cons_cons]
      simp

/-- Pieces that are written one behind the other are read as they are. -/
theorem ipv6Parts?_hexPieces {l : List Nat} (hl : l ≠ []) (hsmall : ∀ n ∈ l, n < 65536)
    (hcount : count + l.length ≤ 8) :
    ipv6Parts? count seen (hexPieces l) = some (l.map Ipv6Part.piece) := by
  induction l generalizing count with
  | nil => exact absurd rfl hl
  | cons n rest ih =>
      have hn := hsmall n List.mem_cons_self
      rw [List.length_cons] at hcount
      cases rest with
      | nil =>
          have htext : hexPieces [n] = Nat.toDigits 16 n := List.intercalate_singleton
          rw [htext]
          exact ipv6Parts?_last hn (by omega)
      | cons m rest =>
          rw [hexPieces_cons_cons, ipv6Parts?_piece hn (by omega) (hexPieces_ne_nil m rest),
            ih (List.cons_ne_nil m rest) (fun k hk => hsmall k (List.mem_cons_of_mem n hk))
              (by omega)]
          rfl

/-- Pieces in front of the zeros that are left out. -/
theorem ipv6Parts?_hexPieces_gap {l : List Nat} (hl : l ≠ []) (hsmall : ∀ n ∈ l, n < 65536)
    (hcount : count + l.length < 8) (rest : List Char) :
    ipv6Parts? count false (hexPieces l ++ ':' :: ':' :: rest) =
      (ipv6Parts? (count + l.length + 1) true rest).map (l.map Ipv6Part.piece ++ .gap :: ·) := by
  induction l generalizing count with
  | nil => exact absurd rfl hl
  | cons n others ih =>
      have hn := hsmall n List.mem_cons_self
      rw [List.length_cons] at hcount
      cases others with
      | nil =>
          have htext : hexPieces [n] = Nat.toDigits 16 n := List.intercalate_singleton
          rw [htext, ipv6Parts?_piece hn (by omega) (List.cons_ne_nil ':' rest),
            ipv6Parts?_gap (by omega), Option.map_map]
          rfl
      | cons m others =>
          rw [hexPieces_cons_cons, List.append_assoc, List.cons_append,
            ipv6Parts?_piece hn (by omega) (by simp),
            ih (List.cons_ne_nil m others) (fun k hk => hsmall k (List.mem_cons_of_mem n hk))
              (by omega), Option.map_map]
          have hplaces : count + 1 + (m :: others).length = count + (n :: m :: others).length := by
            simp only [List.length_cons]
            omega
          rw [hplaces]
          rfl

end Pieces

/-! ## Zeros that are left out -/

theorem takeWhile_pieces (l : List Nat) (after : List Ipv6Part) :
    (l.map Ipv6Part.piece ++ after).takeWhile (· ≠ .gap) =
      l.map Ipv6Part.piece ++ after.takeWhile (· ≠ .gap) := by
  apply List.takeWhile_append_of_pos
  intro part hpart
  obtain ⟨n, -, rfl⟩ := List.mem_map.mp hpart
  exact decide_eq_true Ipv6Part.noConfusion

theorem filterMap_pieces (l : List Nat) :
    (l.map Ipv6Part.piece).filterMap Ipv6Part.value? = l := by
  rw [List.filterMap_map]
  exact List.filterMap_some

theorem ipv6OfParts?_pieces {l : List Nat} (h : l.length = 8) :
    ipv6OfParts? (l.map Ipv6Part.piece) = some l := by
  have hbefore := takeWhile_pieces l []
  simp only [List.append_nil, List.takeWhile_nil] at hbefore
  have hlength : (l.map Ipv6Part.piece).length = 8 := by rw [List.length_map, h]
  have hdrop : (l.map Ipv6Part.piece).drop 8 = [] := List.drop_of_length_le (Nat.le_of_eq hlength)
  simp only [ipv6OfParts?, hbefore, hlength, hdrop, List.isEmpty_nil, if_true, filterMap_pieces]

theorem ipv6OfParts?_gap (before after : List Nat) :
    ipv6OfParts? (before.map Ipv6Part.piece ++ .gap :: after.map Ipv6Part.piece) =
      some (before ++ List.replicate (8 - (before.length + after.length)) 0 ++ after) := by
  have hbefore := takeWhile_pieces before (.gap :: after.map Ipv6Part.piece)
  have hgap : ((Ipv6Part.gap :: after.map Ipv6Part.piece).takeWhile (· ≠ .gap)) = [] := rfl
  rw [hgap, List.append_nil] at hbefore
  have hafter : (Ipv6Part.gap :: after.map Ipv6Part.piece).filterMap Ipv6Part.value? = after :=
    filterMap_pieces after
  have hlength : (before.map Ipv6Part.piece ++ .gap :: after.map Ipv6Part.piece).length - 1 =
      before.length + after.length := by
    simp only [List.length_append, List.length_map, List.length_cons]
    omega
  simp only [ipv6OfParts?, hbefore, List.drop_left, List.isEmpty_cons, Bool.false_eq_true, if_false,
    hlength, filterMap_pieces, hafter]

/-- The pieces have zeros at a place. -/
def HasZeros (pieces : List Nat) (run : Nat × Nat) : Prop :=
  ∃ before after, pieces = before ++ List.replicate run.2 0 ++ after ∧ before.length = run.1

theorem hasZeros_zeroRun (before rest : List Nat) :
    HasZeros (before ++ rest) (before.length, zeroRun rest) := by
  have hzeros : rest.takeWhile (· = 0) = List.replicate (zeroRun rest) 0 := by
    rw [List.eq_replicate_iff]
    refine ⟨rfl, fun n hn => ?_⟩
    simpa using List.mem_takeWhile_imp hn
  refine ⟨before, rest.dropWhile (· = 0), ?_, rfl⟩
  rw [← hzeros, List.append_assoc, List.takeWhile_append_dropWhile]

/-- The longest run is a run, whatever the place that the search has come to. -/
theorem hasZeros_longestRun (before rest : List Nat) {best : Nat × Nat}
    (h : HasZeros (before ++ rest) best) :
    HasZeros (before ++ rest) (longestRun before.length best rest) := by
  induction rest generalizing before best with
  | nil => exact h
  | cons n rest ih =>
      have hnext : HasZeros (before ++ n :: rest)
          (if best.2 < zeroRun (n :: rest) then (before.length, zeroRun (n :: rest))
            else best) := by
        split
        · exact hasZeros_zeroRun before (n :: rest)
        · exact h
      have hstep := @ih (before ++ [n]) _ (by simpa using hnext)
      rw [List.length_append, List.length_singleton] at hstep
      simpa [longestRun] using hstep

theorem ipv6Chars_cases (pieces : List Nat) :
    ipv6Chars pieces = hexPieces pieces ∨
      ∃ before zeros after, pieces = before ++ List.replicate zeros 0 ++ after ∧ 2 ≤ zeros ∧
        ipv6Chars pieces = hexPieces before ++ ':' :: ':' :: hexPieces after := by
  obtain ⟨before, after, hpieces, hlength⟩ :=
    @hasZeros_longestRun [] pieces (0, 0) ⟨[], pieces, rfl, rfl⟩
  rw [List.nil_append] at hpieces
  rw [List.length_nil] at hpieces hlength
  unfold ipv6Chars
  generalize longestRun 0 (0, 0) pieces = run at hpieces hlength ⊢
  by_cases hshort : run.2 < 2
  · exact Or.inl (if_pos hshort)
  · refine Or.inr ⟨before, run.2, after, hpieces, by omega, ?_⟩
    have htake : pieces.take run.1 = before := by
      rw [hpieces, ← hlength, List.append_assoc, List.take_left]
    have hdrop : pieces.drop (run.1 + run.2) = after := by
      have hfront : (before ++ List.replicate run.2 0).length = run.1 + run.2 := by
        rw [List.length_append, List.length_replicate, hlength]
      rw [hpieces, ← hfront, List.drop_left]
    simp only [if_neg hshort, htake, hdrop]

theorem mem_hexPieces {l : List Nat} {c : Char} (h : c ∈ hexPieces l) :
    c = ':' ∨ IsSmallDigit c := by
  rcases Idna.mem_intercalate h with h | ⟨part, hpart, hc⟩
  · exact Or.inl h
  · obtain ⟨n, -, rfl⟩ := List.mem_map.mp hpart
    exact Or.inr (isSmallDigit_of_mem_toDigits (by decide) (by decide) hc)

theorem mem_ipv6Chars {pieces : List Nat} {c : Char} (h : c ∈ ipv6Chars pieces) :
    c = ':' ∨ IsSmallDigit c := by
  rcases ipv6Chars_cases pieces with htext | ⟨before, zeros, after, -, -, htext⟩
  · rw [htext] at h
    exact mem_hexPieces h
  · rw [htext] at h
    rcases List.mem_append.mp h with h | h
    · exact mem_hexPieces h
    · rcases List.mem_cons.mp h with rfl | h
      · exact Or.inl rfl
      · rcases List.mem_cons.mp h with rfl | h
        · exact Or.inl rfl
        · exact mem_hexPieces h

theorem ipv6?_of_head? {cs : List Char} (hhead : cs.head? ≠ some ':') (hlength : 2 ≤ cs.length) :
    ipv6? cs = (ipv6Parts? 0 false cs).bind ipv6OfParts? := by
  match cs with
  | c :: d :: rest => exact if_neg fun hc => hhead (congrArg some hc)

theorem head?_hexPieces_append (n : Nat) (rest : List Nat) (after : List Char) :
    (hexPieces (n :: rest) ++ after).head? ≠ some ':' := by
  obtain ⟨c, cs, hdigits, -, hc⟩ := toDigits_sixteen_eq_cons n
  cases rest with
  | nil =>
      rw [hexPieces, List.map_singleton, List.intercalate_singleton, hdigits]
      simpa using hc
  | cons m rest =>
      rw [hexPieces_cons_cons, hdigits]
      simpa using hc

/-- The text of an IPv6 address is read as the address. -/
theorem ipv6?_ipv6Chars {pieces : List Nat} (hlength : pieces.length = 8)
    (hsmall : ∀ n ∈ pieces, n < 65536) : ipv6? (ipv6Chars pieces) = some pieces := by
  rcases ipv6Chars_cases pieces with htext | ⟨before, zeros, after, rfl, hzeros, htext⟩
  · rw [htext]
    match pieces with
    | n :: m :: rest =>
        have hhead := head?_hexPieces_append n (m :: rest) []
        have htwo : 2 ≤ (hexPieces (n :: m :: rest)).length := by
          have hpos := List.length_pos_iff.mpr (@Nat.toDigits_ne_nil n 16)
          simp only [hexPieces_cons_cons, List.length_append, List.length_cons]
          omega
        rw [List.append_nil] at hhead
        rw [ipv6?_of_head? hhead htwo,
          ipv6Parts?_hexPieces (List.cons_ne_nil n _) hsmall (by omega), Option.bind_some,
          ipv6OfParts?_pieces hlength]
  · have hbefore : ∀ n ∈ before, n < 65536 := fun n hn => hsmall n (by simp [hn])
    have hafter : ∀ n ∈ after, n < 65536 := fun n hn => hsmall n (by simp [hn])
    simp only [List.length_append, List.length_replicate] at hlength
    have hread : ∀ count, count + after.length ≤ 8 →
        ipv6Parts? count true (hexPieces after) = some (after.map Ipv6Part.piece) := by
      intro count hcount
      cases after with
      | nil => rw [hexPieces, List.map_nil, List.intercalate_nil, ipv6Parts?, List.map_nil]
      | cons n rest => exact ipv6Parts?_hexPieces (List.cons_ne_nil n rest) hafter hcount
    have hgap := ipv6OfParts?_gap before after
    have hleft : 8 - (before.length + after.length) = zeros := by omega
    rw [hleft] at hgap
    rw [htext]
    cases before with
    | nil =>
        have hstart : ipv6? (':' :: ':' :: hexPieces after) =
            (ipv6Parts? 1 true (hexPieces after)).bind fun l => ipv6OfParts? (.gap :: l) := rfl
        rw [hread 1 (by omega), Option.bind_some] at hstart
        exact hstart.trans hgap
    | cons n rest =>
        rw [List.length_cons] at hlength
        have htwo : 2 ≤ (hexPieces (n :: rest) ++ ':' :: ':' :: hexPieces after).length := by
          simp only [List.length_append, List.length_cons]
          omega
        rw [ipv6?_of_head? (head?_hexPieces_append n rest _) htwo,
          ipv6Parts?_hexPieces_gap (List.cons_ne_nil n rest) hbefore
            (by rw [List.length_cons]; omega),
          hread _ (by rw [List.length_cons]; omega), Option.map_some, Option.bind_some]
        exact hgap

/-! ## What is read as an address -/

/-- Parts behind `count` others have places for them in an address, which has one gap at most. -/
structure FitPlaces (count : Nat) (seen : Bool) (parts : List Ipv6Part) : Prop where
  length_le : parts.length + count ≤ 8
  small : ∀ n, Ipv6Part.piece n ∈ parts → n < 65536
  gaps : parts.count .gap + seen.toNat ≤ 1

section FitPlaces

variable {count n : Nat} {seen : Bool} {parts : List Ipv6Part}

theorem FitPlaces.nil (h : count ≤ 8) : FitPlaces count seen [] where
  length_le := by simpa using h
  small n hn := by cases hn
  gaps := by cases seen <;> decide

theorem FitPlaces.piece (hn : n < 65536) (h : FitPlaces (count + 1) seen parts) :
    FitPlaces count seen (.piece n :: parts) where
  length_le := by
    have hlength := h.length_le
    rw [List.length_cons]
    omega
  small m hm := by
    rcases List.mem_cons.mp hm with heq | hm
    · cases heq
      exact hn
    · exact h.small m hm
  gaps := by
    rw [List.count_cons_of_ne Ipv6Part.noConfusion]
    exact h.gaps

theorem FitPlaces.gap (h : FitPlaces (count + 1) true parts) :
    FitPlaces count false (.gap :: parts) where
  length_le := by
    have hlength := h.length_le
    rw [List.length_cons]
    omega
  small m hm := by
    rcases List.mem_cons.mp hm with heq | hm
    · cases heq
    · exact h.small m hm
  gaps := by
    have hgaps := h.gaps
    rw [List.count_cons_self]
    simpa using hgaps

theorem byteNumber?_le {cs : List Char} (h : byteNumber? cs = some n) : n ≤ 255 := by
  unfold byteNumber? at h
  split at h
  · cases h
  · cases h
    omega
  · cases h
  · split at h
    · rename_i hbyte
      cases h
      simp only [Bool.and_eq_true, decide_eq_true_eq] at hbyte
      exact hbyte.2
    · cases h

theorem fitPlaces_embeddedIpv4? {cs : List Char} (h : embeddedIpv4? cs = some parts)
    (hcount : count ≤ 6) : FitPlaces count seen parts := by
  unfold embeddedIpv4? at h
  split at h
  · rename_i a b c d hbytes
    cases h
    rw [mapM_eq_some_iff] at hbytes
    have hle : ∀ byte ∈ [a, b, c, d], byte ≤ 255 := by
      intro byte hbyte
      have hmem : some byte ∈ [a, b, c, d].map some := List.mem_map_of_mem hbyte
      rw [← hbytes] at hmem
      obtain ⟨part, -, hpart⟩ := List.mem_map.mp hmem
      exact byteNumber?_le hpart
    simp only [List.forall_mem_cons] at hle
    obtain ⟨ha, hb, hc, hd, -⟩ := hle
    exact .piece (by omega) (.piece (by omega) (.nil (by omega)))
  · cases h

/-- The parts of an address have places in it. -/
theorem fitPlaces_ipv6Parts? {cs : List Char} (h : ipv6Parts? count seen cs = some parts)
    (hcount : count ≤ 8) : FitPlaces count seen parts := by
  fun_induction ipv6Parts? count seen cs generalizing parts with
  | case1 count seen =>
      cases h
      exact .nil hcount
  | case4 count seen rest hplace hgap ih =>
      have hseen : seen = false := by simpa using hgap
      subst hseen
      obtain ⟨others, hothers, rfl⟩ := Option.map_eq_some_iff.mp h
      exact .gap (ih hothers (by omega))
  | case6 count seen c rest hplace =>
      cases h
      exact .piece (ofHexDigits_takeWhile_lt (c :: rest)) (.nil (by omega))
  | case8 count seen c rest hplace hcolon digits hdigits tail hpoint =>
      exact fitPlaces_embeddedIpv4? h (by omega)
  | case10 count seen c rest hplace hcolon digits hdigits next =>
      rename_i ih
      obtain ⟨others, hothers, rfl⟩ := Option.map_eq_some_iff.mp h
      exact .piece (ofHexDigits_takeWhile_lt (c :: rest)) (ih hothers (by omega))
  | case2 => cases h
  | case3 => cases h
  | case5 => cases h
  | case7 => cases h
  | case9 => cases h
  | case11 => cases h

end FitPlaces

/-- Pieces without a gap stand for their numbers. -/
theorem length_filterMap_value? {parts : List Ipv6Part} (h : parts.count .gap = 0) :
    (parts.filterMap Ipv6Part.value?).length = parts.length := by
  induction parts with
  | nil => rfl
  | cons part rest ih =>
      cases part with
      | piece n =>
          rw [List.count_cons_of_ne Ipv6Part.noConfusion] at h
          simpa [Ipv6Part.value?] using ih h
      | gap =>
          rw [List.count_cons_self] at h
          omega

theorem mem_filterMap_value? {parts : List Ipv6Part} {n : Nat}
    (h : n ∈ parts.filterMap Ipv6Part.value?) : Ipv6Part.piece n ∈ parts := by
  obtain ⟨part, hpart, hvalue⟩ := List.mem_filterMap.mp h
  cases part with
  | piece m =>
      cases hvalue
      exact hpart
  | gap => cases hvalue

/-- Parts fall apart at the first gap. -/
theorem exists_before_gap (parts : List Ipv6Part) :
    ∃ after, parts = parts.takeWhile (· ≠ .gap) ++ after ∧
      (after = [] ∨ ∃ rest, after = .gap :: rest) := by
  refine ⟨parts.dropWhile (· ≠ .gap), (List.takeWhile_append_dropWhile).symm, ?_⟩
  cases hafter : parts.dropWhile (· ≠ .gap) with
  | nil => exact Or.inl rfl
  | cons part rest =>
      have hhead := List.head?_dropWhile_not (· ≠ Ipv6Part.gap) parts
      rw [hafter] at hhead
      have hgap : part = .gap := by simpa using hhead
      exact Or.inr ⟨rest, by rw [hgap]⟩

/-- An IPv6 address has eight pieces of sixteen bits. -/
def IsIpv6 (pieces : List Nat) : Prop :=
  pieces.length = 8 ∧ ∀ n ∈ pieces, n < 65536

theorem isIpv6_ipv6OfParts? {parts : List Ipv6Part} {pieces : List Nat}
    (hparts : FitPlaces 0 false parts) (h : ipv6OfParts? parts = some pieces) : IsIpv6 pieces := by
  have hnone : (parts.takeWhile (· ≠ .gap)).count .gap = 0 := by
    rw [List.count_eq_zero]
    intro hmem
    simpa using List.mem_takeWhile_imp hmem
  obtain ⟨after, hsplit, hafter⟩ := exists_before_gap parts
  simp only [ipv6OfParts?] at h
  generalize parts.takeWhile (· ≠ .gap) = before at hsplit hnone h
  subst hsplit
  have hlength := hparts.length_le
  have hgaps := hparts.gaps
  rw [List.drop_left] at h
  rw [List.length_append] at h hlength
  rw [List.count_append, hnone] at hgaps
  rcases hafter with rfl | ⟨rest, rfl⟩
  · rw [List.isEmpty_nil, if_pos rfl] at h
    split at h
    · rename_i height
      cases h
      refine ⟨(length_filterMap_value? hnone).trans height, fun n hn => ?_⟩
      exact hparts.small n (List.mem_append_left [] (mem_filterMap_value? hn))
    · cases h
  · rw [List.count_cons_self] at hgaps
    have hrest := @length_filterMap_value? rest (by omega)
    have hcons : (Ipv6Part.gap :: rest).filterMap Ipv6Part.value? =
        rest.filterMap Ipv6Part.value? := rfl
    rw [List.isEmpty_cons, if_neg Bool.false_ne_true, hcons] at h
    cases h
    rw [List.length_cons] at hlength
    constructor
    · simp only [List.length_append, List.length_replicate, List.length_cons, hrest,
        length_filterMap_value? hnone]
      omega
    · intro n hn
      simp only [List.mem_append, List.mem_replicate] at hn
      rcases hn with (hn | ⟨-, rfl⟩) | hn
      · exact hparts.small n (List.mem_append_left _ (mem_filterMap_value? hn))
      · decide
      · exact hparts.small n
          (List.mem_append_right _ (List.mem_cons_of_mem _ (mem_filterMap_value? hn)))

/-- What is read as an IPv6 address is one. -/
theorem isIpv6_ipv6? {cs : List Char} {pieces : List Nat} (h : ipv6? cs = some pieces) :
    IsIpv6 pieces := by
  unfold ipv6? at h
  split at h
  · split at h
    · split at h
      · obtain ⟨parts, hparts, hpieces⟩ := Option.bind_eq_some_iff.mp h
        exact isIpv6_ipv6OfParts? (.gap (fitPlaces_ipv6Parts? hparts (by decide))) hpieces
      · cases h
    · obtain ⟨parts, hparts, hpieces⟩ := Option.bind_eq_some_iff.mp h
      exact isIpv6_ipv6OfParts? (fitPlaces_ipv6Parts? hparts (by decide)) hpieces
  · cases h

/-! ## IPv4 addresses -/

theorem foldl_bytes_lt {bytes : List Nat} (h : ∀ b ∈ bytes, b ≤ 255) :
    bytes.foldl (fun n b => 256 * n + b) 0 < 256 ^ bytes.length := by
  induction bytes using List.reverseRecOn with
  | nil => decide
  | append_singleton bytes b ih =>
      have hbytes := ih fun c hc => h c (List.mem_append_left [b] hc)
      have hb := h b (List.mem_append_right bytes List.mem_cons_self)
      rw [List.foldl_append, List.foldl_cons, List.foldl_nil, List.length_append,
        List.length_singleton, Nat.pow_succ]
      omega

/-- An IPv4 address has 32 bits. -/
theorem ipv4OfNumbers?_lt {numbers : List Nat} {n : Nat} (h : ipv4OfNumbers? numbers = some n) :
    n < 256 ^ 4 := by
  simp only [ipv4OfNumbers?] at h
  split at h
  · cases h
  · rename_i last hlast
    split at h
    · cases h
    · rename_i hfits
      simp only [not_or, List.any_eq_true, decide_eq_true_eq, not_exists, not_and, not_lt,
        Nat.not_le] at hfits
      obtain ⟨hlength, hlast, hbytes⟩ := hfits
      cases h
      have hfront := foldl_bytes_lt hbytes
      generalize numbers.dropLast = bytes at hlength hlast hfront
      calc bytes.foldl (fun n b => 256 * n + b) 0 * 256 ^ (4 - bytes.length) + last
          < bytes.foldl (fun n b => 256 * n + b) 0 * 256 ^ (4 - bytes.length) +
              256 ^ (4 - bytes.length) := by exact Nat.add_lt_add_left hlast _
        _ = (bytes.foldl (fun n b => 256 * n + b) 0 + 1) * 256 ^ (4 - bytes.length) := by
              rw [Nat.succ_mul]
        _ ≤ 256 ^ bytes.length * 256 ^ (4 - bytes.length) := Nat.mul_le_mul_right _ hfront
        _ = 256 ^ 4 := by rw [← Nat.pow_add, Nat.add_sub_cancel' (by omega)]

/-- A number is not taken for an octal one. -/
theorem ipv4Number?_natChars (n : Nat) : ipv4Number? (Decimal.natChars n) = some n := by
  have hdigits : (Decimal.natChars n).all Char.isDigit = true :=
    List.all_eq_true.mpr (Decimal.isDigits_toDigits n).2
  have hvalue : Decimal.ofDigits (Decimal.natChars n) = n := Nat.ofDigitChars_ten_toDigits
  have hhead := @head?_toDigits_ne 10 n (by decide) (by decide)
  unfold ipv4Number?
  split
  · rename_i heq
    exact absurd heq Nat.toDigits_ne_nil
  · rename_i c rest heq
    by_cases hn : n = 0
    · subst hn
      cases heq
    · have hzero := hhead hn
      rw [← Decimal.natChars, heq] at hzero
      exact absurd rfl hzero
  · rw [if_pos hdigits, hvalue]

/-- The bytes of an IPv4 address. -/
def ipv4Bytes (address : Nat) : List Nat :=
  [address / 0x1000000, address / 0x10000 % 256, address / 256 % 256, address % 256]

theorem ipv4OfNumbers?_ipv4Bytes {address : Nat} (h : address < 256 ^ 4) :
    ipv4OfNumbers? (ipv4Bytes address) = some address := by
  have hfits : ¬ (4 ≤ 3 ∨ Nat.pow 256 1 ≤ address % 256 ∨
      [address / 0x1000000, address / 0x10000 % 256,
        address / 256 % 256].any (255 < ·) = true) := by
    simp only [List.any_cons, List.any_nil, Bool.or_false, Bool.or_eq_true, decide_eq_true_eq,
      Nat.pow_eq]
    omega
  have hvalue : (256 * (256 * (256 * 0 + address / 0x1000000) + address / 0x10000 % 256) +
      address / 256 % 256) * Nat.pow 256 1 + address % 256 = address := by
    rw [Nat.pow_eq]
    omega
  exact (if_neg hfits).trans (congrArg some hvalue)

/-- Numbers in decimal digits, joined by points. -/
def dotted (numbers : List Nat) : List Char :=
  List.intercalate ['.'] (numbers.map Decimal.natChars)

section Dotted

variable {numbers : List Nat}

theorem mem_dotted {c : Char} (h : c ∈ dotted numbers) : c = '.' ∨ IsSmallDigit c := by
  rcases Idna.mem_intercalate h with h | ⟨part, hpart, hc⟩
  · exact Or.inl h
  · obtain ⟨n, -, rfl⟩ := List.mem_map.mp hpart
    exact Or.inr (isSmallDigit_of_mem_toDigits (by decide) (by decide) hc)

theorem splitOn_dotted (hne : numbers ≠ []) :
    Text.splitOn '.' (dotted numbers) = numbers.map Decimal.natChars := by
  apply Text.splitOn_intercalate (by simpa using hne)
  intro part hpart hpoint
  obtain ⟨n, -, rfl⟩ := List.mem_map.mp hpart
  have hdigit := (Decimal.isDigits_toDigits n).2 '.' hpoint
  revert hdigit
  decide

theorem dotted_ne_nil (hne : numbers ≠ []) : dotted numbers ≠ [] := by
  intro hnil
  have hparts := splitOn_dotted hne
  rw [hnil, Text.splitOn] at hparts
  obtain ⟨n, -, hn⟩ := List.mem_map.mp (hparts ▸ List.mem_singleton_self [])
  exact Nat.toDigits_ne_nil hn

theorem nameParts_dotted (hne : numbers ≠ []) :
    nameParts (dotted numbers) = numbers.map Decimal.natChars := by
  have hlast : (numbers.map Decimal.natChars).getLast? ≠ some [] := by
    intro hlast
    obtain ⟨n, -, hn⟩ := List.mem_map.mp (List.mem_of_getLast? hlast)
    exact Nat.toDigits_ne_nil hn
  simp only [nameParts, splitOn_dotted hne, if_neg hlast]

theorem endsInNumber_dotted (hne : numbers ≠ []) : endsInNumber (dotted numbers) = true := by
  rw [endsInNumber, nameParts_dotted hne, List.getLast?_map]
  cases hlast : numbers.getLast? with
  | none => exact absurd (List.getLast?_eq_none_iff.mp hlast) hne
  | some n =>
      have hdigits : (Decimal.natChars n).all Char.isDigit = true :=
        List.all_eq_true.mpr (Decimal.isDigits_toDigits n).2
      cases hn : Decimal.natChars n with
      | nil => exact absurd hn Nat.toDigits_ne_nil
      | cons c rest =>
          rw [hn] at hdigits
          simp [hn, hdigits]

theorem ipv4?_dotted (hne : numbers ≠ []) : ipv4? (dotted numbers) = ipv4OfNumbers? numbers := by
  have hread : (numbers.map Decimal.natChars).mapM ipv4Number? = some numbers := by
    rw [mapM_eq_some_iff, List.map_map]
    exact List.map_congr_left fun n _ => ipv4Number?_natChars n
  rw [ipv4?, nameParts_dotted hne, hread, Option.bind_some]

end Dotted

theorem chars_ipv4 (address : Nat) : chars (.ipv4 address) = dotted (ipv4Bytes address) :=
  rfl

/-- An IPv4 address is read back from its text. -/
theorem ipv4?_chars {address : Nat} (h : address < 256 ^ 4) :
    ipv4? (chars (.ipv4 address)) = some address := by
  have hne : ipv4Bytes address ≠ [] := List.cons_ne_nil _ _
  rw [chars_ipv4, ipv4?_dotted hne, ipv4OfNumbers?_ipv4Bytes h]

/-! ## Names that end in a number -/

theorem nameParts_behind (first rest : List Char) :
    nameParts (first ++ '.' :: rest) = Text.splitOn '.' first ++ nameParts rest := by
  have hparts := Text.splitOn_ne_nil '.' rest
  have hlast : (Text.splitOn '.' first ++ Text.splitOn '.' rest).getLast? =
      (Text.splitOn '.' rest).getLast? := List.getLast?_append_of_ne_nil _ hparts
  simp only [nameParts, Text.splitOn_append_cons, hlast]
  split
  · rw [List.dropLast_append_of_ne_nil hparts]
  · rfl

theorem nameParts_ne_nil {cs : List Char} (hne : cs ≠ []) : nameParts cs ≠ [] := by
  intro hnil
  have hparts := Text.splitOn_ne_nil '.' cs
  have hjoin := Text.intercalate_splitOn '.' cs
  simp only [nameParts] at hnil
  split at hnil
  · rename_i hlast
    obtain ⟨front, hfront⟩ := List.getLast?_eq_some_iff.mp hlast
    rw [hfront, List.dropLast_concat] at hnil
    subst hnil
    rw [hfront] at hjoin
    exact hne hjoin.symm
  · exact hparts hnil

/-- Whether a name ends in a number does not depend on its first label. -/
theorem endsInNumber_behind (first : List Char) {rest : List Char} (hne : rest ≠ []) :
    endsInNumber (first ++ '.' :: rest) = endsInNumber rest := by
  have hlast : (Text.splitOn '.' first ++ nameParts rest).getLast? = (nameParts rest).getLast? :=
    List.getLast?_append_of_ne_nil _ (nameParts_ne_nil hne)
  rw [endsInNumber, nameParts_behind, hlast]
  rfl

theorem isHexDigit_toLower (c : Char) : isHexDigit c.toLower = isHexDigit c := by
  rw [isHexDigit, isHexDigit, Text.isDigit_toLower, Text.toNat_toLower, Bool.eq_iff_iff]
  simp only [Bool.or_eq_true, Bool.and_eq_true, decide_eq_true_eq, or_assoc]
  apply or_congr_right
  by_cases h : Text.IsCapital c
  · rw [if_pos h]
    unfold Text.IsCapital at h
    omega
  · rw [if_neg h]

theorem all_map_toLower {p : Char → Bool} (hp : ∀ c : Char, p c.toLower = p c) (cs : List Char) :
    (cs.map Char.toLower).all p = cs.all p := by
  rw [List.all_map]
  exact congrArg (cs.all ·) (funext hp)

/-- What a part of more than one character has to be behind a zero. -/
theorem isSome_ipv4Number?_zero (c : Char) (rest : List Char) :
    (ipv4Number? ('0' :: c :: rest)).isSome =
      if c = 'x' ∨ c = 'X' then rest.all isHexDigit
      else (c :: rest).all fun d => 48 ≤ d.toNat && d.toNat ≤ 55 := by
  rw [ipv4Number?]
  split
  · cases rest.all isHexDigit <;> rfl
  · cases (c :: rest).all fun d => 48 ≤ d.toNat && d.toNat ≤ 55 <;> rfl

/-- What any other part has to be. -/
theorem isSome_ipv4Number?_other {cs : List Char} (hne : cs ≠ [])
    (h : ∀ c rest, cs ≠ '0' :: c :: rest) : (ipv4Number? cs).isSome = cs.all Char.isDigit := by
  unfold ipv4Number?
  split
  · exact absurd rfl hne
  · exact absurd rfl (h _ _)
  · cases cs.all Char.isDigit <;> rfl

theorem isSome_ipv4Number?_map_toLower (cs : List Char) :
    (ipv4Number? (cs.map Char.toLower)).isSome = (ipv4Number? cs).isSome := by
  have hzero : '0'.toLower = '0' := by decide
  have hoctal : ∀ c : Char, (48 ≤ c.toLower.toNat && c.toLower.toNat ≤ 55) =
      (48 ≤ c.toNat && c.toNat ≤ 55) := by
    intro c
    rw [Text.toNat_toLower, Bool.eq_iff_iff]
    simp only [Bool.and_eq_true, decide_eq_true_eq]
    by_cases h : Text.IsCapital c
    · rw [if_pos h]
      unfold Text.IsCapital at h
      omega
    · rw [if_neg h]
  by_cases h : ∃ c rest, cs = '0' :: c :: rest
  · obtain ⟨c, rest, rfl⟩ := h
    have hx : (c.toLower = 'x' ∨ c.toLower = 'X') ↔ (c = 'x' ∨ c = 'X') := by
      constructor
      · rintro (hsmall | hcapital)
        · refine (Text.eq_or_eq_of_toLower_eq hsmall).imp_right fun hnat => Char.toNat_inj.mp ?_
          exact Nat.add_right_cancel hnat
        · have hnot := Text.not_isCapital_toLower c
          rw [hcapital] at hnot
          exact absurd (by decide) hnot
      · rintro (rfl | rfl) <;> exact Or.inl (by decide)
    rw [List.map_cons, List.map_cons, hzero, isSome_ipv4Number?_zero, isSome_ipv4Number?_zero,
      if_congr hx rfl rfl, all_map_toLower isHexDigit_toLower, ← List.map_cons,
      all_map_toLower hoctal]
  · cases cs with
    | nil => rfl
    | cons d rest =>
        have hother : ∀ c others, d :: rest ≠ '0' :: c :: others := by
          rintro c others heq
          exact h ⟨c, others, heq⟩
        have hlower : ∀ c others, (d :: rest).map Char.toLower ≠ '0' :: c :: others := by
          rintro c others heq
          obtain ⟨hd, hrest⟩ := List.cons.inj heq
          obtain ⟨e, more, rfl, -, -⟩ := List.map_eq_cons_iff.mp hrest
          exact hother e more (by rw [Text.eq_of_toLower_eq hd (by decide)])
        rw [isSome_ipv4Number?_other (List.cons_ne_nil d rest) hother,
          isSome_ipv4Number?_other (by simp) hlower, all_map_toLower Text.isDigit_toLower]

/-- Whether a name ends in a number does not depend on capital letters. -/
theorem endsInNumber_map_toLower (cs : List Char) :
    endsInNumber (cs.map Char.toLower) = endsInNumber cs := by
  have hparts : nameParts (cs.map Char.toLower) = (nameParts cs).map (List.map Char.toLower) := by
    have hlast : ((Text.splitOn '.' cs).map (List.map Char.toLower)).getLast? = some [] ↔
        (Text.splitOn '.' cs).getLast? = some [] := by
      rw [List.getLast?_map]
      cases (Text.splitOn '.' cs).getLast? with
      | none => simp
      | some part => simp
    simp only [nameParts, Text.splitOn_map Text.toLower_eq_point, hlast]
    split
    · exact List.map_dropLast.symm
    · rfl
  rw [endsInNumber, endsInNumber, hparts, List.getLast?_map]
  match (nameParts cs).getLast? with
  | none => rfl
  | some [] => rfl
  | some (c :: rest) =>
      have hnumber := isSome_ipv4Number?_map_toLower (c :: rest)
      have hdigits := all_map_toLower Text.isDigit_toLower (c :: rest)
      rw [List.map_cons] at hnumber hdigits
      simp only [Option.map_some, List.map_cons, hnumber, hdigits]

end Host
end Url
end AnalyticsQuery
