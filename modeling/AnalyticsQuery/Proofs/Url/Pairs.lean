import AnalyticsQuery.Proofs.Text.Split
import AnalyticsQuery.Proofs.Url.Percent
import AnalyticsQuery.Url.Form

/-!
# Pairs read back from a query string

A pair that is appended to a query string is read back as it was, and so are the
pairs that stood there before.  A coded name or value holds neither an ampersand
nor an equals sign, so that the pairs fall apart where they were joined.

* `partBytes_encodeByte`: each byte of a text is read back from its coding,
  whatever follows it.
* `decodePart_encodePart`: a name or value is read back as it was.
* `decode_append`: pairs that are appended come behind those of the query
  string, and none of them changes another.
-/

namespace AnalyticsQuery
namespace Url

namespace Form

/-- The bytes that a name or value stands for. -/
def partBytes (cs : List Char) : List UInt8 :=
  percentDecode (Text.utf8Bytes (cs.map fun c => if c = '+' then ' ' else c))

theorem decodePart_eq (cs : List Char) :
    decodePart cs = String.ofList (Text.decodeLossy (partBytes cs)) :=
  rfl

/-! ## One byte -/

theorem partBytes_plus (rest : List Char) : partBytes ('+' :: rest) = 0x20 :: partBytes rest := by
  rw [partBytes, List.map_cons, if_pos rfl, Text.utf8Bytes_cons_of_lt (by decide),
    percentDecode_cons (by decide)]
  rfl

theorem partBytes_plain
    {c : Char} (hlt : c.toNat < 0x80) (hplus : c ≠ '+') (hpercent : c.toNat.toUInt8 ≠ 0x25)
    (rest : List Char) :
    partBytes (c :: rest) = c.toNat.toUInt8 :: partBytes rest := by
  rw [partBytes, List.map_cons, if_neg hplus, Text.utf8Bytes_cons_of_lt hlt,
    percentDecode_cons hpercent]
  rfl

theorem partBytes_percentByte (b : UInt8) (rest : List Char) :
    partBytes (percentByte b ++ rest) = b :: partBytes rest := by
  have hb : b.toNat < 256 := b.toNat_lt
  have hhigh := (upperHexDigit_spec (b.toNat / 16) (by omega)).2.1
  have hlow := (upperHexDigit_spec (b.toNat % 16) (by omega)).2.1
  have hsame : ((percentByte b).map fun c => if c = '+' then ' ' else c) = percentByte b := by
    simp [percentByte, hhigh, hlow]
  rw [partBytes, List.map_append, hsame, percentDecode_percentByte]
  rfl

/-- The bytes that stand for themselves are neither signs of the coding nor separators. -/
theorem isKept_ranges {b : UInt8} (h : isKept b = true) :
    b.toNat < 0x80 ∧ b.toNat ≠ 0x25 ∧ b.toNat ≠ 0x2B ∧ b.toNat ≠ 0x26 ∧ b.toNat ≠ 0x3D := by
  simp only [isKept, Bool.or_eq_true, Bool.and_eq_true, decide_eq_true_eq] at h
  omega

theorem toNat_ofNat_of_lt {n : Nat} (h : n < 0x80) : (Char.ofNat n).toNat = n := by
  have hvalid : n.isValidChar := Or.inl (by omega)
  rw [Char.ofNat, dif_pos hvalid]
  rfl

/-- A byte is read back from its coding, whatever follows it. -/
theorem partBytes_encodeByte (b : UInt8) (rest : List Char) :
    partBytes (encodeByte b ++ rest) = b :: partBytes rest := by
  unfold encodeByte
  split
  · rename_i hkept
    obtain ⟨hlt, hpercent, hplus, -, -⟩ := isKept_ranges hkept
    have hchar := toNat_ofNat_of_lt hlt
    have hbyte : b.toNat.toUInt8 = b := UInt8.ofNat_toNat
    have hplain := partBytes_plain (c := Char.ofNat b.toNat) (by rw [hchar]; exact hlt)
      (by rintro heq; rw [heq] at hchar; exact hplus hchar.symm)
      (by rw [hchar, hbyte]; rintro rfl; exact hpercent rfl) rest
    rw [hchar, hbyte] at hplain
    exact hplain
  · split
    · rename_i hspace
      subst hspace
      exact partBytes_plus rest
    · exact partBytes_percentByte b rest

/-! ## Names and values -/

theorem partBytes_flatMap (bytes : List UInt8) :
    partBytes (bytes.flatMap encodeByte) = bytes := by
  induction bytes with
  | nil => rfl
  | cons b rest ih => rw [List.flatMap_cons, partBytes_encodeByte, ih]

/-- A name or value is read back as it was. -/
theorem decodePart_encodePart (cs : List Char) : decodePart (encodePart cs) = String.ofList cs := by
  rw [decodePart_eq, encodePart, partBytes_flatMap, Text.decodeLossy_utf8Bytes]

/-- A coded byte holds no separator. -/
theorem not_mem_encodeByte {c : Char} (hc : c = '&' ∨ c = '=') (b : UInt8) : c ∉ encodeByte b := by
  have hdigit : ∀ n < 16, upperHexDigit n ≠ '&' ∧ upperHexDigit n ≠ '=' := by decide
  have hb : b.toNat < 256 := b.toNat_lt
  unfold encodeByte
  split
  · rename_i hkept
    obtain ⟨hlt, -, -, hamp, heq⟩ := isKept_ranges hkept
    have hchar := toNat_ofNat_of_lt hlt
    rw [List.mem_singleton]
    rintro rfl
    rcases hc with hc | hc
    · rw [hc] at hchar
      exact hamp hchar.symm
    · rw [hc] at hchar
      exact heq hchar.symm
  · split
    · rcases hc with rfl | rfl <;> decide
    · have hhigh := hdigit (b.toNat / 16) (by omega)
      have hlow := hdigit (b.toNat % 16) (by omega)
      rcases hc with rfl | rfl
      · simp [percentByte, hhigh.1.symm, hlow.1.symm]
      · simp [percentByte, hhigh.2.symm, hlow.2.symm]

theorem not_mem_encodePart {c : Char} (hc : c = '&' ∨ c = '=') (cs : List Char) :
    c ∉ encodePart cs := by
  intro hmem
  obtain ⟨b, -, hb⟩ := List.mem_flatMap.mp hmem
  exact not_mem_encodeByte hc b hb

/-! ## Pairs -/

theorem decodePair_encodePair (pair : String × String) : decodePair (encodePair pair) = pair := by
  have hsplit := Text.splitFirst_append_cons (not_mem_encodePart (Or.inr rfl) pair.1.toList)
    (encodePart pair.2.toList)
  rw [decodePair, encodePair, hsplit]
  simp only [decodePart_encodePart, String.ofList_toList]

/-- A query string that is a coded pair is that pair. -/
theorem decode_encodePair (pair : String × String) : decode (encodePair pair) = [pair] := by
  have hamp : '&' ∉ encodePair pair := by
    have hname : '&' ∉ encodePart pair.1.toList := not_mem_encodePart (Or.inl rfl) _
    have hvalue : '&' ∉ encodePart pair.2.toList := not_mem_encodePart (Or.inl rfl) _
    simp [encodePair, hname, hvalue]
  have hpart : (encodePair pair).isEmpty = false := by
    simp [encodePair]
  rw [decode, Text.splitOn_of_not_mem hamp]
  simp [hpart, decodePair_encodePair]

/-- The pairs on the two sides of an ampersand have nothing to do with each other. -/
theorem decode_append_cons (before after : List Char) :
    decode (before ++ '&' :: after) = decode before ++ decode after := by
  rw [decode, Text.splitOn_append_cons, List.filter_append, List.map_append]
  rfl

/-- Pairs that are appended to a query string come behind its own, all as they were. -/
theorem decode_append (query : List Char) (pairs : List (String × String)) :
    decode (append query pairs) = decode query ++ pairs := by
  -- Each pair is appended to what those before it have left.
  induction pairs generalizing query with
  | nil => simp [append]
  | cons pair pairs ih =>
      have hfirst :
          decode (query ++ (if query.isEmpty then [] else ['&']) ++ encodePair pair) =
            decode query ++ [pair] := by
        cases query with
        | nil => exact decode_encodePair pair
        | cons c rest =>
            have hboth := decode_append_cons (c :: rest) (encodePair pair)
            rw [decode_encodePair] at hboth
            simpa using hboth
      calc decode (append query (pair :: pairs))
          = decode (append (query ++ (if query.isEmpty then [] else ['&']) ++ encodePair pair)
              pairs) := rfl
        _ = decode query ++ [pair] ++ pairs := by rw [ih, hfirst]
        _ = decode query ++ pair :: pairs := by rw [List.append_assoc, List.singleton_append]

end Form
end Url
end AnalyticsQuery
