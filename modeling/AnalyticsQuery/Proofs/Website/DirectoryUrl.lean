import AnalyticsQuery.Proofs.Text.Letters
import AnalyticsQuery.Proofs.Text.Split
import AnalyticsQuery.Proofs.Url.Percent
import AnalyticsQuery.Website.Source

/-!
# The URL of a website

The URL under which the other service is asked for a website has the path of the
service, less a slash at its end, and three segments behind it, the last of
which stands for the id of the website.  That segment is coded so that it holds
no separator, and the id is read back from it.

Two kinds of ids are not read back.  Tabs and line ends are left out, and a
segment that consists of one or two dots is no name but a step in the path: it
is passed over, and when it only comes about as characters are left out it takes
the place of what stands before it.

* `percentEncode_isDoubleDot_iff`, `percentEncode_isSingleDot_iff`: no other id
  is coded as dots.
* `urlOf_eq`: the URL of a website.
* `urlOf_names_iff`: which ids it names, and which it has in common.
-/

namespace AnalyticsQuery

theorem Text.utf8Bytes_injective : Function.Injective utf8Bytes :=
  Function.LeftInverse.injective decodeLossy_utf8Bytes

namespace Url

/-! ## Dots -/

/-- The spellings of a dot. -/
def IsDot (cs : List Char) : Prop :=
  cs = ['.'] ∨ cs = ['%', '2', 'e'] ∨ cs = ['%', '2', 'E']

theorem isDot_of_toLower_eq
    {cs : List Char} (h : cs.map Char.toLower = ['.'] ∨ cs.map Char.toLower = ['%', '2', 'e']) :
    IsDot cs := by
  rcases h with h | h
  · obtain ⟨c, rfl, hc⟩ := List.map_eq_singleton_iff.mp h
    rw [Text.eq_of_toLower_eq hc (by decide)]
    exact Or.inl rfl
  · obtain ⟨a, rest, rfl, ha, h⟩ := List.map_eq_cons_iff.mp h
    obtain ⟨b, rest, rfl, hb, h⟩ := List.map_eq_cons_iff.mp h
    obtain ⟨c, rfl, hc⟩ := List.map_eq_singleton_iff.mp h
    rw [Text.eq_of_toLower_eq ha (by decide), Text.eq_of_toLower_eq hb (by decide)]
    rcases Text.eq_or_eq_of_toLower_eq hc with rfl | hc
    · exact Or.inr (Or.inl rfl)
    · have hcapital : c = 'E' := Char.toNat_inj.mp (Nat.add_right_cancel hc)
      rw [hcapital]
      exact Or.inr (Or.inr rfl)

theorem percentDecode_dot {dot : List Char} (h : IsDot dot) (rest : List Char) :
    percentDecode (Text.utf8Bytes (dot ++ rest)) = 0x2E :: percentDecode (Text.utf8Bytes rest) := by
  rcases h with rfl | rfl | rfl
  · rw [List.singleton_append, Text.utf8Bytes_cons_of_lt (by decide),
      percentDecode_cons (by decide)]
    rfl
  · exact percentDecode_digits (show hexByte? 0x32 = some 2 by decide)
      (show hexByte? 0x65 = some 14 by decide) _
  · exact percentDecode_digits (show hexByte? 0x32 = some 2 by decide)
      (show hexByte? 0x45 = some 14 by decide) _

theorem isDot_of_isSingleDot {segment : List Char} (h : isSingleDot segment = true) :
    IsDot segment := by
  simp only [isSingleDot, Bool.or_eq_true, beq_iff_eq, ← String.toList_inj,
    String.toList_ofList] at h
  exact isDot_of_toLower_eq h

theorem isDots_of_isDoubleDot {segment : List Char} (h : isDoubleDot segment = true) :
    ∃ first second, IsDot first ∧ IsDot second ∧ segment = first ++ second := by
  have hsplit :
      ∀ first second : List Char, segment.map Char.toLower = first ++ second →
        (first = ['.'] ∨ first = ['%', '2', 'e']) → (second = ['.'] ∨ second = ['%', '2', 'e']) →
          ∃ first second, IsDot first ∧ IsDot second ∧ segment = first ++ second := by
    intro first second h hfirst hsecond
    obtain ⟨l, r, rfl, rfl, rfl⟩ := List.map_eq_append_iff.mp h
    exact ⟨l, r, isDot_of_toLower_eq hfirst, isDot_of_toLower_eq hsecond, rfl⟩
  simp only [isDoubleDot, Bool.or_eq_true, beq_iff_eq, ← String.toList_inj,
    String.toList_ofList] at h
  rcases h with ((h | h) | h) | h
  · exact hsplit ['.'] ['.'] h (by simp) (by simp)
  · exact hsplit ['.'] ['%', '2', 'e'] h (by simp) (by simp)
  · exact hsplit ['%', '2', 'e'] ['.'] h (by simp) (by simp)
  · exact hsplit ['%', '2', 'e'] ['%', '2', 'e'] h (by simp) (by simp)

/-- Of what is coded in a segment, only two dots become two dots. -/
theorem percentEncode_isDoubleDot_iff {coded : Char → Bool} (hpercent : coded '%' = true)
    (hdot : coded '.' = false) (cs : List Char) :
    isDoubleDot (percentEncode coded cs) = true ↔ cs = ['.', '.'] := by
  constructor
  · intro h
    obtain ⟨first, second, hfirst, hsecond, heq⟩ := isDots_of_isDoubleDot h
    have hbytes := percentDecode_percentEncode hpercent cs
    rw [heq, percentDecode_dot hfirst, ← List.append_nil second,
      percentDecode_dot hsecond] at hbytes
    exact Text.utf8Bytes_injective hbytes.symm
  · rintro rfl
    have hplain : percentEncode coded ['.', '.'] = ['.', '.'] := by
      simp [percentEncode, hdot]
    rw [hplain]
    decide

theorem percentEncode_isSingleDot_iff {coded : Char → Bool} (hpercent : coded '%' = true)
    (hdot : coded '.' = false) (cs : List Char) :
    isSingleDot (percentEncode coded cs) = true ↔ cs = ['.'] := by
  constructor
  · intro h
    have hbytes := percentDecode_percentEncode hpercent cs
    rw [← List.append_nil (percentEncode coded cs),
      percentDecode_dot (isDot_of_isSingleDot h)] at hbytes
    exact Text.utf8Bytes_injective hbytes.symm
  · rintro rfl
    have hplain : percentEncode coded ['.'] = ['.'] := by
      simp [percentEncode, hdot]
    rw [hplain]
    decide

/-! ## Segments -/

/-- A segment that is a step in the path. -/
def IsStep (segment : List Char) : Prop :=
  segment = ['.'] ∨ segment = ['.', '.']

instance (segment : List Char) : Decidable (IsStep segment) :=
  inferInstanceAs (Decidable (_ ∨ _))

/-- The characters of a segment that are kept: tabs and line ends are left out. -/
def keptChars (segment : List Char) : List Char :=
  segment.filter fun c => !isDropped c

/-- The code of a segment that is appended to a path. -/
def segmentCode (type : SchemeType) (segment : List Char) : List Char :=
  percentEncode (codedInSegment type.isSpecial) (keptChars segment)

/-- Segments of which a lone empty one gives way. -/
def opened (parts : List (List Char)) : List (List Char) :=
  if parts = [[]] then [] else parts

theorem codedInSegment_percent (special : Bool) : codedInSegment special '%' = true := by
  cases special <;> decide

theorem codedInSegment_dot (special : Bool) : codedInSegment special '.' = false := by
  cases special <;> decide

theorem percentDecode_segmentCode (type : SchemeType) (segment : List Char) :
    percentDecode (Text.utf8Bytes (segmentCode type segment)) =
      Text.utf8Bytes (keptChars segment) :=
  percentDecode_percentEncode (codedInSegment_percent type.isSpecial) _

/-- The characters that part a path, or end it. -/
def Separates (type : SchemeType) (c : Char) : Prop :=
  c ∈ ['/', '?', '#'] ∨ type.isSpecial = true ∧ c = '\\'

/-- A coded segment has none of the characters that part a path or end it. -/
theorem not_separates_of_mem_segmentCode
    {type : SchemeType} {segment : List Char} {c : Char} (h : c ∈ segmentCode type segment) :
    ¬ Separates type c := by
  have hdigit : ∀ n < 16, upperHexDigit n ∉ ['/', '?', '#', '\\'] := by decide
  intro hseparates
  have hlisted : c ∈ ['/', '?', '#', '\\'] := by
    rcases hseparates with hc | ⟨-, rfl⟩
    · exact List.mem_append_left ['\\'] hc
    · decide
  rcases mem_percentEncode h with (rfl | ⟨n, hn, rfl⟩) | ⟨-, -, hplain⟩
  · exact absurd hlisted (by decide)
  · exact hdigit n hn hlisted
  · have hcoded : codedInSegment type.isSpecial c = true := by
      rcases hseparates with hc | ⟨hspecial, rfl⟩
      · simp only [List.mem_cons, List.not_mem_nil, or_false] at hc
        rcases hc with rfl | rfl | rfl <;> cases type.isSpecial <;> decide
      · rw [hspecial]
        decide
    rw [hplain] at hcoded
    cases hcoded

/-- What becomes of a path with one more segment. -/
theorem pushSegment_eq (type : SchemeType) (parts : List (List Char)) (segment : List Char) :
    pushSegment type parts segment =
      if IsStep segment then parts
      else if keptChars segment = ['.', '.'] then shorten type (opened parts) ++ [[]]
      else if keptChars segment = ['.'] then opened parts ++ [[]]
      else opened parts ++ [keptSegment type (opened parts) (segmentCode type segment)] := by
  have hpercent := codedInSegment_percent type.isSpecial
  have hdot := codedInSegment_dot type.isSpecial
  have hdouble := percentEncode_isDoubleDot_iff hpercent hdot (keptChars segment)
  have hsingle := percentEncode_isSingleDot_iff hpercent hdot (keptChars segment)
  by_cases hstep : IsStep segment
  · rw [if_pos hstep]
    exact if_pos hstep
  · have hpush :
        pushSegment type parts segment =
          resolveSegments type (opened parts) [segmentCode type segment] := if_neg hstep
    rw [if_neg hstep, hpush]
    simp only [resolveSegments, segmentCode, hdouble, hsingle, List.isEmpty_nil, if_true]

/-- A segment with other characters than dots is appended to other segments as it is coded. -/
theorem keptSegment_of_ne_nil {parts : List (List Char)} (h : parts ≠ []) (type : SchemeType)
    (segment : List Char) : keptSegment type parts segment = segment := by
  unfold keptSegment
  split
  · exact absurd rfl h
  · rfl

/-- The segments that a path is extended from: those without an empty one at the end, of which a
lone empty one gives way. -/
def root (parts : List (List Char)) : List (List Char) :=
  opened (popIfEmpty parts)

/-- A URL with other segments. -/
def withSegments (url : Url) (parts : List (List Char)) : Url :=
  { url with path := .segments parts }

end Url

namespace Website

open Url

/-- The segments between the path of the service and the segment of a website. -/
def servicePath : List (List Char) :=
  ["internal".toList, "websites".toList]

/-- What stands behind the path of the service in the URL of a website. -/
def ending (type : SchemeType) (id : List Char) : List (List Char) :=
  if IsStep id then servicePath
  else if keptChars id = ['.', '.'] then ["internal".toList, []]
  else if keptChars id = ['.'] then servicePath ++ [[]]
  else servicePath ++ [segmentCode type id]

theorem foldl_servicePath (type : SchemeType) (parts : List (List Char)) :
    servicePath.foldl (pushSegment type) parts = opened parts ++ servicePath := by
  have hinternal :
      pushSegment type parts "internal".toList = opened parts ++ ["internal".toList] := by
    have hkept :
        keptSegment type (opened parts) (segmentCode type "internal".toList) =
          "internal".toList := by
      cases type <;> cases opened parts <;> rfl
    rw [pushSegment_eq, if_neg (by decide), if_neg (by decide), if_neg (by decide), hkept]
  have hwebsites :
      pushSegment type (opened parts ++ ["internal".toList]) "websites".toList =
        opened parts ++ ["internal".toList] ++ ["websites".toList] := by
    have hne : opened parts ++ ["internal".toList] ≠ [[]] := by
      cases opened parts <;> simp
    have hcode : segmentCode type "websites".toList = "websites".toList := by
      cases type <;> rfl
    rw [pushSegment_eq, if_neg (by decide), if_neg (by decide), if_neg (by decide),
      opened, if_neg hne, keptSegment_of_ne_nil (by simp), hcode]
  rw [servicePath, List.foldl_cons, hinternal, List.foldl_cons, hwebsites]
  simp

theorem pushSegment_servicePath (type : SchemeType) (parts : List (List Char)) (id : List Char) :
    pushSegment type (parts ++ servicePath) id = parts ++ ending type id := by
  have hopened : opened (parts ++ servicePath) = parts ++ servicePath := by
    apply if_neg
    intro heq
    have hlength := congrArg List.length heq
    simp [servicePath] at hlength
  have hshorten : shorten type (parts ++ servicePath) = parts ++ ["internal".toList] := by
    unfold shorten
    split
    · rename_i hsingle
      have hlength := congrArg List.length hsingle
      simp [servicePath] at hlength
    · rw [List.dropLast_append_of_ne_nil (by simp [servicePath])]
      rfl
  have hkept :
      keptSegment type (parts ++ servicePath) (segmentCode type id) = segmentCode type id :=
    keptSegment_of_ne_nil (by simp [servicePath]) _ _
  rw [pushSegment_eq, hopened, hshorten, hkept]
  unfold ending
  split
  · rfl
  · split
    · simp
    · split
      · simp
      · simp

/-- The URL of a website. -/
theorem urlOf_eq {base : Url} {parts : List (List Char)} (h : base.path = .segments parts)
    (id : String) :
    urlOf base id =
      .ok (base.withSegments (root parts ++ ending (schemeType base.scheme) id.toList)) := by
  have hextend :
      base.extendPath? (segments id) =
        some (base.withSegments
          ((servicePath ++ [id.toList]).foldl (pushSegment (schemeType base.scheme))
            (popIfEmpty parts))) := by
    rw [extendPath?, h]
    rfl
  have hroot : opened (popIfEmpty parts) = root parts := rfl
  rw [urlOf, hextend, List.foldl_append, foldl_servicePath, hroot, List.foldl_cons, List.foldl_nil,
    pushSegment_servicePath]

/-- What stands behind the path of the service has no slash but those between segments. -/
theorem slash_not_mem_ending (type : SchemeType) (id : List Char) :
    ∀ part ∈ ending type id, '/' ∉ part := by
  have hservice : ∀ part ∈ servicePath, '/' ∉ part := by decide
  have hcode : '/' ∉ segmentCode type id := fun hmem =>
    not_separates_of_mem_segmentCode hmem (Or.inl (by decide))
  unfold ending
  split
  · exact hservice
  · split
    · decide
    · split
      · decide
      · intro part hpart
        rcases List.mem_append.mp hpart with hpart | hpart
        · exact hservice part hpart
        · rwa [List.mem_singleton.mp hpart]

theorem keptChars_ne_nil {id : String} (h : Text.isBlank id = false) :
    keptChars id.toList ≠ [] := by
  intro hnil
  rw [Text.isBlank, List.all_eq_false] at h
  obtain ⟨c, hc, hblank⟩ := h
  have hdropped := List.filter_eq_nil_iff.mp hnil c hc
  simp only [isDropped, Bool.not_eq_true', Bool.not_eq_false, Bool.or_eq_true,
    decide_eq_true_eq] at hdropped
  rcases hdropped with (rfl | rfl) | rfl
  · exact hblank (by decide)
  · exact hblank (by decide)
  · exact hblank (by decide)

/-- The bytes of the id that an ending stands for, if it has one. -/
def idBytes? : List (List Char) → Option (List UInt8)
  | [_, []] => some (Text.utf8Bytes ['.', '.'])
  | [_, _, []] => some (Text.utf8Bytes ['.'])
  | [_, _, segment] => some (percentDecode (Text.utf8Bytes segment))
  | _ => none

theorem idBytes?_ending (type : SchemeType) {id : List Char} (h : keptChars id ≠ []) :
    idBytes? (ending type id) =
      if IsStep id then none else some (Text.utf8Bytes (keptChars id)) := by
  unfold ending
  split
  · rfl
  · split
    · rename_i hkept
      rw [hkept]
      rfl
    · split
      · rename_i hkept
        rw [hkept]
        rfl
      · have hbytes := percentDecode_segmentCode type id
        cases hcode : segmentCode type id with
        | nil =>
            rw [hcode] at hbytes
            exact absurd (Text.utf8Bytes_injective hbytes.symm) h
        | cons c rest =>
            rw [hcode] at hbytes
            exact congrArg some hbytes

/-- Two ids that are asked for under one URL: both are steps, or they differ in tabs and line ends
only. -/
def Alike (a b : List Char) : Prop :=
  IsStep a ∧ IsStep b ∨ ¬ IsStep a ∧ ¬ IsStep b ∧ keptChars a = keptChars b

theorem ending_eq_iff
    (type : SchemeType) {a b : List Char} (ha : keptChars a ≠ []) (hb : keptChars b ≠ []) :
    ending type a = ending type b ↔ Alike a b := by
  constructor
  · intro h
    have hbytes := idBytes?_ending type ha
    rw [h, idBytes?_ending type hb] at hbytes
    by_cases hstepa : IsStep a <;> by_cases hstepb : IsStep b
    · exact Or.inl ⟨hstepa, hstepb⟩
    · simp [hstepa, hstepb] at hbytes
    · simp [hstepa, hstepb] at hbytes
    · rw [if_neg hstepa, if_neg hstepb, Option.some_inj] at hbytes
      exact Or.inr ⟨hstepa, hstepb, (Text.utf8Bytes_injective hbytes).symm⟩
  · rintro (⟨hstepa, hstepb⟩ | ⟨hstepa, hstepb, hkept⟩)
    · rw [ending, ending, if_pos hstepa, if_pos hstepb]
    · rw [ending, ending, if_neg hstepa, if_neg hstepb, segmentCode, segmentCode, hkept]

/-! ## Paths as texts -/

/-- The segments of a path are found between its slashes. -/
theorem splitOn_chars {parts : List (List Char)} (h : ∀ part ∈ parts, '/' ∉ part) :
    Text.splitOn '/' (Path.segments parts).chars = [] :: parts := by
  induction parts with
  | nil => rfl
  | cons part rest ih =>
      have hrest := ih fun other hother => h other (List.mem_cons_of_mem _ hother)
      have hchars :
          (Path.segments (part :: rest)).chars =
            [] ++ '/' :: (part ++ (Path.segments rest).chars) := by
        simp [Path.chars]
      rw [hchars, Text.splitOn_append_cons, Text.splitOn_append (h part List.mem_cons_self), hrest]
      simp [Text.splitOn]

/-- The target of a request for a URL with segments. -/
theorem target_withSegments (base : Url) {parts : List (List Char)} (h : parts ≠ []) :
    (base.withSegments parts).target =
      (Path.segments parts).chars ++
        match base.query with
        | none => []
        | some query => '?' :: query := by
  have hchars : (Path.segments parts).chars.isEmpty = false := by
    cases parts with
    | nil => exact absurd rfl h
    | cons part rest => rfl
  simp only [target, withSegments, hchars]
  rfl

/-- A path is extended from all of its segments, less an empty one at the end.  Two empty segments
give way both. -/
theorem root_cases (parts : List (List Char)) :
    parts = root parts ++ [[]] ∨ (root parts = parts ∧ parts.getLast? ≠ some []) ∨
      parts = [[], []] ∧ root parts = [] := by
  by_cases hlast : parts.getLast? = some []
  · obtain ⟨front, rfl⟩ := List.getLast?_eq_some_iff.mp hlast
    cases front with
    | nil => exact Or.inl rfl
    | cons part rest =>
        have hpop : popIfEmpty (part :: rest ++ [[]]) = part :: rest := by
          rw [popIfEmpty, if_neg (by simp), if_pos hlast, List.dropLast_concat]
        rw [root, hpop, opened]
        by_cases hlone : part :: rest = [[]]
        · rw [if_pos hlone, hlone]
          exact Or.inr (Or.inr ⟨rfl, rfl⟩)
        · rw [if_neg hlone]
          exact Or.inl rfl
  · have hpop : popIfEmpty parts = parts := by
      simp [popIfEmpty, hlast]
    have hlone : parts ≠ [[]] := by
      rintro rfl
      exact hlast rfl
    rw [root, hpop, opened, if_neg hlone]
    exact Or.inr (Or.inl ⟨rfl, hlast⟩)

theorem ending_ne_nil (type : SchemeType) (id : List Char) : ending type id ≠ [] := by
  unfold ending
  split
  · decide
  · split
    · decide
    · split <;> simp

theorem target_urlOf_eq_iff
    {base : Url} {parts : List (List Char)} (hbase : base.path = .segments parts) (a b : String) :
    (urlOf base a).map Url.target = (urlOf base b).map Url.target ↔
      ending (schemeType base.scheme) a.toList = ending (schemeType base.scheme) b.toList := by
  have hne : ∀ id, root parts ++ ending (schemeType base.scheme) id ≠ [] := fun id =>
    List.append_ne_nil_of_right_ne_nil _ (ending_ne_nil (schemeType base.scheme) id)
  have htarget : ∀ id : String, (urlOf base id).map Url.target = .ok
      ((Path.segments (root parts)).chars ++
        (Path.segments (ending (schemeType base.scheme) id.toList)).chars ++
          match base.query with
          | none => []
          | some query => '?' :: query) := by
    intro id
    rw [urlOf_eq hbase, Except.map, target_withSegments base (hne _)]
    simp [Path.chars]
  constructor
  · intro h
    rw [htarget, htarget, Except.ok.injEq, List.append_cancel_right_eq,
      List.append_cancel_left_eq] at h
    have hsplit := splitOn_chars (slash_not_mem_ending (schemeType base.scheme) a.toList)
    rw [h, splitOn_chars (slash_not_mem_ending (schemeType base.scheme) b.toList)] at hsplit
    exact (List.cons.inj hsplit).2.symm
  · intro h
    rw [htarget, htarget, h]

/-- The URL of a website names it by a segment: that stands behind the path of the service, the id
is read back from it, and it holds nothing that parts a path or ends it. -/
structure NamedBy (base : Url) (parts : List (List Char)) (id : String) (segment : List Char) :
    Prop where
  url : urlOf base id =
    .ok (base.withSegments (root parts ++ ["internal".toList, "websites".toList, segment]))
  bytes : percentDecode (Text.utf8Bytes segment) = Text.utf8Bytes id.toList
  closed : ∀ c ∈ segment, ¬ Separates (schemeType base.scheme) c

theorem keptChars_eq_iff (id : List Char) :
    keptChars id = id ↔ ∀ c ∈ id, isDropped c = false := by
  simp [keptChars]

theorem exists_namedBy_iff
    {base : Url} {parts : List (List Char)} (hbase : base.path = .segments parts) (id : String) :
    (∃ segment, NamedBy base parts id segment) ↔
      ¬ IsStep id.toList ∧ ∀ c ∈ id.toList, isDropped c = false := by
  rw [← keptChars_eq_iff]
  constructor
  · rintro ⟨segment, hurl, hbytes, -⟩
    have hending :
        ending (schemeType base.scheme) id.toList =
          ["internal".toList, "websites".toList, segment] := by
      rw [urlOf_eq hbase, Except.ok.injEq] at hurl
      have hpath := congrArg Url.path hurl
      exact List.append_cancel_left (Path.segments.inj hpath)
    unfold ending at hending
    split at hending
    · simp [servicePath] at hending
    · rename_i hstep
      refine ⟨hstep, ?_⟩
      split at hending
      · simp at hending
      · split at hending
        · rename_i hkept
          simp only [servicePath, List.cons_append, List.nil_append, List.cons.injEq, and_true,
            true_and] at hending
          subst hending
          have hnil : id.toList = [] := Text.utf8Bytes_injective hbytes.symm
          rw [hnil] at hkept
          cases hkept
        · simp only [servicePath, List.cons_append, List.nil_append, List.cons.injEq, and_true,
            true_and] at hending
          subst hending
          rw [percentDecode_segmentCode] at hbytes
          exact Text.utf8Bytes_injective hbytes
  · rintro ⟨hstep, hkept⟩
    have hdots : keptChars id.toList ≠ ['.', '.'] ∧ keptChars id.toList ≠ ['.'] := by
      rw [hkept]
      exact ⟨fun h => hstep (Or.inr h), fun h => hstep (Or.inl h)⟩
    refine ⟨segmentCode (schemeType base.scheme) id.toList, ?_, ?_, ?_⟩
    · rw [urlOf_eq hbase, ending, if_neg hstep, if_neg hdots.1, if_neg hdots.2]
      rfl
    · rw [percentDecode_segmentCode, hkept]
    · intro c hc
      exact not_separates_of_mem_segmentCode hc

/-- The URL of a website extends the path of the service, less a slash at its end.  It names exactly
those ids that are no step in a path and hold no tab or line end.  Two ids that are not blank are
asked for under one URL when both are steps, or when they differ in tabs and line ends only. -/
theorem urlOf_names_iff
    {base : Url} {parts : List (List Char)} (hbase : base.path = .segments parts) :
    (∀ id : String, urlOf base id =
      .ok (base.withSegments (root parts ++ ending (schemeType base.scheme) id.toList))) ∧
    (parts = root parts ++ [[]] ∨ (root parts = parts ∧ parts.getLast? ≠ some []) ∨
      parts = [[], []] ∧ root parts = []) ∧
    (∀ id : String, (∃ segment, NamedBy base parts id segment) ↔
      ¬ IsStep id.toList ∧ ∀ c ∈ id.toList, isDropped c = false) ∧
    ∀ a b : String, Text.isBlank a = false → Text.isBlank b = false →
      ((urlOf base a).map Url.target = (urlOf base b).map Url.target ↔
        Alike a.toList b.toList) := by
  refine ⟨urlOf_eq hbase, root_cases parts, exists_namedBy_iff hbase, ?_⟩
  intro a b ha hb
  rw [target_urlOf_eq_iff hbase]
  exact ending_eq_iff _ (keptChars_ne_nil ha) (keptChars_ne_nil hb)

/-- A service with an empty path. -/
def websiteService : Url where
  scheme := "http".toList
  username := []
  password := []
  host := some (.domain "websites".toList)
  port := some 8080
  path := .segments [[]]
  query := none
  fragment := none

/-- An id with a slash and a question mark is named, and it is told from the one that it is coded
as. -/
theorem urlOf_names_coded :
    websiteService.path = .segments [[]] ∧
      (urlOf websiteService "a/b?c").map Url.target = .ok "/internal/websites/a%2Fb%3Fc".toList ∧
      (∃ segment, NamedBy websiteService [[]] "a/b?c" segment) ∧
      (urlOf websiteService "a/b?c").map Url.target ≠
        (urlOf websiteService "a%2Fb%3Fc").map Url.target := by
  have hbase : websiteService.path = .segments [[]] := rfl
  obtain ⟨hurl, -, hnamed, halike⟩ := urlOf_names_iff hbase
  have hkept : ∀ c ∈ "a/b?c".toList, isDropped c = false := by
    simp [isDropped]
  refine ⟨hbase, ?_, (hnamed "a/b?c").mpr ⟨by decide, hkept⟩, ?_⟩
  · rw [hurl]
    rfl
  · rw [Ne, halike "a/b?c" "a%2Fb%3Fc" (by decide) (by decide)]
    unfold Alike
    decide

/-- Two dots are no segment, or they take the place of one when a tab between them is left out.  An
id with a tab is asked for under the URL of another one. -/
theorem urlOf_confuses :
    Text.isBlank ".." = false ∧
      (urlOf websiteService "..").map Url.target = .ok "/internal/websites".toList ∧
      (urlOf websiteService ".\t.").map Url.target = .ok "/internal/".toList ∧
      (∀ segment, ¬ NamedBy websiteService [[]] ".." segment) ∧
      Text.isBlank "a\tb" = false ∧ Text.isBlank "ab" = false ∧
      (urlOf websiteService "a\tb").map Url.target =
        (urlOf websiteService "ab").map Url.target := by
  refine ⟨by decide, rfl, rfl, ?_, by decide, by decide, rfl⟩
  intro segment hnamed
  exact ((exists_namedBy_iff rfl "..").mp ⟨segment, hnamed⟩).1 (Or.inr rfl)

end Website
end AnalyticsQuery
