import AnalyticsQuery.Proofs.Json.Record
import AnalyticsQuery.Proofs.Url.Form
import AnalyticsQuery.Service.Dispatch
import Mathlib.Control.Monad.Basic

/-!
# Buckets and websites

Two readers look for the website in a query string.  The caller is read from
decoded pairs, under both names of the website and in any coding.  The bucket of
a request is named after the website as it is written, under a name that has to
be written out.

Both readers look at the same part of the query string: a caller who names a
website does so in one part only.  So the bucket of a request is named by the
letters of that part, or by the address of the caller where the name of the part
is coded, and one website has as many buckets as there are ways to write it.

* `websites_of_ofPairs`: the pairs that name a website are none or one.
* `writtenWebsite?_of_writes`: what the second reader makes of the part that the
  first one reads.
* `rateKey_eq_iff_written`: when two requests for a website draw from one bucket.
-/

namespace AnalyticsQuery

open Url

/-! ## The website of the caller -/

/-- The field for the website of a caller. -/
def TenantParams.websiteField : Json.Field (Option String) :=
  textField "website_id" ["websiteId"]

/-- Of the pairs of a query string, one names the website of the caller and no other names any. -/
theorem TenantParams.websites_of_ofPairs
    {pairs : List (String × String)} {params : TenantParams} (h : ofPairs pairs = .ok params) :
    (pairs.filter fun pair => websiteField.named pair.1).map Prod.snd =
      params.websiteId.toList := by
  simp only [ofPairs, decoder, Json.Decoder.refine] at h
  split at h
  · cases h
  · rename_i r hrecord
    cases h
    obtain ⟨s, hread, hfinish⟩ := Json.Decoder.of_record_closed hrecord
    have hslot :
        s.1.toList =
          (pairs.filter fun pair => websiteField.named pair.1).map fun pair => some pair.2 :=
      Json.Fields.slot_readMembers some (fun _ => rfl) hread
    have hfirst : (s.1 <|> some none) = some r.1 := Json.Fields.first_of_finish hfinish
    cases hwebsite : s.1 with
    | none =>
        rw [hwebsite] at hslot hfirst
        have hnone : none = r.1 := Option.some.inj hfirst
        simpa [← hnone] using hslot
    | some website =>
        rw [hwebsite] at hslot hfirst
        have hsome : website = r.1 := Option.some.inj hfirst
        rcases hnamed : pairs.filter fun pair => websiteField.named pair.1 with
          _ | ⟨pair, others⟩
        · simp [hnamed] at hslot
        · simp only [hnamed, Option.toList_some, List.map_cons, List.cons.injEq] at hslot
          obtain ⟨hpair, hothers⟩ := hslot
          have hnil : others = [] := List.map_eq_nil_iff.mp hothers.symm
          rw [hnamed, hnil, ← hsome, hpair]
          rfl

theorem TenantParams.named_websiteField (name : String) :
    websiteField.named name = Service.Request.isWebsiteName name.toList := by
  rw [Bool.eq_iff_iff]
  simp [websiteField, textField, Json.Field.withDefault, Json.Field.named,
    Service.Request.isWebsiteName, ← String.toList_inj]

namespace Service
namespace Request

/-- The parts of a query string. -/
def parts (r : Request) : List (List Char) :=
  Text.splitOn '&' (r.query.getD [])

/-- Whether a part of a query string names a website, once it is decoded. -/
def namesWebsite (part : List Char) : Bool :=
  !part.isEmpty && isWebsiteName (Form.decodePair part).1.toList

/-- Of the parts of a query string, one names the website of the caller and no other names any. -/
theorem websiteParts_of_caller
    {r : Request} {c : Caller} (h : Caller.ofRequest r = .ok c) :
    (r.parts.filter namesWebsite).map (fun part => (Form.decodePair part).2) =
      c.params.websiteId.toList := by
  unfold Caller.ofRequest at h
  split at h
  · cases h
  · rename_i params hparams
    cases h
    rw [← TenantParams.websites_of_ofPairs hparams]
    simp only [Form.decode, parts, List.filter_map, List.filter_filter, List.map_map,
      TenantParams.named_websiteField, Function.comp_def]
    congr 1
    apply List.filter_congr
    intro part _
    rw [namesWebsite, Bool.and_comm]

theorem caller_website
    {c : Caller} {id : String} (h : c.websiteId = some id) :
    c.params.websiteId = some id ∧ Text.isBlank id = false := by
  simpa [Caller.websiteId, Tenant.unlessBlank, Option.filter_eq_some_iff] using h

/-- A name of a website that is written out is read as it is written. -/
theorem decodePart_of_isWebsiteName
    {name : List Char} (h : isWebsiteName name = true) :
    Form.decodePart name = String.ofList name := by
  apply Form.decodePart_of_plain
  simp only [isWebsiteName, Bool.or_eq_true, beq_iff_eq] at h
  rcases h with rfl | rfl
  · decide
  · decide

/-- The part that names a bucket names a website. -/
theorem namesWebsite_of_pairWebsite?
    {part : List Char} {id : String} (h : pairWebsite? part = some id) :
    namesWebsite part = true := by
  unfold pairWebsite? at h
  split at h
  · rename_i name value hsplit
    split at h
    · rename_i hname
      rw [Bool.and_eq_true] at hname
      have hread := decodePart_of_isWebsiteName hname.1
      cases part with
      | nil => cases hsplit
      | cons c rest => simp [namesWebsite, Form.decodePair, hsplit, hread, hname.1]
    · cases h
  · cases h

/-! ## The part that names a website -/

/-- What stands around the first equals sign of a part that names a website. -/
structure Spelling where
  name : List Char
  value : List Char

/-- The query string of a request names a website in this spelling. -/
structure Writes (r : Request) (w : Spelling) : Prop where
  part : ∃ part ∈ r.parts, Text.splitFirst '=' part = (w.name, some w.value)
  website : isWebsiteName (Form.decodePart w.name).toList = true

/-- A caller who names a website does so in one part, whose value is read as that website. -/
theorem filter_namesWebsite_eq
    {r : Request} {c : Caller} {id : String} (h : Caller.ofRequest r = .ok c)
    (hid : c.websiteId = some id) :
    ∃ part name value, r.parts.filter namesWebsite = [part] ∧
      Text.splitFirst '=' part = (name, some value) ∧ value ≠ [] ∧
      Form.decodePart value = id := by
  obtain ⟨hwebsite, hblank⟩ := caller_website hid
  have hparts := websiteParts_of_caller h
  rw [hwebsite, Option.toList_some, List.map_eq_singleton_iff] at hparts
  obtain ⟨part, hfilter, hread⟩ := hparts
  rcases hsplit : Text.splitFirst '=' part with ⟨name, _ | value⟩
  · -- A part without an equals sign gives an empty website, which is blank.
    simp only [Form.decodePair, hsplit] at hread
    rw [← hread] at hblank
    cases hblank
  · simp only [Form.decodePair, hsplit] at hread
    refine ⟨part, name, value, hfilter, hsplit, ?_, hread⟩
    rintro rfl
    have hempty : Form.decodePart [] = "" := Form.decodePart_of_plain rfl
    rw [← hread, hempty] at hblank
    cases hblank

theorem exists_writes
    {r : Request} {c : Caller} {id : String} (h : Caller.ofRequest r = .ok c)
    (hid : c.websiteId = some id) :
    ∃ w, r.Writes w := by
  obtain ⟨part, name, value, hfilter, hsplit, -, -⟩ := filter_namesWebsite_eq h hid
  have hmem : part ∈ r.parts.filter namesWebsite := by
    simp [hfilter]
  obtain ⟨hpart, hnames⟩ := List.mem_filter.mp hmem
  simp only [namesWebsite, Form.decodePair, hsplit, Bool.and_eq_true] at hnames
  exact ⟨⟨name, value⟩, ⟨part, hpart, hsplit⟩, hnames.2⟩

theorem findSome?_filter
    {α β : Type} {f : α → Option β} {p : α → Bool} (h : ∀ a b, f a = some b → p a = true)
    (l : List α) :
    (l.filter p).findSome? f = l.findSome? f := by
  induction l with
  | nil => rfl
  | cons a rest ih =>
      cases hf : f a with
      | none =>
          cases hp : p a <;> simp [hf, hp, ih]
      | some b => simp [hf, h a b hf]

theorem writtenWebsite?_eq (r : Request) :
    r.writtenWebsite? = r.parts.findSome? pairWebsite? := by
  unfold writtenWebsite? parts
  cases r.query with
  | none => rfl
  | some query => rfl

/-- The part that names the website of the caller gives the bucket its name, as it is written. -/
theorem writtenWebsite?_of_writes
    {r : Request} {c : Caller} {id : String} (h : Caller.ofRequest r = .ok c)
    (hid : c.websiteId = some id) {w : Spelling} (hw : r.Writes w) :
    Form.decodePart w.value = id ∧
      r.writtenWebsite? = if isWebsiteName w.name then some (String.ofList w.value) else none := by
  obtain ⟨part, name, value, hfilter, hsplit, hvalue, hread⟩ := filter_namesWebsite_eq h hid
  obtain ⟨⟨part', hpart', hsplit'⟩, hwebsite⟩ := hw
  have hmem : part' ∈ r.parts.filter namesWebsite := by
    rw [List.mem_filter]
    refine ⟨hpart', ?_⟩
    cases part' with
    | nil => simp [Text.splitFirst] at hsplit'
    | cons a rest => simp [namesWebsite, Form.decodePair, hsplit', hwebsite]
  rw [hfilter, List.mem_singleton] at hmem
  subst hmem
  rw [hsplit] at hsplit'
  cases hsplit'
  refine ⟨hread, ?_⟩
  rw [writtenWebsite?_eq, ← findSome?_filter fun _ _ => namesWebsite_of_pairWebsite?, hfilter]
  simp [pairWebsite?, hsplit, hvalue]

/-! ## Buckets -/

/-- The bucket of a website, under the letters that it is written with. -/
def websiteKey (written : List Char) : String :=
  "website:" ++ String.ofList written

/-- The bucket of a request that does not write out a website. -/
def addressKey (r : Request) : String :=
  match clientAddress? r.headers with
  | some address => "ip:" ++ address
  | none => "anonymous"

theorem websiteKey_inj {written written' : List Char} :
    websiteKey written = websiteKey written' ↔ written = written' := by
  simp [websiteKey, ← String.toList_inj]

/-- No address names the bucket of a website. -/
theorem websiteKey_ne_addressKey (written : List Char) (r : Request) :
    websiteKey written ≠ r.addressKey := by
  unfold addressKey
  cases clientAddress? r.headers with
  | none => simp [websiteKey, ← String.toList_inj]
  | some address => simp [websiteKey, ← String.toList_inj]

/-- The bucket of a website has its name from the part that names the website, if the name of that
part is written out. -/
theorem rateKey_of_writes
    {r : Request} {c : Caller} {id : String} (h : Caller.ofRequest r = .ok c)
    (hid : c.websiteId = some id) {w : Spelling} (hw : r.Writes w) :
    r.rateKey = if isWebsiteName w.name then websiteKey w.value else r.addressKey := by
  rw [rateKey, (writtenWebsite?_of_writes h hid hw).2]
  by_cases hname : isWebsiteName w.name = true
  · rw [if_pos hname, if_pos hname]
    rfl
  · rw [if_neg hname, if_neg hname]
    rfl

/-- A spelling in which no character is coded. -/
def Spelling.isPlain (w : Spelling) : Bool :=
  Form.isPlain w.name && Form.isPlain w.value

theorem rateKey_of_plain
    {r : Request} {c : Caller} {id : String} (h : Caller.ofRequest r = .ok c)
    (hid : c.websiteId = some id) {w : Spelling} (hw : r.Writes w) (hplain : w.isPlain = true) :
    r.rateKey = "website:" ++ id := by
  rw [Spelling.isPlain, Bool.and_eq_true] at hplain
  have hname : isWebsiteName w.name = true := by
    have hread := hw.website
    rwa [Form.decodePart_of_plain hplain.1, String.toList_ofList] at hread
  have hvalue := (writtenWebsite?_of_writes h hid hw).1
  rw [Form.decodePart_of_plain hplain.2] at hvalue
  rw [rateKey_of_writes h hid hw, if_pos hname, websiteKey, hvalue]

/-- Two requests for one website each name it in one part of their query strings.  They draw from
one bucket when these parts code nothing.  In general they do so exactly when both parts write out
the name and agree in the letters of the value, or when neither writes out the name and the callers
have one address. -/
theorem rateKey_eq_iff_written
    {r r' : Request} {c c' : Caller} {id : String}
    (h : Caller.ofRequest r = .ok c) (hid : c.websiteId = some id)
    (h' : Caller.ofRequest r' = .ok c') (hid' : c'.websiteId = some id) :
    (∃ w, r.Writes w) ∧ (∃ w', r'.Writes w') ∧
      ∀ w w', r.Writes w → r'.Writes w' →
        (w.isPlain = true → w'.isPlain = true → r.rateKey = r'.rateKey) ∧
        (r.rateKey = r'.rateKey ↔
          isWebsiteName w.name = true ∧ isWebsiteName w'.name = true ∧ w.value = w'.value ∨
            isWebsiteName w.name = false ∧ isWebsiteName w'.name = false ∧
              r.addressKey = r'.addressKey) := by
  refine ⟨exists_writes h hid, exists_writes h' hid', ?_⟩
  intro w w' hw hw'
  constructor
  · intro hplain hplain'
    rw [rateKey_of_plain h hid hw hplain, rateKey_of_plain h' hid' hw' hplain']
  · rw [rateKey_of_writes h hid hw, rateKey_of_writes h' hid' hw']
    cases isWebsiteName w.name with
    | true =>
        cases isWebsiteName w'.name with
        | true => simp [websiteKey_inj]
        | false => simp [websiteKey_ne_addressKey]
    | false =>
        cases isWebsiteName w'.name with
        | true => simp [(websiteKey_ne_addressKey w'.value r).symm]
        | false => simp

/-- A request for the pages of a website, with a query string. -/
def pagesRequest (query : String) : Request where
  method := "POST"
  path := "/query"
  query := some query.toList
  headers := []
  body := ""

/-- The caller of such a request who names the website `site_test`. -/
def testCaller : Caller where
  params := ⟨some "site_test", none, none, none⟩
  headerTimezone := none

/-- Both names of the website lead to one bucket, in any place of the query string. -/
theorem rateKey_eq_plain :
    Caller.ofRequest (pagesRequest "website_id=site_test") = .ok testCaller ∧
      Caller.ofRequest (pagesRequest "page=2&websiteId=site_test") = .ok testCaller ∧
      testCaller.websiteId = some "site_test" ∧
      (pagesRequest "website_id=site_test").rateKey =
        (pagesRequest "page=2&websiteId=site_test").rateKey := by
  have h : Caller.ofRequest (pagesRequest "website_id=site_test") = .ok testCaller := by
    decide +kernel
  have h' : Caller.ofRequest (pagesRequest "page=2&websiteId=site_test") = .ok testCaller := by
    decide +kernel
  have hid : testCaller.websiteId = some "site_test" := by
    decide +kernel
  refine ⟨h, h', hid, ?_⟩
  obtain ⟨-, -, hkeys⟩ := rateKey_eq_iff_written h hid h' hid
  have hw : (pagesRequest "website_id=site_test").Writes
      ⟨"website_id".toList, "site_test".toList⟩ :=
    ⟨⟨"website_id=site_test".toList, by decide +kernel, by decide +kernel⟩, by decide +kernel⟩
  have hw' : (pagesRequest "page=2&websiteId=site_test").Writes
      ⟨"websiteId".toList, "site_test".toList⟩ :=
    ⟨⟨"websiteId=site_test".toList, by decide +kernel, by decide +kernel⟩, by decide +kernel⟩
  exact (hkeys _ _ hw hw').1 (by decide +kernel) (by decide +kernel)

/-- A coded letter in the value or in the name of the website gives the same caller another bucket,
so that a second token is handed out where the limit is one. -/
theorem rateKey_ne_coded :
    Caller.ofRequest (pagesRequest "website_id=site_test") = .ok testCaller ∧
      Caller.ofRequest (pagesRequest "website_id=site%5Ftest") = .ok testCaller ∧
      Caller.ofRequest (pagesRequest "website%5Fid=site_test") = .ok testCaller ∧
      testCaller.websiteId = some "site_test" ∧
      (pagesRequest "website_id=site_test").rateKey = "website:site_test" ∧
      (pagesRequest "website_id=site%5Ftest").rateKey = "website:site%5Ftest" ∧
      (pagesRequest "website%5Fid=site_test").rateKey = "anonymous" ∧
      ∃ limiter : RateLimiter,
        limiter = ((RateLimiter.start ⟨0, 1⟩).check 0
          (pagesRequest "website_id=site_test").rateKey).2 ∧
        (limiter.check 0 (pagesRequest "website_id=site_test").rateKey).1 = .rejected 1 ∧
        (limiter.check 0 (pagesRequest "website_id=site%5Ftest").rateKey).1 = .allowed ∧
        (limiter.check 0 (pagesRequest "website%5Fid=site_test").rateKey).1 = .allowed := by
  refine ⟨?_, ?_, ?_, ?_, ?_, ?_, ?_, _, rfl, ?_, ?_, ?_⟩ <;> decide +kernel

end Request
end Service
end AnalyticsQuery
