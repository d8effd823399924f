import AnalyticsQuery.Proofs.Query.ConfigReadBack
import AnalyticsQuery.Service.CompileRequest

/-!
# Bodies of free queries and of previews

The body of a free query keeps the configuration in an object of its own.  The
body of a preview lays the members of the configuration out beside those of its
scope, and names the unit of time differently.  In both, a member that says nothing
may be written or left out.

A request carries a JSON value when its body is a JSON text that spells the value.
Then the value is what the service reads, in whatever order the members of its
objects stand.

* `CustomRequest.readsBack`, `CompileRequest.readsBack`: both kinds of bodies are
  read back from what they are written as.
* `Request.payload_of_carries`: a request that carries what was written has it as
  its payload.
* `Request.carries_of_chars`: what a request carries can be computed from the
  characters of its body.
-/

namespace AnalyticsQuery

open Json

theorem Text.utf8ByteSize_le (s : String) : s.utf8ByteSize ≤ 4 * s.toList.length := by
  have hsize : s.utf8ByteSize = (s.toList.flatMap String.utf8EncodeChar).length := by
    conv_lhs => rw [← String.ofList_toList (s := s)]
    simp only [← String.size_toByteArray, String.toByteArray_ofList, List.utf8Encode,
      List.size_toByteArray]
  rw [hsize]
  induction s.toList with
  | nil => simp
  | cons c cs ih =>
      have hfirst := c.utf8Size_le_four
      rw [List.flatMap_cons, List.length_append, String.length_utf8EncodeChar, List.length_cons]
      omega

theorem Json.Document.draft_ofText (text : String) :
    (ofText text).draft = (readValue (2 * text.toList.length + 2) text.toList).1 := by
  simp only [ofText]
  split <;> simp_all

/-! ## What bodies are written as -/

/-- A free query as a JSON value.  What says nothing in it is written only if `shown` says so: a
member without a value, then as null, and an empty list of filters or group keys. -/
def CustomRequest.jsonShowing (shown : String → Bool) (r : CustomRequest) : Json :=
  .ofDict (Dict.ofList (List.flatten
    [ [("query", r.query.jsonShowing shown)],
      optionalMember shown "websiteId" .str r.websiteId,
      [("startDate", .str r.startDate), ("endDate", .str r.endDate)],
      optionalMember shown "timezone" .str r.timezone,
      optionalMember shown "limit" .ofUInt32 r.limit ]))

theorem CustomRequest.readsBack (shown : String → Bool) :
    decoder.ReadsBack (jsonShowing shown) 5 := by
  refine Decoder.readsBack_record
    (fun r => (r.query, r.websiteId, r.startDate, r.endDate, r.timezone, r.limit, ())) _
    (by decide) (fun _ => rfl) ?_
  intro q r hq
  have hflat : q.Holds 0 := hq.mono (Nat.zero_le 4)
  refine .given (Config.readsBack_showing shown) hq r.query ?_
  refine .optionalMember Decoder.readsBack_string nofun hflat _ r.websiteId ?_
  refine .given Decoder.readsBack_string hflat r.startDate ?_
  refine .given Decoder.readsBack_string hflat r.endDate ?_
  refine .optionalMember Decoder.readsBack_string nofun hflat _ r.timezone ?_
  exact .optionalMember Decoder.readsBack_uint32 nofun hflat _ r.limit .nil

namespace Service

/-- A request to compile as a JSON value, with the members of its configuration beside the others.
What says nothing in it is written only if `shown` says so. -/
def CompileRequest.jsonShowing (shown : String → Bool) (r : CompileRequest) : Json :=
  .ofDict (Dict.ofList (List.flatten
    [ optionalMember shown "websiteId" .str r.websiteId,
      [ ("table", .str r.config.table),
        ("selects", .arr (r.config.selects.map Selection.json)) ],
      listMember shown "filters" (fun l => .arr (l.map Filter.json)) r.config.filters,
      listMember shown "groupBy" .texts r.config.groupBy,
      [("startDate", .str r.startDate), ("endDate", .str r.endDate)],
      optionalMember shown "timeUnit" TimeUnit.json r.config.timeBucket,
      optionalMember shown "timezone" .str r.timezone,
      optionalMember shown "limit" .ofUInt32 r.limit,
      optionalMember shown "offset" .ofUInt32 r.offset ]))

theorem CompileRequest.readsBack (shown : String → Bool) :
    decoder.ReadsBack (jsonShowing shown) 4 := by
  refine Decoder.readsBack_record
    (fun r => (r.websiteId, r.config.table, r.config.selects, r.config.filters, r.config.groupBy,
      r.startDate, r.endDate, r.config.timeBucket, r.timezone, r.limit, r.offset, ())) _
    (by decide) (fun _ => rfl) ?_
  intro q r hq
  have hflat : q.Holds 0 := hq.mono (Nat.zero_le 3)
  refine .optionalMember Decoder.readsBack_string nofun hflat _ r.websiteId ?_
  refine .given Decoder.readsBack_string hflat r.config.table ?_
  refine .given Selection.readsBack.list (hq.mono (by decide)) r.config.selects ?_
  refine .listMember Filter.readsBack.list hq _ r.config.filters ?_
  refine .listMember Decoder.readsBack_string.list (hq.mono (by decide)) _ r.config.groupBy ?_
  refine .given Decoder.readsBack_string hflat r.startDate ?_
  refine .given Decoder.readsBack_string hflat r.endDate ?_
  refine .optionalMember TimeUnit.readsBack nofun hflat _ r.config.timeBucket ?_
  refine .optionalMember Decoder.readsBack_string nofun hflat _ r.timezone ?_
  refine .optionalMember Decoder.readsBack_uint32 nofun hflat _ r.limit ?_
  exact .optionalMember Decoder.readsBack_uint32 nofun hflat _ r.offset .nil

/-! ## What a request carries -/

/-- A request that says that its body is JSON, and whose body spells a value. -/
structure Request.Carries (r : Request) (v : Json) : Prop where
  hasJson : r.hasJson = true
  fits : r.body.utf8ByteSize ≤ maxBodyBytes
  spelled : v.isSpelledBy (Document.ofText r.body).draft = true

/-- A request that carries what was written has it as its payload. -/
theorem Request.payload_of_carries
    {α : Type} {decode : Decoder α} {write : α → Json} {depth : Nat}
    (h : decode.ReadsBack write depth) (hdepth : depth ≤ maxDepth)
    {r : Request} {a : α} (hbody : r.Carries (write a)) :
    r.payload decode = .ok a := by
  have hread : decodeBeginning decode r.body = .ok a :=
    h (.text maxDepth) a _ hdepth hbody.spelled
  have hfits : ¬ maxBodyBytes < r.body.utf8ByteSize := Nat.not_lt.mpr hbody.fits
  simp only [payload, hbody.hasJson, hfits, hread]
  rfl

theorem Request.carries_of_chars
    {r : Request} {v : Json} {cs : List Char} (hbody : r.body = String.ofList cs)
    (hjson : r.hasJson = true) (hfits : 4 * cs.length ≤ maxBodyBytes)
    (hspelled : v.isSpelledBy (readValue (2 * cs.length + 2) cs).1 = true) :
    r.Carries v where
  hasJson := hjson
  fits := by
    have hsize := Text.utf8ByteSize_le r.body
    rw [hbody, String.toList_ofList] at hsize
    rw [hbody]
    exact Nat.le_trans hsize hfits
  spelled := by
    rw [Document.draft_ofText, hbody, String.toList_ofList]
    exact hspelled

end Service
end AnalyticsQuery
