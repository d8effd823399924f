import AnalyticsQuery.Proofs.Engine.ParameterIsolation

/-!
# The requests of a batch do not disturb each other

A batch is a list of JSON values, and nothing is known of them: a value may be
no request at all, or one without parameters.  Each value has a slot of its own
in the result of the batch.

The directory of websites is asked anew for each slot.  As long as it answers
the same question in the same way, whatever its state, a slot holds what its
value gives when it is decoded and run alone, and the store receives the calls
of the slots one after another.

* `runSlot_eq_alone`: the step, one slot does not depend on the state in which
  the slots in front of it left the directory.
* `runSlots_eq_map_alone`: the run, all slots of a list.
* `runBatch_isolates_slots`: batches, those that are too long included.
-/

namespace AnalyticsQuery

/-- A directory that gives a website the same domain whenever it is asked. -/
def Directory.Knows {σ : Type} (directory : Directory σ) (domain : String → Option String) :
    Prop :=
  ∀ id s, (directory id s).1 = domain id

/-- The directory of given domains. -/
def Directory.ofDomains (domain : String → Option String) : Directory Unit :=
  fun id s => (domain id, s)

/-- A value that does not decode to a request, or to one of a wrong shape. -/
def BatchRequest.IsMalformed (raw : Json) : Prop :=
  ∀ request, Json.decode BatchRequest.decoder raw = .ok request → request.hasShape = false

namespace Engine

variable (engine : Engine) (store : Store) (tenant : Tenant)

/-- A value that is decoded and run alone. -/
def alone (domain : String → Option String) (raw : Json) :
    Executed (Except Error BatchResponse) :=
  match Json.decode BatchRequest.decoder raw with
  | .error e => ⟨.error (.serialization e.message), []⟩
  | .ok request => (engine.run store (Directory.ofDomains domain) tenant request ()).1

theorem run_of_not_hasShape
    {σ : Type} (directory : Directory σ) {request : BatchRequest}
    (h : request.hasShape = false) (s : σ) :
    engine.run store directory tenant request s =
      (⟨.error BatchRequest.shapeError, []⟩, s) := by
  have hno : ¬ request.hasShape = true := by simp [h]
  rw [run, if_neg hno]

/-- A run sees no more of the directory than the domain of its tenant. -/
theorem run_congr
    {σ τ : Type} {directory : Directory σ} {directory' : Directory τ} {s : σ} {t : τ}
    (h : (directory tenant.websiteId s).1 = (directory' tenant.websiteId t).1)
    (request : BatchRequest) :
    (engine.run store directory tenant request s).1 =
      (engine.run store directory' tenant request t).1 := by
  cases hshape : request.hasShape with
  | true => rw [run_of_hasShape (h := hshape), run_of_hasShape (h := hshape), h]
  | false => rw [run_of_not_hasShape (h := hshape), run_of_not_hasShape (h := hshape)]

theorem alone_of_decode
    (domain : String → Option String) {raw : Json} {request : BatchRequest}
    (h : Json.decode BatchRequest.decoder raw = .ok request) :
    engine.alone store tenant domain raw =
      (engine.run store (Directory.ofDomains domain) tenant request ()).1 := by
  rw [alone, h]

/-- A value gives no calls and an error exactly when it is no request of the right shape. -/
theorem alone_eq_error_iff
    (domain : String → Option String) (raw : Json) :
    (∃ e : Error, e.kind = .request ∧
        engine.alone store tenant domain raw = ⟨.error e, []⟩) ↔
      BatchRequest.IsMalformed raw := by
  constructor
  · rintro ⟨e, -, he⟩ request hrequest
    rw [alone_of_decode (h := hrequest)] at he
    cases hshape : request.hasShape with
    | false => rfl
    | true =>
        rw [run_of_hasShape (h := hshape)] at he
        simp [Executed.map] at he
  · intro hmalformed
    cases hdecode : Json.decode BatchRequest.decoder raw with
    | error e =>
        refine ⟨.serialization e.message, rfl, ?_⟩
        rw [alone, hdecode]
    | ok request =>
        refine ⟨BatchRequest.shapeError, rfl, ?_⟩
        rw [alone_of_decode (h := hdecode), run_of_not_hasShape (h := hmalformed request hdecode)]

variable {σ : Type} {directory : Directory σ} {domain : String → Option String}

/-- The state of the directory has no influence on a slot. -/
theorem runSlot_eq_alone
    (h : directory.Knows domain) (raw : Json) (s : σ) :
    (engine.runSlot store directory tenant raw s).1 = engine.alone store tenant domain raw := by
  unfold runSlot alone
  cases Json.decode BatchRequest.decoder raw with
  | error e => rfl
  | ok request => exact engine.run_congr store tenant (h tenant.websiteId s) request

/-- The slots of a list are its values, each run alone. -/
theorem runSlots_eq_map_alone
    (h : directory.Knows domain) (requests : List Json) (s : σ) :
    (engine.runSlots store directory tenant requests s).1 =
      requests.map (engine.alone store tenant domain) := by
  -- The state of the directory goes from slot to slot, so the induction is for every state.
  induction requests generalizing s with
  | nil => rfl
  | cons raw rest ih =>
      have hslot := engine.runSlot_eq_alone store tenant h raw s
      have hrest := ih (engine.runSlot store directory tenant raw s).2
      simp only [runSlots, List.map_cons, hslot, hrest]

theorem tooManyRequests_eq :
    tooManyRequests = .invalidRequest "Maximum 20 requests per batch" := by
  decide +kernel

/-- A batch of at most twenty values holds for each of them, in their order, what it gives alone,
and the store receives the calls of the values one after another.  A value that is no request of the
right shape has an error in its slot and calls nothing.  A longer batch fails as a whole, and
neither the store nor the directory is asked anything. -/
theorem runBatch_isolates_slots
    (h : directory.Knows domain) (requests : List Json) (s : σ) :
    (requests.length ≤ 20 →
      (engine.runBatch store directory tenant requests s).1.result =
          .ok (requests.map fun raw => (engine.alone store tenant domain raw).result) ∧
        (engine.runBatch store directory tenant requests s).1.calls =
          requests.flatMap fun raw => (engine.alone store tenant domain raw).calls) ∧
    (∀ raw ∈ requests,
      (∃ e : Error, e.kind = .request ∧
          engine.alone store tenant domain raw = ⟨.error e, []⟩) ↔
        BatchRequest.IsMalformed raw) ∧
    (20 < requests.length →
      engine.runBatch store directory tenant requests s =
        (⟨.error (.invalidRequest "Maximum 20 requests per batch"), []⟩, s)) := by
  refine ⟨?_, ?_, ?_⟩
  · intro hlength
    have hslots := engine.runSlots_eq_map_alone store tenant h requests s
    have hfits : ¬ Limits.maxBatchRequests < requests.length := Nat.not_lt.mpr hlength
    rw [runBatch, if_neg hfits]
    simp [hslots, Executed.all, Executed.map, List.flatMap_map, Function.comp_def]
  · intro raw _
    exact engine.alone_eq_error_iff store tenant domain raw
  · intro hlength
    have hlong : Limits.maxBatchRequests < requests.length := hlength
    rw [runBatch, if_pos hlong, tooManyRequests_eq]

/-- A value that names parameters. -/
def named (parameters : List String) : Json :=
  .obj [("parameters", .texts parameters)]

/-- A value that is no request and one without parameters stand between two requests. -/
def visitsBatch : List Json :=
  [ named ["top_pages"],
    .obj [("parameters", .str "country")],
    named [],
    named ["country", "no_such_parameter"] ]

theorem runBatch_isolates_visitsBatch :
    Directory.Knows (fun _ (asked : Nat) => (none, asked + 1)) (fun _ => none) ∧
      visitsBatch.length = 4 ∧
      (∃ first second third fourth,
        (builtin.runBatch (fun _ => .ok []) (fun _ (asked : Nat) => (none, asked + 1)) visitsTenant
          visitsBatch 0).1.result = .ok [.ok first, .error second, .error third, .ok fourth]) ∧
      (builtin.runBatch (fun _ => .ok []) (fun _ (asked : Nat) => (none, asked + 1)) visitsTenant
        visitsBatch 0).1.calls.length = 2 ∧
      BatchRequest.IsMalformed (named []) := by
  have hknows : Directory.Knows (fun _ (asked : Nat) => (none, asked + 1)) (fun _ => none) := by
    intro _ _
    rfl
  obtain ⟨hslots, hmalformed, -⟩ :=
    runBatch_isolates_slots builtin (fun _ => .ok []) visitsTenant hknows visitsBatch 0
  obtain ⟨hresult, hcalls⟩ := hslots (by decide)
  refine ⟨hknows, rfl, ?_, ?_, ?_⟩
  · rw [hresult]
    exact ⟨_, _, _, _, rfl⟩
  · rw [hcalls]
    decide +kernel
  · have hmem : named [] ∈ visitsBatch := by simp [visitsBatch]
    exact (hmalformed (named []) hmem).mp ⟨BatchRequest.shapeError, rfl, rfl⟩

end Engine
end AnalyticsQuery
