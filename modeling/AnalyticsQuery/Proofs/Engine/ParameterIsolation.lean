import AnalyticsQuery.Catalog.Builtin
import AnalyticsQuery.Engine.Run
import AnalyticsQuery.Schema.Builtin

/-!
# The parameters of a request do not disturb each other

A request runs each of its parameters on its own.  The answer has one item for
each parameter in their order, and a request for two lists of parameters gives
the items and the store calls of the first list followed by those of the
second.  So what goes wrong with one parameter changes neither the item nor the
calls of another one.

* `wellFormed_runParameter`: the item of a parameter has its name, and either
  rows or an error.
* `run_isolates_parameters`: the answer to a request is put together from the
  answers to its parts.
-/

namespace AnalyticsQuery

/-- An item that is a success exactly when it has no error, and has no rows when it has one. -/
structure BatchItem.WellFormed (i : BatchItem) : Prop where
  success_iff_error : i.success = i.error.isNone
  success_iff_errorKind : i.success = i.errorKind.isNone
  no_rows : i.success = false → i.data = []

theorem BatchItem.wellFormed_ofResult
    (parameter : String) (r : Except Error (List Row)) :
    (BatchItem.ofResult parameter r).WellFormed := by
  cases r with
  | ok rows =>
      constructor
      · rfl
      · rfl
      · intro h
        cases h
  | error e =>
      constructor
      · rfl
      · rfl
      · intro _
        rfl

theorem BatchItem.parameter_ofResult
    (parameter : String) (r : Except Error (List Row)) :
    (BatchItem.ofResult parameter r).parameter = parameter := by
  cases r <;> rfl

namespace Executed

variable {α : Type}

theorem result_all_append (l m : List (Executed α)) :
    (all (l ++ m)).result = (all l).result ++ (all m).result :=
  List.map_append

theorem calls_all_append (l m : List (Executed α)) :
    (all (l ++ m)).calls = (all l).calls ++ (all m).calls :=
  List.flatMap_append

end Executed

namespace BatchRequest

/-- The same request for other parameters. -/
def withParameters (r : BatchRequest) (parameters : List String) : BatchRequest :=
  { r with parameters := parameters }

/-- A part of the parameters of a request of the right shape has the right shape. -/
theorem hasShape_of_sublist
    {r : BatchRequest} (h : r.hasShape = true)
    {ps : List String} (hne : ps ≠ []) (hsub : ps.Sublist r.parameters) :
    (r.withParameters ps).hasShape = true := by
  simp only [hasShape, Bool.and_eq_true, decide_eq_true_eq] at h ⊢
  have hlength := hsub.length_le
  have hpos := List.length_pos_iff.mpr hne
  constructor
  · exact hpos
  · exact Nat.le_trans hlength h.2

end BatchRequest

namespace Engine

variable (engine : Engine) (store : Store) (tenant : Tenant)

/-- The items of a list of parameters, with the calls for them. -/
def items (request : BatchRequest) (domain : Option String) (parameters : List String) :
    Executed (List BatchItem) :=
  Executed.all (parameters.map (engine.runParameter store request tenant domain))

theorem wellFormed_runParameter
    (request : BatchRequest) (domain : Option String) (parameter : String) :
    (engine.runParameter store request tenant domain parameter).result.WellFormed :=
  BatchItem.wellFormed_ofResult parameter _

theorem parameter_runParameter
    (request : BatchRequest) (domain : Option String) (parameter : String) :
    (engine.runParameter store request tenant domain parameter).result.parameter = parameter :=
  BatchItem.parameter_ofResult parameter _

theorem parameters_items
    (request : BatchRequest) (domain : Option String) (parameters : List String) :
    (engine.items store tenant request domain parameters).result.map BatchItem.parameter =
      parameters := by
  induction parameters with
  | nil => rfl
  | cons p ps ih =>
      have hp := engine.parameter_runParameter store tenant request domain p
      simp only [items, Executed.all, List.map_cons, hp] at ih ⊢
      rw [ih]

theorem wellFormed_of_mem_items
    {request : BatchRequest} {domain : Option String} {parameters : List String}
    {i : BatchItem} (h : i ∈ (engine.items store tenant request domain parameters).result) :
    i.WellFormed := by
  obtain ⟨e, he, rfl⟩ := List.mem_map.mp h
  obtain ⟨parameter, -, rfl⟩ := List.mem_map.mp he
  exact engine.wellFormed_runParameter store tenant request domain parameter

theorem items_append
    (request : BatchRequest) (domain : Option String) (ps qs : List String) :
    engine.items store tenant request domain (ps ++ qs) =
      ⟨(engine.items store tenant request domain ps).result ++
          (engine.items store tenant request domain qs).result,
        (engine.items store tenant request domain ps).calls ++
          (engine.items store tenant request domain qs).calls⟩ := by
  unfold items
  rw [List.map_append, ← Executed.result_all_append, ← Executed.calls_all_append]

variable {σ : Type} (directory : Directory σ)

/-- A request of the right shape is answered by the items of its parameters. -/
theorem run_of_hasShape
    {request : BatchRequest} (h : request.hasShape = true) (s : σ) :
    (engine.run store directory tenant request s).1 =
      (engine.items store tenant request ((directory tenant.websiteId s).1.bind Website.bareHost?)
        request.parameters).map
          fun data => .ok ⟨request.id, data, about request⟩ := by
  unfold run
  rw [if_pos h]
  rfl

/-- The other parameters of a request have no influence on the items of some of them. -/
theorem run_withParameters
    {request : BatchRequest} {ps : List String}
    (h : (request.withParameters ps).hasShape = true) (s : σ) :
    (engine.run store directory tenant (request.withParameters ps) s).1 =
      (engine.items store tenant request ((directory tenant.websiteId s).1.bind Website.bareHost?)
        ps).map
          fun data => .ok ⟨request.id, data, about (request.withParameters ps)⟩ :=
  engine.run_of_hasShape store tenant directory h s

/-- A request of the right shape is answered with one item for each parameter, and the items and
store calls of two lists of parameters are those of the one followed by those of the other, as long
as the directory knows the same domain in all three runs. -/
theorem run_isolates_parameters
    {request : BatchRequest} (h : request.hasShape = true) (s : σ) :
    ∃ response, (engine.run store directory tenant request s).1.result = .ok response ∧
      response.data.map BatchItem.parameter = request.parameters ∧
      (∀ i ∈ response.data, i.WellFormed) ∧
      ∀ ps qs, request.parameters = ps ++ qs → ps ≠ [] → qs ≠ [] →
        ∀ s₁ s₂ : σ, (directory tenant.websiteId s₁).1 = (directory tenant.websiteId s).1 →
          (directory tenant.websiteId s₂).1 = (directory tenant.websiteId s).1 →
          ∃ first second,
            (engine.run store directory tenant (request.withParameters ps) s₁).1.result =
              .ok first ∧
            (engine.run store directory tenant (request.withParameters qs) s₂).1.result =
              .ok second ∧
            response.data = first.data ++ second.data ∧
            (engine.run store directory tenant request s).1.calls =
              (engine.run store directory tenant (request.withParameters ps) s₁).1.calls ++
                (engine.run store directory tenant (request.withParameters qs) s₂).1.calls := by
  have hrun := engine.run_of_hasShape store tenant directory h s
  rw [hrun]
  refine ⟨_, rfl, engine.parameters_items store tenant request _ _, ?_, ?_⟩
  · intro i hi
    exact engine.wellFormed_of_mem_items store tenant hi
  · intro ps qs hsplit hps hqs s₁ s₂ hs₁ hs₂
    have hfirst : (request.withParameters ps).hasShape = true := by
      apply BatchRequest.hasShape_of_sublist h hps
      rw [hsplit]
      exact List.sublist_append_left ps qs
    have hsecond : (request.withParameters qs).hasShape = true := by
      apply BatchRequest.hasShape_of_sublist h hqs
      rw [hsplit]
      exact List.sublist_append_right ps qs
    rw [engine.run_withParameters store tenant directory hfirst s₁,
      engine.run_withParameters store tenant directory hsecond s₂, hs₁, hs₂, hsplit,
      items_append]
    exact ⟨_, _, rfl, rfl, rfl, rfl⟩

/-- The engine of the analytics store. -/
def builtin : Engine where
  registry := Schema.registry
  catalog := Catalog.builtin

/-- A request for two parameters with an unknown one between them. -/
def visitsRequest : BatchRequest where
  id := none
  parameters := ["top_pages", "no_such_parameter", "country"]
  filters := [⟨"country", .ne, .scalar (.text "' OR 1 = 1 -- ")⟩]
  granularity := none
  groupBy := ["path"]
  limit := some 50000
  page := none

/-- A tenant and its range of time. -/
def visitsTenant : Tenant where
  websiteId := "site_1"
  startDate := "2024-01-01"
  endDate := "2024-01-31"
  timezone := "UTC"

/-- What a request of the tenant gives when the store has no rows and no domain is known. -/
def visitsRun (request : BatchRequest) (asked : Nat) : Executed (Except Error BatchResponse) :=
  (builtin.run (fun _ => .ok []) (fun _ asked => (none, asked + 1)) visitsTenant request asked).1

/-- The unknown parameter fails on its own: the known ones keep their items, and their calls are
those of the requests without it. -/
theorem run_isolates_unknownParameter :
    visitsRequest.hasShape = true ∧
      ∃ response first second,
        (visitsRun visitsRequest 0).result = .ok response ∧
        (visitsRun (visitsRequest.withParameters ["top_pages", "no_such_parameter"]) 1).result =
          .ok first ∧
        (visitsRun (visitsRequest.withParameters ["country"]) 2).result = .ok second ∧
        response.data = first.data ++ second.data ∧
        response.data.map BatchItem.parameter = ["top_pages", "no_such_parameter", "country"] ∧
        response.data.map BatchItem.success = [true, false, true] ∧
        (visitsRun visitsRequest 0).calls =
          (visitsRun (visitsRequest.withParameters ["top_pages"]) 3).calls ++
            (visitsRun (visitsRequest.withParameters ["country"]) 2).calls ∧
        (visitsRun (visitsRequest.withParameters ["top_pages"]) 3).calls.length = 1 ∧
        (visitsRun (visitsRequest.withParameters ["country"]) 2).calls.length = 1 := by
  have hshape : visitsRequest.hasShape = true := rfl
  obtain ⟨response, hresponse, hparameters, -, hparts⟩ :=
    run_isolates_parameters builtin (fun _ => .ok []) visitsTenant
      (fun _ (asked : Nat) => (none, asked + 1)) hshape 0
  obtain ⟨first, second, hfirst, hsecond, hdata, hcalls⟩ :=
    hparts ["top_pages", "no_such_parameter"] ["country"] rfl (by decide) (by decide) 1 2 rfl rfl
  have hsuccess :
      (visitsRun visitsRequest 0).result.toOption.map
        (fun response => response.data.map BatchItem.success) = some [true, false, true] := by
    decide +kernel
  have hknown :
      (visitsRun (visitsRequest.withParameters ["top_pages", "no_such_parameter"]) 1).calls =
        (visitsRun (visitsRequest.withParameters ["top_pages"]) 3).calls := by
    obtain ⟨_, -, -, -, hinner⟩ :=
      run_isolates_parameters builtin (fun _ => .ok []) visitsTenant
        (fun _ (asked : Nat) => (none, asked + 1))
        (show (visitsRequest.withParameters ["top_pages", "no_such_parameter"]).hasShape = true
          from rfl) 1
    obtain ⟨_, _, -, -, -, hinner⟩ :=
      hinner ["top_pages"] ["no_such_parameter"] rfl (by decide) (by decide) 3 4 rfl rfl
    have hunknown :
        (visitsRun (visitsRequest.withParameters ["no_such_parameter"]) 4).calls = [] :=
      List.eq_nil_of_length_eq_zero (by decide +kernel)
    exact hinner.trans ((congrArg _ hunknown).trans (List.append_nil _))
  refine ⟨hshape, response, first, second, hresponse, hfirst, hsecond, hdata, hparameters,
    ?_, ?_, by decide +kernel, by decide +kernel⟩
  · have hresult : (visitsRun visitsRequest 0).result = .ok response := hresponse
    rw [hresult] at hsuccess
    exact Option.some.inj hsuccess
  · rw [← hknown]
    exact hcalls

end Engine
end AnalyticsQuery
