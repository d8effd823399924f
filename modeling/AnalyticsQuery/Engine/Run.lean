import AnalyticsQuery.Catalog.Basic
import AnalyticsQuery.Engine.Request
import AnalyticsQuery.Engine.Response
import AnalyticsQuery.Website.Domain

/-!
# Running requests

Each parameter of a request is resolved, validated, compiled and run on its
own, and what goes wrong with one of them is kept in its own item of the
response.  A batch is a list of requests that are decoded and run one after
another, each in a slot of its own.

The store answers a compiled query with rows or an error.  The directory of
websites is asked for the domain of the website once for each request that has
the right shape; it may change with every question, so its state is threaded.
Beside the response, every run gives the calls that the store received, in
order.
-/

namespace AnalyticsQuery

/-- What the store answers to a compiled query. -/
abbrev Store := CompiledQuery → Except Error (List Row)

/-- A directory of the domains of websites, with a state that a question may change. -/
abbrev Directory (σ : Type) := String → σ → Option String × σ

/-- An outcome with the calls that the store received for it. -/
structure Executed (α : Type) where
  result : α
  calls : List CompiledQuery

namespace Executed

variable {α β : Type}

/-- The outcome of a compiled query, or of the failure to compile one. -/
def ofCompiled (store : Store) : Except Error CompiledQuery → Executed (Except Error (List Row))
  | .error e => ⟨.error e, []⟩
  | .ok q => ⟨store q, [q]⟩

/-- Apply a function to an outcome. -/
def map (f : α → β) (e : Executed α) : Executed β :=
  ⟨f e.result, e.calls⟩

/-- The outcomes of a list, with all calls in order. -/
def all (l : List (Executed α)) : Executed (List α) :=
  ⟨l.map Executed.result, l.flatMap Executed.calls⟩

end Executed

/-- The engine: the tables that may be queried and the named queries. -/
structure Engine where
  registry : Registry
  catalog : Catalog

/-- The product of two numbers, or the greatest number when that is too large. -/
def saturatingMul (a b : UInt32) : UInt32 :=
  if a.toNat * b.toNat < 4294967296 then a * b else 4294967295

namespace Engine

/-- The context that the templates of a request see. -/
def contextOf (request : BatchRequest) (domain : Option String) : TemplateContext :=
  ⟨request.timeUnit, domain⟩

/-- The row limit of a parameter: that of the request, else that of the entry. -/
def parameterLimit (engine : Engine) (request : BatchRequest) (parameter : String) : UInt32 :=
  let usual := ((engine.catalog.get? parameter).map CatalogEntry.defaultLimit).getD
    Limits.defaultBatchLimit
  request.wantedLimit.getD usual

/-- The scope of a parameter of a request. -/
def parameterScope (engine : Engine) (request : BatchRequest) (tenant : Tenant)
    (parameter : String) : Scope :=
  let limit := engine.parameterLimit request parameter
  { websiteId := tenant.websiteId
    startDate := tenant.startDate
    endDate := tenant.inclusiveEndDate
    timezone := tenant.timezone
    limit := limit
    offset := saturatingMul (request.pageNumber - 1) limit }

/-- The compiled query of a parameter of a request. -/
def compileParameter (engine : Engine) (request : BatchRequest) (tenant : Tenant)
    (domain : Option String) (parameter : String) : Except Error CompiledQuery :=
  let wanted : Customization :=
    ⟨contextOf request domain, request.filters, request.groupBy⟩
  match engine.catalog.resolve engine.registry parameter wanted with
  | .error e => .error e
  | .ok config =>
      config.compileValid engine.registry (engine.parameterScope request tenant parameter)

/-- Run a parameter of a request. -/
def runParameter (engine : Engine) (store : Store) (request : BatchRequest) (tenant : Tenant)
    (domain : Option String) (parameter : String) : Executed BatchItem :=
  (Executed.ofCompiled store (engine.compileParameter request tenant domain parameter)).map
    (BatchItem.ofResult parameter)

/-- What the answer to a request says about it. -/
def about (request : BatchRequest) : BatchMeta where
  parameters := request.parameters
  totalParameters := request.parameters.length
  page := request.pageNumber
  limit := request.wantedLimit.getD Limits.defaultBatchLimit
  filtersApplied := request.filters.length

/-- Run the parameters of a request of the right shape. -/
def runParameters (engine : Engine) (store : Store) (request : BatchRequest) (tenant : Tenant)
    (domain : Option String) : Executed BatchResponse :=
  (Executed.all (request.parameters.map
    (engine.runParameter store request tenant domain))).map
      fun data => ⟨request.id, data, about request⟩

variable {σ : Type}

/-- Run a request. -/
def run (engine : Engine) (store : Store) (directory : Directory σ) (tenant : Tenant)
    (request : BatchRequest) (s : σ) : Executed (Except Error BatchResponse) × σ :=
  if request.hasShape then
    let (domain, s) := directory tenant.websiteId s
    ((engine.runParameters store request tenant (domain.bind Website.bareHost?)).map .ok, s)
  else (⟨.error BatchRequest.shapeError, []⟩, s)

/-- Decode and run a request. -/
def runSlot (engine : Engine) (store : Store) (directory : Directory σ) (tenant : Tenant)
    (raw : Json) (s : σ) : Executed (Except Error BatchResponse) × σ :=
  match Json.decode BatchRequest.decoder raw with
  | .error e => (⟨.error (.serialization e.message), []⟩, s)
  | .ok request => engine.run store directory tenant request s

/-- Decode and run requests one after another. -/
def runSlots (engine : Engine) (store : Store) (directory : Directory σ) (tenant : Tenant) :
    List Json → σ → List (Executed (Except Error BatchResponse)) × σ
  | [], s => ([], s)
  | raw :: rest, s =>
      let (slot, s) := engine.runSlot store directory tenant raw s
      let (slots, s) := engine.runSlots store directory tenant rest s
      (slot :: slots, s)

/-- The error of a batch with too many requests. -/
def tooManyRequests : Error :=
  .invalidRequest ("Maximum " ++ Decimal.natText Limits.maxBatchRequests ++ " requests per batch")

/-- Run a batch of requests. -/
def runBatch (engine : Engine) (store : Store) (directory : Directory σ) (tenant : Tenant)
    (requests : List Json) (s : σ) :
    Executed (Except Error (List (Except Error BatchResponse))) × σ :=
  if Limits.maxBatchRequests < requests.length then (⟨.error tooManyRequests, []⟩, s)
  else
    let (slots, s) := engine.runSlots store directory tenant requests s
    ((Executed.all slots).map .ok, s)

/-- The compiled query of a free query. -/
def compileCustom (engine : Engine) (request : CustomRequest)
    (fallbackWebsiteId : Option String) : Except Error CompiledQuery :=
  match request.scope fallbackWebsiteId with
  | .error e => .error e
  | .ok scope => request.query.compileValid engine.registry scope

/-- Run a free query. -/
def executeCustom (engine : Engine) (store : Store) (request : CustomRequest)
    (fallbackWebsiteId : Option String) : Executed (Except Error (List Row)) :=
  Executed.ofCompiled store (engine.compileCustom request fallbackWebsiteId)

end Engine

end AnalyticsQuery
