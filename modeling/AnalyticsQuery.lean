import AnalyticsQuery.Catalog.Builtin
import AnalyticsQuery.Json.Printer
import AnalyticsQuery.Monitor.LogSettings
import AnalyticsQuery.Schema.Builtin
import AnalyticsQuery.Service.Dispatch
import AnalyticsQuery.Store.Client
import AnalyticsQuery.Website.Source
import AnalyticsQuery.Proofs.Catalog.Builtin
import AnalyticsQuery.Proofs.Catalog.Resolution
import AnalyticsQuery.Proofs.Decimal.Range
import AnalyticsQuery.Proofs.Dict
import AnalyticsQuery.Proofs.Engine.AnswerMeta
import AnalyticsQuery.Proofs.Engine.Paging
import AnalyticsQuery.Proofs.Engine.ParameterFaults
import AnalyticsQuery.Proofs.Engine.ParameterIsolation
import AnalyticsQuery.Proofs.Engine.SlotIsolation
import AnalyticsQuery.Proofs.Engine.TenantScope
import AnalyticsQuery.Proofs.Json.ReadBack
import AnalyticsQuery.Proofs.Json.Record
import AnalyticsQuery.Proofs.Json.Spelling
import AnalyticsQuery.Proofs.Monitor.BucketCounts
import AnalyticsQuery.Proofs.Query.Agreement
import AnalyticsQuery.Proofs.Query.ConfigReadBack
import AnalyticsQuery.Proofs.Query.FilterMeaning
import AnalyticsQuery.Proofs.Query.Noninterference
import AnalyticsQuery.Proofs.Query.OutputColumns
import AnalyticsQuery.Proofs.Query.Placeholders
import AnalyticsQuery.Proofs.Query.Rules
import AnalyticsQuery.Proofs.Query.Shape
import AnalyticsQuery.Proofs.Schema.Registry
import AnalyticsQuery.Proofs.Schema.Whitelist
import AnalyticsQuery.Proofs.Service.Bodies
import AnalyticsQuery.Proofs.Service.CompilePreview
import AnalyticsQuery.Proofs.Service.CompiledCount
import AnalyticsQuery.Proofs.Service.RateBound
import AnalyticsQuery.Proofs.Service.RateKeys
import AnalyticsQuery.Proofs.Service.Rejection
import AnalyticsQuery.Proofs.Service.RetryAfter
import AnalyticsQuery.Proofs.Sql.Quoting
import AnalyticsQuery.Proofs.Store.ReadBack
import AnalyticsQuery.Proofs.Store.Request
import AnalyticsQuery.Proofs.Tenant.EndDate
import AnalyticsQuery.Proofs.Text.Split
import AnalyticsQuery.Proofs.Text.Utf8
import AnalyticsQuery.Proofs.Url.Form
import AnalyticsQuery.Proofs.Url.Pairs
import AnalyticsQuery.Proofs.Website.BareHost
import AnalyticsQuery.Proofs.Website.CacheHistory
import AnalyticsQuery.Proofs.Website.DirectoryUrl
import AnalyticsQuery.Proofs.Decimal.Literal
import AnalyticsQuery.Proofs.Catalog.KnownDomain
import AnalyticsQuery.Proofs.Store.NumberText
