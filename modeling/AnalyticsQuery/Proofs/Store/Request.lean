import AnalyticsQuery.Proofs.Url.Pairs
import AnalyticsQuery.Proofs.Url.Target
import AnalyticsQuery.Store.Client
import Mathlib.Data.List.Nodup

/-!
# What the store reads off a request

The store reads the target of a request: behind the first question mark stands
its query, whose pairs hold the settings and the values of a query.  These pairs
are those of the URL of the store, then four settings, then one for each
parameter.  No value can add, drop or split a pair, and the names of the added
pairs are distinct, so that none of them takes the place of another.

* `nodup_pairs`: the added pairs have distinct names.
* `fetch_sends_pairs`: the pairs and the body that the store receives.
-/

namespace AnalyticsQuery

/-- The pairs of the query of a URL. -/
def Url.pairs (url : Url) : List (String × String) :=
  Url.Form.decode (url.query.getD [])

/-- The pairs that stand behind the first question mark of the target of a request. -/
def Web.OutboundRequest.pairs (r : Web.OutboundRequest) : List (String × String) :=
  match Text.splitFirst '?' r.target.toList with
  | (_, some query) => Url.Form.decode query
  | (_, none) => []

theorem Web.OutboundRequest.pairs_eq
    {r : Web.OutboundRequest} {path query : List Char}
    (h : Text.splitFirst '?' r.url.target = (path, some query)) :
    r.pairs = Url.Form.decode query := by
  rw [pairs, target, String.toList_ofList, h]

namespace Store

theorem nodup_keys (params : Dict Binding) : (params.entries.map Prod.fst).Nodup := by
  rw [List.Nodup, List.pairwise_map]
  exact params.ascending.imp fun h => String.ne_of_lt h

/-- No parameter takes the name of a setting or of another parameter. -/
theorem nodup_pairs (settings : Settings) (params : Dict Binding) :
    ((pairs settings params).map Prod.fst).Nodup := by
  have hsettings : ((settingPairs settings).map Prod.fst).Nodup := by
    have hnames :
        ["database", "default_format", "output_format_json_quote_64bit_integers",
          "readonly"].Nodup := by
      decide
    exact hnames
  have hparameters : ((params.entries.map parameterPair).map Prod.fst).Nodup := by
    have hnames :
        (params.entries.map parameterPair).map Prod.fst =
          (params.entries.map Prod.fst).map fun name => "param_" ++ name := by
      rw [List.map_map, List.map_map]
      rfl
    rw [hnames]
    refine List.Nodup.map ?_ (nodup_keys params)
    intro name name' heq
    simpa [← String.toList_inj] using heq
  have hhead : ∀ name ∈ (settingPairs settings).map Prod.fst, name.toList.head? ≠ some 'p' := by
    have hnames :
        ∀ name ∈ ["database", "default_format", "output_format_json_quote_64bit_integers",
          "readonly"], name.toList.head? ≠ some 'p' := by
      decide
    exact hnames
  rw [pairs, List.map_append]
  refine List.Nodup.append hsettings hparameters ?_
  intro name hname hparameter
  obtain ⟨pair, hpair, rfl⟩ := List.mem_map.mp hparameter
  obtain ⟨e, -, rfl⟩ := List.mem_map.mp hpair
  refine hhead _ hname ?_
  rw [parameterPair, String.toList_append]
  rfl

/-- The request for a query has its text as the body, and as the pairs of its target those of the
URL, the settings, and each parameter in ascending order of the names. -/
theorem fetch_sends_pairs
    {settings : Settings} {url : Url} (h : Url.parse settings.url = .ok url)
    (transport : Web.Transport) (sql : String) (params : Dict Binding) :
    ∃ r, (fetch settings transport sql params).sent = some r ∧
      r.body = sql ∧
      (∃ query, r.url = { url with query := some query }) ∧
      r.pairs =
        url.pairs ++
          [ ("database", settings.database), ("default_format", "JSON"),
            ("output_format_json_quote_64bit_integers", "0"), ("readonly", "2") ] ++
          params.entries.map (fun e => ("param_" ++ e.1, encode e.2)) ∧
      params.keys.Pairwise (fun name name' => name < name') ∧
      ((r.pairs.drop url.pairs.length).map Prod.fst).Nodup := by
  let query := Url.Form.append (url.query.getD []) (pairs settings params)
  let r : Web.OutboundRequest :=
    { Web.OutboundRequest.post (url.appendPairs (pairs settings params)) sql with
      authorization := settings.username.map fun u =>
        Web.OutboundRequest.credentials u settings.password }
  have hrequest : request settings sql params = .ok r := by
    rw [request, h]
  have hsent : (fetch settings transport sql params).sent = some r := by
    rw [fetch, hrequest]
    simp only
    split <;> rfl
  have hpairs : r.pairs = url.pairs ++ pairs settings params := by
    obtain ⟨path, hsplit⟩ := Url.splitFirst_target h query
    rw [Web.OutboundRequest.pairs_eq hsplit]
    exact Url.Form.decode_append _ _
  refine ⟨r, hsent, rfl, ⟨query, rfl⟩, ?_, ?_, ?_⟩
  · rw [hpairs, pairs, List.append_assoc]
    rfl
  · rw [Dict.keys, List.pairwise_map]
    exact params.ascending
  · rw [hpairs, List.drop_left]
    exact nodup_pairs settings params

/-- A store behind a URL with a query of its own, and a database whose name looks like a pair. -/
def hostileSettings : Settings where
  url := "http://store:8123/?user=a%26b"
  database := "x&readonly=0#"
  username := none
  password := none
  timeoutSecs := 30

/-- A value with all signs that part pairs. -/
def hostileParams : Dict Binding :=
  Dict.ofList [("website_id", .text "+%26&é?"), ("filter_0", .texts ["'=&readonly=0"])]

/-- The signs stay in their values. -/
theorem fetch_sends_hostileValues :
    ∃ url, Url.parse hostileSettings.url = .ok url ∧
      ∃ r, (fetch hostileSettings (fun _ => .error "down") "SELECT 1" hostileParams).sent =
          some r ∧
        r.body = "SELECT 1" ∧
        r.pairs =
          [ ("user", "a&b"), ("database", "x&readonly=0#"), ("default_format", "JSON"),
            ("output_format_json_quote_64bit_integers", "0"), ("readonly", "2"),
            ("param_filter_0", "['\\\\'=&readonly=0']"), ("param_website_id", "+%26&é?") ] := by
  have hown :
      (Url.parse hostileSettings.url).map Url.pairs = .ok [("user", "a&b")] := by
    decide +kernel
  cases hurl : Url.parse hostileSettings.url with
  | error e =>
      rw [hurl] at hown
      cases hown
  | ok url =>
      rw [hurl] at hown
      have hpairs : url.pairs = [("user", "a&b")] := Except.ok.inj hown
      obtain ⟨r, hsent, hbody, -, hread, -, -⟩ :=
        fetch_sends_pairs hurl (fun _ => .error "down") "SELECT 1" hostileParams
      refine ⟨url, rfl, r, hsent, hbody, ?_⟩
      rw [hread, hpairs]
      decide +kernel

end Store
end AnalyticsQuery
