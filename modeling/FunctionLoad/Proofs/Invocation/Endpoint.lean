import FunctionLoad.Proofs.Invocation.Usable

/-!
# Where requests go

The address of a function is its path behind the text of the base URL. So it ends the path of the
request only if the base URL has neither a query nor a fragment; else it ends that one of them that
comes last, and the path is that of the base URL.

* `Context.extends_of_url`: what the URL of a request has of the base URL.
* **`Target.endpoint_of_url`**: where requests to an accepted target go.
-/

namespace FunctionLoad

open FunctionLoad.Url FunctionLoad.Invocation

namespace Invocation

/-- The URL of a request goes on where the base URL ends. -/
theorem Context.extends_of_url (c : Context) {u v : Url} (hp : Url.parse c.baseUrl = .ok u)
    (hw : u.isWeb = true) (w : Workload) (r : Runtime) {σ : Type} [Sink σ] {input : Json.Value}
    {sink : σ} (hv : (c.prepare (w.functionName r) input sink).value.1.url = .ok v) :
    Extends u v (functionPath (w.functionName r) c.mode).toList := by
  have hr : (c.prepare (w.functionName r) input sink).value.1.url =
      webUrl (c.baseUrl ++ functionPath (w.functionName r) c.mode) := by
    rw [← endpoint_eq]
    rfl
  rw [hr] at hv
  exact extends_of_parse hp hw (isPlainPath_functionPath w r c.mode) (webUrl_eq_ok_iff.mp hv).1

end Invocation

namespace Target

/-- **Where requests to an accepted target go**, if their address is a URL at all: to the scheme, the
host and the port of the base URL. If that has neither a query nor a fragment, the path of the request
ends with the one of the function, in the verb of the mode, and nothing follows. Else the path is that
of the base URL, and it is the query, or the fragment if there is one, that ends with the path of the
function. -/
theorem endpoint_of_url {t : Target} (h : t.check = .ok ()) :
    ∃ u c, Url.parse t.baseUrl = .ok u ∧ (Context.make t).value = .ok c ∧
      ∀ workloads runtimes names, Catalog.matrix workloads runtimes = .ok names →
        ∀ function ∈ names, ∀ (input : Json.Value) {σ : Type} [Sink σ] (sink : σ) (v : Url),
          (c.prepare function input sink).value.1.url = .ok v →
          (v.scheme = u.scheme ∧ v.host = u.host ∧ v.port = u.port) ∧
          (u.query = none → u.fragment = none →
            (functionPath function t.mode).toList <:+ v.path.chars ∧
              v.query = none ∧ v.fragment = none) ∧
          (∀ q, u.query = some q → u.fragment = none → v.path = u.path ∧ v.fragment = none ∧
            ∃ between, v.query = some (q ++ between ++ (functionPath function t.mode).toList)) ∧
          ∀ f, u.fragment = some f → v.path = u.path ∧ v.query = u.query ∧
            ∃ between, v.fragment = some (f ++ between ++ (functionPath function t.mode).toList) := by
  obtain ⟨u, hp, hw⟩ := t.exists_url h
  refine ⟨u, _, hp, Context.value_make hp hw, ?_⟩
  intro workloads runtimes names hn function hf input σ _ sink v hv
  obtain ⟨w, r, rfl⟩ := Catalog.exists_of_mem_matrix hn hf
  have hx := Context.extends_of_url ⟨t.baseUrl, t.mode, t.timeout⟩ hp hw w r hv
  exact ⟨⟨hx.scheme, hx.host, hx.port⟩, hx.path, hx.query, hx.fragment⟩

/-- Credentials, dots in escapes, a backslash and a space at the end: the path still ends with the one
of the function. -/
theorem endpoint_of_url_awkward :
    ({ baseUrl := "http://me@localhost:30080/a/%2E%2e\\b/ ", mode := .async } : Target).check =
        .ok () ∧
      ∃ c v, (Context.make
          { baseUrl := "http://me@localhost:30080/a/%2E%2e\\b/ ", mode := .async }).value = .ok c ∧
        (c.prepare "json-transform-exec" (.object []) Discard.mk).value.1.url = .ok v ∧
        "/v1/functions/json-transform-exec:enqueue".toList <:+ v.path.chars := by
  refine ⟨rfl, ?_⟩
  obtain ⟨u, c, hu, hc, hall⟩ := @endpoint_of_url
    { baseUrl := "http://me@localhost:30080/a/%2E%2e\\b/ ", mode := .async } rfl
  have hparts : (Url.parse "http://me@localhost:30080/a/%2E%2e\\b/ ").map
      (fun u => (u.query, u.fragment)) = .ok (none, none) := by decide
  rw [hu] at hparts
  obtain ⟨hq, hf⟩ := Prod.mk.inj (Except.ok.inj hparts)
  have hmatrix : Catalog.matrix ["json-transform"] ["exec"] = .ok ["json-transform-exec"] := by decide
  obtain ⟨v, hv⟩ : ∃ v,
      (c.prepare "json-transform-exec" (.object []) Discard.mk).value.1.url = .ok v := by
    obtain rfl := Except.ok.inj hc
    exact ⟨_, rfl⟩
  obtain ⟨-, hpath, -⟩ := hall _ _ _ hmatrix _ List.mem_cons_self _ _ v hv
  exact ⟨c, v, hc, hv, (hpath hq hf).1⟩

/-- A base URL with a query is accepted, and the path of the function becomes part of the query. -/
theorem not_endpoint_query :
    ({ baseUrl := "http://localhost:30080?x=1" } : Target).check = .ok () ∧
      Catalog.matrix ["word-stats"] ["java"] = .ok ["word-stats-java"] ∧
      ∃ c v, (Context.make { baseUrl := "http://localhost:30080?x=1" }).value = .ok c ∧
        (c.prepare "word-stats-java" (.object []) Discard.mk).value.1.url = .ok v ∧
        ¬ (functionPath "word-stats-java" .sync).toList <:+ v.path.chars := by
  refine ⟨rfl, by decide, _, _, rfl, rfl, by decide⟩

end Target

end FunctionLoad
