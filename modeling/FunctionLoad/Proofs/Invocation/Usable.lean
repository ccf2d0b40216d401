import FunctionLoad.Invocation.Context
import FunctionLoad.Proofs.Url.Component

/-!
# Which accepted targets can be used

* `webUrl_eq_ok_iff`, `httpUrl_eq_ok_iff`: what it takes to be a URL of the web.
* `isPlainPath_functionPath`, `isPathText_functionPath`: the path of a function is taken as it stands,
  and can be put behind a text.
* **`outgoing_iff_isExtensible`**: the request of a function goes out just if a path can be put behind
  the base URL.
* **`Target.isUsable_iff`**: so an accepted target can be used just if this holds for its base URL.
-/

namespace FunctionLoad

open FunctionLoad.Url

/-! ## URLs of the web -/

namespace Invocation

theorem webUrl_eq_ok_iff {s : String} {u : Url} :
    webUrl s = .ok u ↔ Url.parse s = .ok u ∧ u.isWeb = true := by
  unfold webUrl
  cases hp : Url.parse s with
  | error e =>
    constructor
    · intro h
      cases h
    · rintro ⟨h, -⟩
      cases h
  | ok v =>
    show (if v.isWeb = true then Except.ok v else _) = _ ↔ _
    by_cases hv : v.isWeb = true
    · rw [if_pos hv]
      constructor
      · intro h
        cases h
        exact ⟨rfl, hv⟩
      · rintro ⟨h, -⟩
        cases h
        rfl
    · rw [if_neg hv]
      constructor
      · intro h
        cases h
      · rintro ⟨h, hw⟩
        cases h
        exact absurd hw hv

end Invocation

namespace Settings

theorem httpUrl_eq_ok_iff {field s : String} :
    httpUrl field s = .ok () ↔ ∃ u, Url.parse s = .ok u ∧ u.isWeb = true := by
  unfold httpUrl nonEmpty require
  by_cases hs : s = ""
  · subst hs
    constructor
    · intro h
      cases h
    · rintro ⟨u, h, -⟩
      cases h
  · rw [if_pos (bne_iff_ne.mpr hs)]
    dsimp only [bind, Except.bind]
    cases Url.parse s with
    | error e =>
      constructor
      · intro h
        cases h
      · rintro ⟨u, h, -⟩
        cases h
    | ok v =>
      dsimp only
      split_ifs with hv
      · exact ⟨fun _ => ⟨v, rfl, hv⟩, fun _ => rfl⟩
      · constructor
        · intro h
          cases h
        · rintro ⟨u, h, hw⟩
          cases h
          exact absurd hw hv

end Settings

/-- An accepted target has a base URL of the web. -/
theorem Target.exists_url {t : Target} (h : t.check = .ok ()) :
    ∃ u, Url.parse t.baseUrl = .ok u ∧ u.isWeb = true := by
  unfold check Settings.within at h
  cases hu : Settings.httpUrl "base_url" t.baseUrl with
  | error e =>
    rw [hu] at h
    cases h
  | ok _ => exact Settings.httpUrl_eq_ok_iff.mp hu

/-! ## Paths of functions -/

namespace Catalog

theorem exists_of_mem_matrix {workloads runtimes names : List String}
    (h : matrix workloads runtimes = .ok names) {function : String} (hf : function ∈ names) :
    ∃ (w : Workload) (r : Runtime), function = w.functionName r := by
  unfold matrix at h
  dsimp only at h
  split_ifs at h
  cases h
  obtain ⟨w, -, hw⟩ := List.mem_flatMap.mp hf
  obtain ⟨r, -, hr⟩ := List.mem_map.mp hw
  exact ⟨w, r, hr.symm⟩

end Catalog

namespace Invocation

/-- What stands behind the base URL in the address of a function. -/
def functionPath (function : String) (mode : Mode) : String :=
  functionsPath ++ function ++ ":" ++ mode.verb

theorem endpoint_eq (function baseUrl : String) (mode : Mode) :
    endpoint function baseUrl mode = baseUrl ++ functionPath function mode := by
  simp only [endpoint, functionPath, String.append_assoc]

/-- The path of a function has plain segments: the last one is its name with the verb. -/
theorem isPlainPath_functionPath (w : Workload) (r : Runtime) (mode : Mode) :
    IsPlainPath (functionPath (w.functionName r) mode).toList := by
  have hw : ((Named.name w).toList.all fun c => isPlain c && c != '/') = true := by
    cases w <;> decide
  have hr : ((Named.name r).toList.all fun c => isPlain c && c != '/') = true := by
    cases r <;> decide
  have hverb : (mode.verb.toList.all fun c => isPlain c && c != '/') = true := by
    cases mode <;> decide
  have hname : (w.functionName r).toList = (Named.name w).toList ++ '-' :: (Named.name r).toList := by
    simp [Workload.functionName]
  have hlast : IsPlainSegment ((w.functionName r).toList ++ ':' :: mode.verb.toList) := by
    rw [hname]
    refine ⟨?_, ?_⟩
    · rw [List.all_append, List.all_append, List.all_cons, List.all_cons, hw, hr, hverb]
      decide
    · cases w <;> exact isDots_cons (by decide) (by decide) _
  have hpath : (functionPath (w.functionName r) mode).toList =
      [['v', '1'], ['f', 'u', 'n', 'c', 't', 'i', 'o', 'n', 's'],
        (w.functionName r).toList ++ ':' :: mode.verb.toList].flatMap ('/' :: ·) := by
    simp [functionPath, functionsPath]
  rw [hpath]
  refine isPlainPath_flatMap (List.cons_ne_nil _ _) ?_
  simp only [List.forall_mem_cons]
  exact ⟨⟨by decide, by decide⟩, ⟨by decide, by decide⟩, hlast, List.forall_mem_nil _⟩

theorem isPathText_functionPath (w : Workload) (r : Runtime) (mode : Mode) :
    isPathText (functionPath (w.functionName r) mode) = true :=
  (isPlainPath_functionPath w r mode).isPathText rfl

namespace Context

variable {t : Target} (c : Context)

theorem value_make {u : Url} (hp : Url.parse t.baseUrl = .ok u) (hw : u.isWeb = true) :
    (make t).value = .ok ⟨t.baseUrl, t.mode, t.timeout⟩ := by
  unfold make
  rw [hp]
  dsimp only
  rw [hw]
  rfl

theorem outgoing_eq_ok_iff {σ : Type} [Sink σ] (function : String) (input : Json.Value) (sink : σ) :
    (∃ o, (c.prepare function input sink).value.1.outgoing = .ok o) ↔
      ∃ u, Url.parse (c.baseUrl ++ functionPath function c.mode) = .ok u ∧ u.isWeb = true := by
  have ho : (c.prepare function input sink).value.1.outgoing =
      (webUrl (c.baseUrl ++ functionPath function c.mode)).map fun url =>
        ⟨url, [("content-type", contentType)], (wrap input sink).value.1, c.timeout⟩ := by
    rw [← endpoint_eq]
    rfl
  rw [ho]
  constructor
  · rintro ⟨o, h⟩
    cases hu : webUrl (c.baseUrl ++ functionPath function c.mode) with
    | error e =>
      rw [hu] at h
      cases h
    | ok u => exact ⟨u, webUrl_eq_ok_iff.mp hu⟩
  · rintro ⟨u, hu⟩
    rw [webUrl_eq_ok_iff.mpr hu]
    exact ⟨_, rfl⟩

/-- **Every request goes out, or none does**: it depends on the base URL only. -/
theorem outgoing_iff_isExtensible {u : Url} (hp : Url.parse c.baseUrl = .ok u) (hw : u.isWeb = true)
    (w : Workload) (r : Runtime) {σ : Type} [Sink σ] (input : Json.Value) (sink : σ) :
    (∃ o, (c.prepare (w.functionName r) input sink).value.1.outgoing = .ok o) ↔
      isExtensible c.baseUrl = true := by
  have ht := isPathText_functionPath w r c.mode
  rw [outgoing_eq_ok_iff]
  constructor
  · rintro ⟨v, hv, -⟩
    cases he : isExtensible c.baseUrl with
    | true => rfl
    | false =>
      obtain ⟨e, h⟩ := parse_append_error hp hw ht he
      rw [h] at hv
      cases hv
  · intro he
    obtain ⟨v, hv, hs, -⟩ := parse_append hp hw ht he
    refine ⟨v, hv, ?_⟩
    unfold isWeb schemeText at hw ⊢
    rw [hs]
    exact hw

end Context

end Invocation

open Invocation

/-- **Whether a target can be used**: its context is made, and the request for every function of the
catalog goes out whatever the input is. -/
def Target.isUsable (t : Target) : Prop :=
  ∃ c, (Context.make t).value = .ok c ∧
    ∀ workloads runtimes names, Catalog.matrix workloads runtimes = .ok names →
      ∀ function ∈ names, ∀ (input : Json.Value) {σ : Type} [Sink σ] (sink : σ),
        ∃ o, (c.prepare function input sink).value.1.outgoing = .ok o

namespace Target

variable {t : Target}

theorem isExtensible_of_isUsable (h : t.check = .ok ()) (ht : t.isUsable) :
    isExtensible t.baseUrl = true := by
  obtain ⟨u, hp, hw⟩ := t.exists_url h
  obtain ⟨c, hc, hall⟩ := ht
  rw [Context.value_make hp hw] at hc
  cases hc
  have hf : Workload.functionName .wordStats .java ∈ ["word-stats-java"] := by decide
  have ho := hall ["word-stats"] ["java"] _ (by decide) _ hf .null Discard.mk
  exact (Context.outgoing_iff_isExtensible ⟨_, _, _⟩ hp hw .wordStats .java .null Discard.mk).mp ho

theorem isUsable_of_isExtensible (h : t.check = .ok ()) (he : isExtensible t.baseUrl = true) :
    t.isUsable := by
  obtain ⟨u, hp, hw⟩ := t.exists_url h
  refine ⟨_, Context.value_make hp hw, fun workloads runtimes names hn function hf input _ _ sink => ?_⟩
  obtain ⟨w, r, rfl⟩ := Catalog.exists_of_mem_matrix hn hf
  exact (Context.outgoing_iff_isExtensible ⟨_, _, _⟩ hp hw w r input sink).mpr he

/-- **An accepted target can be used just if a path can be put behind its base URL.** -/
theorem isUsable_iff (h : t.check = .ok ()) : t.isUsable ↔ isExtensible t.baseUrl = true :=
  ⟨isExtensible_of_isUsable h, isUsable_of_isExtensible h⟩

/-- A space behind the slash is part of the path, and functions can be invoked. -/
theorem isUsable_slash_space :
    ({ baseUrl := "http://localhost:30080/ " } : Target).check = .ok () ∧
      ({ baseUrl := "http://localhost:30080/ " } : Target).isUsable :=
  ⟨rfl, (isUsable_iff rfl).mpr (by decide)⟩

/-- A space behind the port is accepted, but then no function can be invoked. -/
theorem not_isUsable_port_space :
    ({ baseUrl := "http://localhost:30080 " } : Target).check = .ok () ∧
      ¬ ({ baseUrl := "http://localhost:30080 " } : Target).isUsable := by
  refine ⟨rfl, fun h => ?_⟩
  exact absurd (isExtensible_of_isUsable rfl h) (by decide)

end Target

end FunctionLoad
