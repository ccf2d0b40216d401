import FunctionLoad.Program
import FunctionLoad.Proofs.Catalog

/-!
# Selections without names

No selection selects everything. Whether there is one is decided by the list of names as it is given,
and blank names are dropped from it later. So a list of nothing but blank names is a selection, and it
selects nothing.

* `IsNameless`, `IsBlankOnly`: lists without names, and those of them that are not empty.
* `selects_names`, `selects_orAll_iff`, `allKnown_orAll_iff`, `isNameless_orAll_iff`: what is selected in
  place of no selection.
* `functionNames_eq_ok_iff`, `functionNames_eq_error`: what a selection comes to.
* **`canonical_eq_nil_iff`**: when known names come to no functions.
* **`functionNames_nameless`**: what lists without names come to.
-/

namespace FunctionLoad.Catalog

open FunctionLoad.Text

/-- Whether a list has no names but blank ones. -/
def IsNameless (names : List String) : Prop :=
  ∀ raw ∈ names, ∀ c ∈ raw.toList, isBlank c = true

/-- Whether a list has blank names, and no other ones. -/
def IsBlankOnly (names : List String) : Prop :=
  names ≠ [] ∧ IsNameless names

theorem isNameless_iff {names : List String} : IsNameless names ↔ ∀ n, ¬ Selects names n := by
  constructor
  · rintro h n ⟨raw, hraw, hblank, -⟩
    exact hblank (h raw hraw)
  · intro h raw hraw
    by_contra hblank
    exact h _ ⟨raw, hraw, hblank, rfl⟩

/-! ## What stands for no selection -/

section

variable {α : Type} [Named α] {names : List String}

theorem IsNameless.allKnown (h : IsNameless names) : AllKnown α names :=
  fun n hn => absurd hn (isNameless_iff.mp h n)

theorem orAll_nil : orAll α [] = Named.names α := rfl

theorem orAll_of_ne_nil (h : names ≠ []) : orAll α names = names := by
  rw [orAll, List.isEmpty_eq_false_iff.mpr h]
  rfl

variable (hplain : IsPlain (Named.names α)) (hne : "" ∉ Named.names α)
include hplain hne

/-- The names of all elements select themselves. -/
theorem selects_names {n : String} : Selects (Named.names α) n ↔ n ∈ Named.names α := by
  have hmap : (Named.names α).map normal = Named.names α :=
    (List.map_congr_left hplain.normal).trans (List.map_id' _)
  rw [selects_iff, hmap]
  refine and_iff_right_of_imp fun hn => ?_
  rintro rfl
  exact hne hn

theorem selects_orAll_iff {n : String} (hn : n ∈ Named.names α) :
    Selects (orAll α names) n ↔ names = [] ∨ Selects names n := by
  by_cases hnil : names = []
  · subst hnil
    rw [orAll_nil, selects_names hplain hne]
    exact iff_of_true hn (.inl rfl)
  · rw [orAll_of_ne_nil hnil, or_iff_right hnil]

theorem allKnown_orAll_iff : AllKnown α (orAll α names) ↔ AllKnown α names := by
  by_cases hnil : names = []
  · subst hnil
    have hnone : IsNameless ([] : List String) := fun _ h => nomatch h
    exact iff_of_true (fun n hn => (selects_names hplain hne).mp hn) hnone.allKnown
  · rw [orAll_of_ne_nil hnil]

theorem isNameless_orAll_iff (hsome : Named.names α ≠ []) :
    IsNameless (orAll α names) ↔ IsBlankOnly names := by
  by_cases hnil : names = []
  · subst hnil
    obtain ⟨n, hn⟩ := List.exists_mem_of_ne_nil _ hsome
    refine iff_of_false (fun h => ?_) (fun h => h.1 rfl)
    exact isNameless_iff.mp h n ((selects_names hplain hne).mpr hn)
  · rw [orAll_of_ne_nil hnil, IsBlankOnly, and_iff_right hnil]

end

theorem exists_selected {α : Type} [Named α] {names : List String} (hknown : AllKnown α names)
    (h : ¬ IsNameless names) : ∃ a : α, Selects names (Named.name a) := by
  rw [isNameless_iff, not_forall_not] at h
  obtain ⟨n, hn⟩ := h
  obtain ⟨a, -, rfl⟩ := List.mem_map.mp (hknown n hn)
  exact ⟨a, hn⟩

/-! ## What selections come to -/

section

variable {workloads workloads' runtimes runtimes' : List String}

/-- **Known names come to no functions just if there are no names** of workloads or of runtimes. -/
theorem canonical_eq_nil_iff (hw : AllKnown Workload workloads) (hr : AllKnown Runtime runtimes) :
    canonical workloads runtimes = [] ↔ IsNameless workloads ∨ IsNameless runtimes := by
  constructor
  · intro hnil
    by_contra hnames
    rw [not_or] at hnames
    obtain ⟨w, hsw⟩ := exists_selected hw hnames.1
    obtain ⟨r, hsr⟩ := exists_selected hr hnames.2
    have hmem := (mem_canonical_iff w r).mpr ⟨hsw, hsr⟩
    rw [hnil] at hmem
    cases hmem
  · intro h
    rw [canonical, List.map_eq_nil_iff, List.filter_eq_nil_iff]
    intro f _ hf
    rw [decide_eq_true_eq] at hf
    rcases h with h | h
    · exact isNameless_iff.mp h _ hf.1
    · exact isNameless_iff.mp h _ hf.2

theorem allKnown_workloads :
    AllKnown Workload (orAll Workload workloads) ↔ AllKnown Workload workloads :=
  allKnown_orAll_iff isPlain_workloads (by decide)

theorem allKnown_runtimes : AllKnown Runtime (orAll Runtime runtimes) ↔ AllKnown Runtime runtimes :=
  allKnown_orAll_iff isPlain_runtimes (by decide)

theorem canonical_orAll_eq_nil_iff (hw : AllKnown Workload workloads)
    (hr : AllKnown Runtime runtimes) :
    canonical (orAll Workload workloads) (orAll Runtime runtimes) = [] ↔
      IsBlankOnly workloads ∨ IsBlankOnly runtimes := by
  rw [canonical_eq_nil_iff (allKnown_workloads.mpr hw) (allKnown_runtimes.mpr hr),
    isNameless_orAll_iff isPlain_workloads (by decide) (by decide),
    isNameless_orAll_iff isPlain_runtimes (by decide) (by decide)]

/-- The selected functions, where no selection selects all of them. -/
theorem canonical_orAll (workloads runtimes : List String) :
    canonical (orAll Workload workloads) (orAll Runtime runtimes) =
      (functions.filter fun f =>
        (workloads = [] ∨ Selects workloads (Named.name f.1)) ∧
          (runtimes = [] ∨ Selects runtimes (Named.name f.2))).map fun f => f.1.functionName f.2 := by
  have hw (w : Workload) : Named.name w ∈ Named.names Workload := by cases w <;> decide
  have hr (r : Runtime) : Named.name r ∈ Named.names Runtime := by cases r <;> decide
  simp only [canonical, selects_orAll_iff isPlain_workloads (by decide) (hw _),
    selects_orAll_iff isPlain_runtimes (by decide) (hr _)]

theorem functionNames_eq_ok_iff {names : List String} : functionNames workloads runtimes = .ok names ↔
    AllKnown Workload workloads ∧ AllKnown Runtime runtimes ∧
      names = canonical (orAll Workload workloads) (orAll Runtime runtimes) := by
  have hmatrix : functionNames workloads runtimes = .ok names ↔
      matrix (orAll Workload workloads) (orAll Runtime runtimes) = .ok names := by
    unfold functionNames
    cases matrix (orAll Workload workloads) (orAll Runtime runtimes) <;> simp [Except.mapError]
  rw [hmatrix, matrix_eq_ok_iff, allKnown_workloads, allKnown_runtimes]

theorem functionNames_of_known (hw : AllKnown Workload workloads) (hr : AllKnown Runtime runtimes) :
    functionNames workloads runtimes =
      .ok (canonical (orAll Workload workloads) (orAll Runtime runtimes)) :=
  functionNames_eq_ok_iff.mpr ⟨hw, hr, rfl⟩

/-- Unknown workloads are reported whatever the runtimes are. -/
theorem functionNames_congr_runtimes (h : ¬ AllKnown Workload workloads) :
    functionNames workloads runtimes = functionNames workloads runtimes' := by
  have hunknown := mt (unknown_eq_nil_iff isOk_parse_workload isPlain_workloads _).mp
    (mt allKnown_workloads.mp h)
  rw [functionNames, functionNames, matrix_eq, matrix_eq, if_pos hunknown, if_pos hunknown]

/-- Unknown runtimes are reported whichever known workloads there are. -/
theorem functionNames_congr_workloads (h : AllKnown Workload workloads)
    (h' : AllKnown Workload workloads') (hr : ¬ AllKnown Runtime runtimes) :
    functionNames workloads runtimes = functionNames workloads' runtimes := by
  have hknown := (unknown_eq_nil_iff isOk_parse_workload isPlain_workloads _).mpr
    (allKnown_workloads.mpr h)
  have hknown' := (unknown_eq_nil_iff isOk_parse_workload isPlain_workloads _).mpr
    (allKnown_workloads.mpr h')
  have hunknown := mt (unknown_eq_nil_iff isOk_parse_runtime isPlain_runtimes _).mp
    (mt allKnown_runtimes.mp hr)
  rw [functionNames, functionNames, matrix_eq, matrix_eq, if_neg (not_not.mpr hknown),
    if_neg (not_not.mpr hknown'), if_pos hunknown, if_pos hunknown]

end

theorem isNameless_nil : IsNameless [] :=
  fun _ h => nomatch h

theorem not_isBlankOnly_nil : ¬ IsBlankOnly [] :=
  fun h => h.1 rfl

/-- **What lists without names come to.** An empty list selects everything. A list of nothing but blank
names selects nothing, so known names come to no functions just if there is such a list. It makes no
difference to an empty one where there are unknown names on the other side, which are reported, or
another such list; everywhere else it does. -/
theorem functionNames_nameless (workloads runtimes : List String) :
    (∀ names, functionNames workloads runtimes = .ok names ↔
      AllKnown Workload workloads ∧ AllKnown Runtime runtimes ∧
        names = (functions.filter fun f =>
          (workloads = [] ∨ Selects workloads (Named.name f.1)) ∧
            (runtimes = [] ∨ Selects runtimes (Named.name f.2))).map
              fun f => f.1.functionName f.2) ∧
    (functionNames workloads runtimes = .ok [] ↔
      AllKnown Workload workloads ∧ AllKnown Runtime runtimes ∧
        (IsBlankOnly workloads ∨ IsBlankOnly runtimes)) ∧
    (IsNameless workloads → (functionNames workloads runtimes = functionNames [] runtimes ↔
      workloads = [] ∨ ¬ AllKnown Runtime runtimes ∨ IsBlankOnly runtimes)) ∧
    (IsNameless runtimes → (functionNames workloads runtimes = functionNames workloads [] ↔
      runtimes = [] ∨ ¬ AllKnown Workload workloads ∨ IsBlankOnly workloads)) := by
  refine ⟨fun names => ?_, ?_, fun hn => ?_, fun hn => ?_⟩
  · rw [functionNames_eq_ok_iff, canonical_orAll]
  · rw [functionNames_eq_ok_iff]
    refine and_congr_right fun hw => and_congr_right fun hr => ?_
    rw [eq_comm, canonical_orAll_eq_nil_iff hw hr]
  · by_cases hnil : workloads = []
    · subst hnil
      exact iff_of_true rfl (.inl rfl)
    by_cases hr : AllKnown Runtime runtimes
    · have hblank := (canonical_orAll_eq_nil_iff hn.allKnown hr).mpr (.inl ⟨hnil, hn⟩)
      rw [functionNames_of_known hn.allKnown hr, functionNames_of_known isNameless_nil.allKnown hr,
        hblank, Except.ok.injEq, eq_comm, canonical_orAll_eq_nil_iff isNameless_nil.allKnown hr,
        or_iff_right not_isBlankOnly_nil, or_iff_right hnil, or_iff_right (not_not.mpr hr)]
    · exact iff_of_true (functionNames_congr_workloads hn.allKnown isNameless_nil.allKnown hr)
        (.inr (.inl hr))
  · by_cases hnil : runtimes = []
    · subst hnil
      exact iff_of_true rfl (.inl rfl)
    by_cases hw : AllKnown Workload workloads
    · have hblank := (canonical_orAll_eq_nil_iff hw hn.allKnown).mpr (.inr ⟨hnil, hn⟩)
      rw [functionNames_of_known hw hn.allKnown, functionNames_of_known hw isNameless_nil.allKnown,
        hblank, Except.ok.injEq, eq_comm, canonical_orAll_eq_nil_iff hw isNameless_nil.allKnown,
        or_iff_left not_isBlankOnly_nil, or_iff_right hnil, or_iff_right (not_not.mpr hw)]
    · exact iff_of_true (functionNames_congr_runtimes hw) (.inr (.inl hw))

/-- One empty name of a workload: there is no name, but no function is selected either. -/
theorem not_functionNames_blank :
    IsNameless [""] ∧ functionNames [""] ["java"] = .ok [] ∧
      functionNames [] ["java"] = .ok ["word-stats-java", "json-transform-java"] := by
  refine ⟨?_, by decide, by decide⟩
  intro raw hraw c hc
  obtain rfl := List.mem_singleton.mp hraw
  cases hc

end FunctionLoad.Catalog
