import FunctionLoad.Catalog
import FunctionLoad.Proofs.Text.LowerCase
import Mathlib.Data.List.Induction
import Mathlib.Data.List.ProdSigma

/-!
# What a selection of functions comes to

A name is brought into its normal form when it is selected, once more when it is read, and then it is
compared as it stands. So a name that is known only after the second time would be lost. There is none:
all names of the catalog are ASCII.

* `Selects`: the names that a list of names stands for.
* `IsPlain`, `normal_normal_mem_iff`: names that are their own normal forms, and of which nothing else
  gets to be one.
* `FirstOf`, `firstOf_keep`, **`firstOf_selection`**: each name once, in the order in which it comes
  first; after one more name, and after all.
* `firstOf_unknown`, `unknown_eq_nil_iff`: the same of the names that are reported.
* `functions`, `canonical`: the functions in their order, all of them and those that are selected.
* `matrix_eq`, `matrix_eq_ok_iff`: how the two selections are put together.
* **`matrix_canonical`**: what a selection comes to, and that nothing but the selected names matters.
-/

namespace FunctionLoad.Catalog

open FunctionLoad.Text

/-! ## Normal forms -/

theorem normal_eq_empty_iff (s : String) : normal s = "" ↔ ∀ c ∈ s.toList, isBlank c = true := by
  rw [normal, lower_eq_empty_iff, trim_eq_empty_iff]

/-- A normal form stays as it is, as long as what comes out is ASCII. -/
theorem normal_normal_of_ascii {s : String} (h : ∀ c ∈ (normal (normal s)).toList, c.toNat < 128) :
    normal (normal s) = normal s := by
  unfold normal at h ⊢
  rw [trim_lower_trim] at h ⊢
  exact lower_lower_of_ascii h

/-- Names that are their own normal forms, all in ASCII. -/
structure IsPlain (names : List String) : Prop where
  normal : ∀ n ∈ names, Catalog.normal n = n
  ascii : ∀ n ∈ names, n.toList.all (·.toNat < 128) = true

theorem isPlain_workloads : IsPlain (Named.names Workload) :=
  ⟨by decide, by decide⟩

theorem isPlain_runtimes : IsPlain (Named.names Runtime) :=
  ⟨by decide, by decide⟩

/-- **Normal forms that are known only after a second time are none.** -/
theorem normal_normal_mem_iff {names : List String} (h : IsPlain names) (raw : String) :
    normal (normal raw) ∈ names ↔ normal raw ∈ names := by
  constructor
  · intro hn
    have hascii := List.all_eq_true.mp (h.ascii _ hn)
    rwa [normal_normal_of_ascii fun c hc => of_decide_eq_true (hascii c hc)] at hn
  · intro hn
    rwa [h.normal _ hn]

/-! ## Names that are read -/

theorem isSome_ofName?_iff {α : Type} [Named α] (s : String) :
    (Named.ofName? s : Option α).isSome = true ↔ s ∈ Named.names α := by
  simp [Named.ofName?, Named.names]

theorem isOk_parse_workload (s : String) :
    (Workload.parse s).isOk = true ↔ normal s ∈ Named.names Workload := by
  rw [← isSome_ofName?_iff]
  unfold Workload.parse
  cases (Named.ofName? (normal s) : Option Workload) <;> simp [Except.isOk, Except.toBool]

theorem isOk_parse_runtime (s : String) :
    (Runtime.parse s).isOk = true ↔ normal s ∈ Named.names Runtime := by
  rw [← isSome_ofName?_iff]
  unfold Runtime.parse
  cases (Named.ofName? (normal s) : Option Runtime) <;> simp [Except.isOk, Except.toBool]

/-! ## Names that are selected -/

/-- Whether a name is the normal form of one that is given and is not blank. -/
def Selects (names : List String) (name : String) : Prop :=
  ∃ raw ∈ names, (¬ ∀ c ∈ raw.toList, isBlank c = true) ∧ normal raw = name

instance (names : List String) (name : String) : Decidable (Selects names name) :=
  decidable_of_iff (names.any fun raw => !raw.toList.all isBlank && normal raw == name) (by
    simp only [Selects, List.any_eq_true, List.all_eq_true, Bool.and_eq_true, Bool.not_eq_true',
      ← Bool.not_eq_true, beq_iff_eq])

theorem selects_iff {names : List String} {name : String} :
    Selects names name ↔ name ≠ "" ∧ name ∈ names.map normal := by
  constructor
  · rintro ⟨raw, hraw, hb, rfl⟩
    rw [← normal_eq_empty_iff] at hb
    exact ⟨hb, List.mem_map_of_mem hraw⟩
  · rintro ⟨hne, hmem⟩
    obtain ⟨raw, hraw, rfl⟩ := List.mem_map.mp hmem
    rw [Ne, normal_eq_empty_iff] at hne
    exact ⟨raw, hraw, hne, rfl⟩

/-- **The names that satisfy `p`**, each once, in the order in which they come first among those that are
given. -/
structure FirstOf (given : List String) (p : String → Prop) (found : List String) : Prop where
  mem_iff : ∀ n, n ∈ found ↔ n ∈ given ∧ p n
  order : found.Pairwise fun m n => given.idxOf m < given.idxOf n

/-- The names that are known once a name is given. -/
def keep (known : List String) (name : String) : List String :=
  if name = "" ∨ name ∈ known then known else known ++ [name]

theorem selection_eq (names : List String) :
    selection names = (names.map normal).foldl keep [] := by
  rw [List.foldl_map]
  rfl

/-- One more name comes behind all others, unless it is empty or there already. -/
theorem firstOf_keep {given known : List String} (h : FirstOf given (· ≠ "") known) (name : String) :
    FirstOf (given ++ [name]) (· ≠ "") (keep known name) := by
  -- names that were there keep their places
  have hold {n : String} (hn : n ∈ known) : (given ++ [name]).idxOf n = given.idxOf n :=
    List.idxOf_append_of_mem ((h.mem_iff n).mp hn).1
  have horder : known.Pairwise fun m n =>
      (given ++ [name]).idxOf m < (given ++ [name]).idxOf n := by
    refine h.order.imp_of_mem fun hm hn hlt => ?_
    rwa [hold hm, hold hn]
  unfold keep
  by_cases hc : name = "" ∨ name ∈ known
  · rw [if_pos hc]
    refine ⟨fun n => ?_, horder⟩
    rw [h.mem_iff, List.mem_append, List.mem_singleton]
    constructor
    · rintro ⟨hn, hne⟩
      exact ⟨.inl hn, hne⟩
    · rintro ⟨hn | rfl, hne⟩
      · exact ⟨hn, hne⟩
      · exact (h.mem_iff n).mp (hc.resolve_left hne)
  · rw [if_neg hc]
    rw [not_or] at hc
    have hnew : name ∉ given := fun hn => hc.2 ((h.mem_iff name).mpr ⟨hn, hc.1⟩)
    refine ⟨fun n => ?_, ?_⟩
    · rw [List.mem_append, h.mem_iff, List.mem_append, List.mem_singleton, or_and_right]
      refine or_congr_right ⟨?_, And.left⟩
      rintro rfl
      exact ⟨rfl, hc.1⟩
    · rw [List.pairwise_append]
      refine ⟨horder, List.pairwise_singleton _ _, fun m hm n hn => ?_⟩
      obtain rfl := List.mem_singleton.mp hn
      have hlt : given.idxOf m < given.length :=
        List.idxOf_lt_length_of_mem ((h.mem_iff m).mp hm).1
      rw [hold hm, List.idxOf_append, if_neg hnew]
      omega

/-- **A selection has each name once**, in the order in which they come first. -/
theorem firstOf_selection (names : List String) :
    FirstOf (names.map normal) (· ≠ "") (selection names) := by
  rw [selection_eq]
  induction names.map normal using List.reverseRecOn with
  | nil => exact ⟨by simp, List.Pairwise.nil⟩
  | append_singleton given name ih =>
    rw [List.foldl_append]
    exact firstOf_keep ih name

theorem mem_selection_iff {names : List String} {name : String} :
    name ∈ selection names ↔ Selects names name := by
  rw [(firstOf_selection names).mem_iff, selects_iff, and_comm]

/-- **What is reported are the selected names that are not known**, in the order in which they come
first. -/
theorem firstOf_unknown {α : Type} [Named α] {parse : String → Except Error α}
    (hparse : ∀ s, (parse s).isOk = true ↔ normal s ∈ Named.names α)
    (hplain : IsPlain (Named.names α)) (names : List String) :
    FirstOf (names.map normal) (fun n => n ≠ "" ∧ n ∉ Named.names α)
      (unknown parse (selection names)) := by
  refine ⟨fun n => ?_, (firstOf_selection names).order.filter _⟩
  rw [unknown, List.mem_filter, (firstOf_selection names).mem_iff, and_assoc]
  refine and_congr_right fun hn => and_congr_right fun _ => ?_
  obtain ⟨raw, -, rfl⟩ := List.mem_map.mp hn
  rw [Bool.not_eq_true', ← Bool.not_eq_true, hparse, normal_normal_mem_iff hplain]

/-- Whether all selected names are known. -/
def AllKnown (α : Type) [Named α] (names : List String) : Prop :=
  ∀ n, Selects names n → n ∈ Named.names α

theorem unknown_eq_nil_iff {α : Type} [Named α] {parse : String → Except Error α}
    (hparse : ∀ s, (parse s).isOk = true ↔ normal s ∈ Named.names α)
    (hplain : IsPlain (Named.names α)) (names : List String) :
    unknown parse (selection names) = [] ↔ AllKnown α names := by
  rw [List.eq_nil_iff_forall_not_mem]
  refine forall_congr' fun n => ?_
  rw [(firstOf_unknown hparse hplain names).mem_iff, selects_iff]
  constructor
  · rintro h ⟨hne, hn⟩
    by_contra hk
    exact h ⟨hn, hne, hk⟩
  · rintro h ⟨hn, hne, hk⟩
    exact hk (h ⟨hne, hn⟩)

/-! ## Functions that are selected -/

/-- All functions, in the order of the catalog. -/
def functions : List (Workload × Runtime) :=
  [(.wordStats, .java), (.wordStats, .javaLite), (.wordStats, .python), (.wordStats, .exec),
    (.jsonTransform, .java), (.jsonTransform, .javaLite), (.jsonTransform, .python),
    (.jsonTransform, .exec)]

/-- **The functions of the selected workloads and runtimes**, in the order of the catalog. -/
def canonical (workloads runtimes : List String) : List String :=
  (functions.filter fun f =>
    Selects workloads (Named.name f.1) ∧ Selects runtimes (Named.name f.2)).map
      fun f => f.1.functionName f.2

theorem flatMap_filter_map {α β γ : Type} (f : α → β → γ) (p : α → Bool) (q : β → Bool)
    (l : List α) (m : List β) :
    ((l.filter p).flatMap fun a => (m.filter q).map (f a)) =
      ((l ×ˢ m).filter fun x => p x.1 && q x.2).map fun x => f x.1 x.2 := by
  induction l with
  | nil => rfl
  | cons a l ih =>
    rw [List.product_cons, List.filter_append, List.map_append, ← ih, List.filter_map]
    by_cases ha : p a = true
    · rw [List.filter_cons_of_pos ha, List.flatMap_cons]
      simp [Function.comp_def, ha]
    · rw [List.filter_cons_of_neg ha]
      simp [Function.comp_def, ha]

theorem selected_eq_canonical (workloads runtimes : List String) :
    ((selected Workload (selection workloads)).flatMap fun w =>
      (selected Runtime (selection runtimes)).map w.functionName) = canonical workloads runtimes := by
  rw [selected, selected, flatMap_filter_map, canonical]
  simp only [mem_selection_iff, ← Bool.decide_and]
  rfl

theorem mem_canonical_iff {workloads runtimes : List String} (w : Workload) (r : Runtime) :
    w.functionName r ∈ canonical workloads runtimes ↔
      Selects workloads (Named.name w) ∧ Selects runtimes (Named.name r) := by
  have hinj : ∀ f ∈ functions, f.1.functionName f.2 = w.functionName r → f = (w, r) := by
    cases w <;> cases r <;> decide
  have hmem : (w, r) ∈ functions := by
    cases w <;> cases r <;> decide
  simp only [canonical, List.mem_map, List.mem_filter, decide_eq_true_eq]
  constructor
  · rintro ⟨f, ⟨hf, hs⟩, he⟩
    obtain rfl := hinj f hf he
    exact hs
  · intro hs
    exact ⟨(w, r), ⟨hmem, hs⟩, rfl⟩

theorem nodup_canonical (workloads runtimes : List String) :
    (canonical workloads runtimes).Nodup := by
  have hall : (functions.map fun f => f.1.functionName f.2).Nodup := by decide
  exact hall.sublist (List.filter_sublist.map _)

theorem canonical_congr {workloads workloads' runtimes runtimes' : List String}
    (hw : ∀ n, Selects workloads n ↔ Selects workloads' n)
    (hr : ∀ n, Selects runtimes n ↔ Selects runtimes' n) :
    canonical workloads runtimes = canonical workloads' runtimes' := by
  simp only [canonical, hw, hr]

theorem matrix_eq (workloads runtimes : List String) :
    matrix workloads runtimes =
      if unknown Workload.parse (selection workloads) ≠ [] then
        .error (.unknownWorkloads (unknown Workload.parse (selection workloads)))
      else if unknown Runtime.parse (selection runtimes) ≠ [] then
        .error (.unknownRuntimes (unknown Runtime.parse (selection runtimes)))
      else .ok (canonical workloads runtimes) := by
  rw [← selected_eq_canonical]
  rfl

theorem matrix_eq_ok_iff {workloads runtimes names : List String} :
    matrix workloads runtimes = .ok names ↔ AllKnown Workload workloads ∧ AllKnown Runtime runtimes ∧
      names = canonical workloads runtimes := by
  have hw := unknown_eq_nil_iff isOk_parse_workload isPlain_workloads workloads
  have hr := unknown_eq_nil_iff isOk_parse_runtime isPlain_runtimes runtimes
  rw [matrix_eq, ← hw, ← hr]
  split_ifs with h1 h2
  · simp [h1]
  · simp [h2]
  · rw [ne_eq, not_not] at h1 h2
    simp only [h1, h2, true_and, Except.ok.injEq]
    exact eq_comm

/-- **What a selection comes to.** It is refused just if it has names that are not known: the workloads
are reported before the runtimes, each name once, in the order in which they come first. Else it
comes to the selected functions, each of them once, in the order of the catalog, and two selections of
the same names come to the same functions, however often, in whichever order and case and with
whichever blanks they are given. -/
theorem matrix_canonical (workloads runtimes : List String) :
    (∀ names, matrix workloads runtimes = .ok names ↔
      AllKnown Workload workloads ∧ AllKnown Runtime runtimes ∧
        names = canonical workloads runtimes) ∧
    (canonical workloads runtimes).Nodup ∧
    (∀ (w : Workload) (r : Runtime), w.functionName r ∈ canonical workloads runtimes ↔
      Selects workloads (Named.name w) ∧ Selects runtimes (Named.name r)) ∧
    (¬ AllKnown Workload workloads → ∃ found,
      matrix workloads runtimes = .error (.unknownWorkloads found) ∧
        FirstOf (workloads.map normal) (fun n => n ≠ "" ∧ n ∉ Named.names Workload) found) ∧
    (AllKnown Workload workloads → ¬ AllKnown Runtime runtimes → ∃ found,
      matrix workloads runtimes = .error (.unknownRuntimes found) ∧
        FirstOf (runtimes.map normal) (fun n => n ≠ "" ∧ n ∉ Named.names Runtime) found) ∧
    ∀ workloads' runtimes', (∀ n, Selects workloads n ↔ Selects workloads' n) →
      (∀ n, Selects runtimes n ↔ Selects runtimes' n) →
      ∀ names, matrix workloads runtimes = .ok names ↔ matrix workloads' runtimes' = .ok names := by
  have hw := unknown_eq_nil_iff isOk_parse_workload isPlain_workloads workloads
  have hr := unknown_eq_nil_iff isOk_parse_runtime isPlain_runtimes runtimes
  refine ⟨fun names => matrix_eq_ok_iff, nodup_canonical workloads runtimes, mem_canonical_iff,
    fun h => ?_, fun h h' => ?_, fun workloads' runtimes' hw' hr' names => ?_⟩
  · rw [matrix_eq, if_pos (mt hw.mp h)]
    exact ⟨_, rfl, firstOf_unknown isOk_parse_workload isPlain_workloads workloads⟩
  · rw [matrix_eq, if_neg (not_not.mpr (hw.mpr h)), if_pos (mt hr.mp h')]
    exact ⟨_, rfl, firstOf_unknown isOk_parse_runtime isPlain_runtimes runtimes⟩
  · rw [matrix_eq_ok_iff, matrix_eq_ok_iff, canonical_congr hw' hr']
    simp only [AllKnown, hw', hr']

example :
    matrix ["json-transform", "\u00a0Word-Stats ", "word-stats"] ["PYTHON", "java", "", "python"] =
      .ok ["word-stats-java", "word-stats-python", "json-transform-java", "json-transform-python"] := by
  decide +kernel

end FunctionLoad.Catalog
