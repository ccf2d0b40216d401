import FunctionLoad.Proofs.Invocation.Usable
import FunctionLoad.Proofs.Settings.Override

/-!
# Gates for URLs

The text of a URL is looked at three times: when settings are checked, when a context is made of their
target, and when the address of a request is read. Each gate has a check of its own and errors of its
own, and the first one asks for a text that is not empty before it reads it. None of them is stricter
than the others, as the empty text is no URL anyway.

* `httpUrl_of_error`, `httpUrl_of_ok` and the same for `Context.make` and `webUrl`: what a gate says to a
  text, in terms of what the text is read as.
* `check_eq_ok_iff`: which settings are accepted.
* **`gates_agree`**: what passes one gate passes the others, and what does not is refused by all of them
  for the same reason.
-/

namespace FunctionLoad

open FunctionLoad.Settings FunctionLoad.Invocation

/-! ## Single gates -/

theorem Url.isWeb_eq_false_iff {u : Url} :
    u.isWeb = false ↔ u.schemeText ≠ "http" ∧ u.schemeText ≠ "https" := by
  rw [isWeb, Bool.or_eq_false_iff, beq_eq_false_iff_ne, beq_eq_false_iff_ne]

namespace Settings

variable (field : String) {s : String}

/-- A text that cannot be read is refused; an empty one is never read. -/
theorem httpUrl_of_error {reason : Url.Error} (h : Url.parse s = .error reason) :
    httpUrl field s = .error (if s = "" then .empty field else .invalidUrl field reason) := by
  unfold httpUrl nonEmpty require
  by_cases hs : s = ""
  · subst hs
    rfl
  · rw [if_pos (bne_iff_ne.mpr hs), if_neg hs, h]
    rfl

theorem httpUrl_of_ok {u : Url} (h : Url.parse s = .ok u) :
    httpUrl field s = if u.isWeb then .ok () else .error (.unsupportedScheme field u.schemeText) := by
  have hs : s ≠ "" := by
    rintro rfl
    cases h
  unfold httpUrl nonEmpty require
  rw [if_pos (bne_iff_ne.mpr hs), h]
  rfl

end Settings

namespace Invocation

theorem webUrl_of_error {s : String} {reason : Url.Error} (h : Url.parse s = .error reason) :
    webUrl s = .error (.invalidUrl reason) := by
  rw [webUrl, h]
  rfl

theorem webUrl_of_ok {s : String} {u : Url} (h : Url.parse s = .ok u) :
    webUrl s = if u.isWeb then .ok u else .error (.unsupportedScheme u.schemeText) := by
  rw [webUrl, h]
  rfl

namespace Context

variable {t : Target}

theorem make_of_error {reason : Url.Error} (h : Url.parse t.baseUrl = .error reason) :
    (make t).value = .error (.invalidUrl reason) := by
  rw [make, h]
  rfl

theorem make_of_scheme {u : Url} (h : Url.parse t.baseUrl = .ok u) (hw : u.isWeb = false) :
    (make t).value = .error (.unsupportedScheme u.schemeText) := by
  unfold make
  rw [h]
  dsimp only
  rw [hw]
  rfl

/-- A context is made just if the base URL is one of the web. -/
theorem make_eq_ok_iff : (∃ c, (make t).value = .ok c) ↔
    ∃ u, Url.parse t.baseUrl = .ok u ∧ u.isWeb = true := by
  constructor
  · rintro ⟨c, hc⟩
    cases hp : Url.parse t.baseUrl with
    | error reason =>
      rw [make_of_error hp] at hc
      cases hc
    | ok u =>
      refine ⟨u, rfl, ?_⟩
      by_contra hw
      rw [make_of_scheme hp (Bool.eq_false_iff.mpr hw)] at hc
      cases hc
  · rintro ⟨u, hp, hw⟩
    exact ⟨_, value_make hp hw⟩

end Context

end Invocation

/-! ## Settings that are accepted -/

namespace Settings

theorem within_eq_ok_iff {d : Domain} {x : Except Violation Unit} :
    within d x = .ok () ↔ x = .ok () := by
  cases x <;> simp [within, Except.mapError]

/-- What follows a check is looked at only if the check is passed. -/
theorem bind_eq_ok_iff {ε : Type} {x y : Except ε Unit} :
    (x >>= fun _ => y) = .ok () ↔ x = .ok () ∧ y = .ok () := by
  cases x with
  | error e => exact ⟨fun h => (by cases h), fun h => (by cases h.1)⟩
  | ok u => exact ⟨fun h => ⟨rfl, h⟩, And.right⟩

/-- **Which settings are accepted.** -/
theorem check_eq_ok_iff {s : Settings} : s.check = .ok () ↔
    httpUrl "base_url" s.target.baseUrl = .ok () ∧ 1 ≤ s.target.timeout.seconds ∧
      1 ≤ s.payload.size := by
  have hlogging : s.logging.check = .ok () := rfl
  rw [check, bind_eq_ok_iff, bind_eq_ok_iff, Target.check, Pool.check, within_eq_ok_iff,
    within_eq_ok_iff, bind_eq_ok_iff, positive_eq_ok_iff, positive_eq_ok_iff, hlogging, and_assoc,
    eq_self, and_true, UInt64.le_iff_toNat_le]
  rfl

end Settings

/-! ## All of them -/

/-- **The gates for URLs agree.** A base URL is accepted just if a context is made of its target, and just
if a request to it has an address. A text that is a URL of another scheme is refused at each gate with
this scheme, and one that is no URL is refused at each gate. So settings are accepted just if a context
is made of them, they wait for a second or more and their pool has a slot or more. -/
theorem gates_agree :
    (∀ (t : Target) (field body : String) (patience : Duration),
      (httpUrl field t.baseUrl = .ok () ↔ ∃ c, (Context.make t).value = .ok c) ∧
      ((∃ c, (Context.make t).value = .ok c) ↔
        ∃ u, (⟨t.baseUrl, body, patience⟩ : Request).url = .ok u) ∧
      (∀ u, Url.parse t.baseUrl = .ok u → u.schemeText ≠ "http" → u.schemeText ≠ "https" →
        httpUrl field t.baseUrl = .error (.unsupportedScheme field u.schemeText) ∧
        (Context.make t).value = .error (.unsupportedScheme u.schemeText) ∧
        (⟨t.baseUrl, body, patience⟩ : Request).url = .error (.unsupportedScheme u.schemeText)) ∧
      ∀ reason, Url.parse t.baseUrl = .error reason →
        httpUrl field t.baseUrl =
          .error (if t.baseUrl = "" then .empty field else .invalidUrl field reason) ∧
        (Context.make t).value = .error (.invalidUrl reason) ∧
        (⟨t.baseUrl, body, patience⟩ : Request).url = .error (.invalidUrl reason)) ∧
    ∀ s : Settings, s.check = .ok () ↔
      (∃ c, (Context.make s.target).value = .ok c) ∧ 1 ≤ s.target.timeout.seconds ∧
        1 ≤ s.payload.size := by
  refine ⟨fun t field body patience => ⟨?_, ?_, fun u hp h h' => ?_, fun reason hp => ?_⟩,
    fun s => ?_⟩
  · rw [httpUrl_eq_ok_iff, Context.make_eq_ok_iff]
  · rw [Context.make_eq_ok_iff]
    exact exists_congr fun u => webUrl_eq_ok_iff.symm
  · have hw := Url.isWeb_eq_false_iff.mpr ⟨h, h'⟩
    refine ⟨?_, Context.make_of_scheme hp hw, ?_⟩
    · rw [httpUrl_of_ok field hp, hw]
      rfl
    · rw [Request.url, webUrl_of_ok hp, hw]
      rfl
  · exact ⟨httpUrl_of_error field hp, Context.make_of_error hp, webUrl_of_error hp⟩
  · rw [check_eq_ok_iff, httpUrl_eq_ok_iff, Context.make_eq_ok_iff]

end FunctionLoad
