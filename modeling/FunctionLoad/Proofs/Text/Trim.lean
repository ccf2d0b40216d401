import FunctionLoad.Text.Blank
import Mathlib.Data.List.DropRight

/-!
# Trimmed texts

* `dropWhile_eq_self`, `head?_dropWhile`: what a reader that skips elements stops before.
* `takeWhile_append_of_head`, `dropWhile_append_of_head`: a run of elements in front of one that is no
  part of it.
* `IsTrimmed`, **`trim_eq_self`**, **`isTrimmed_trim`**: texts without blanks at either end.
* `trim_eq_empty_iff`: texts of which nothing is left.
-/

namespace FunctionLoad.Text

/-! ## Runs -/

section

variable {α : Type} {p : α → Bool} {l r : List α}

theorem dropWhile_eq_self (h : ∀ a ∈ l.head?, p a = false) : l.dropWhile p = l := by
  cases l with
  | nil => rfl
  | cons a l => rw [List.dropWhile_cons_of_neg (by rw [h a rfl]; exact Bool.false_ne_true)]

theorem head?_dropWhile : ∀ a ∈ (l.dropWhile p).head?, p a = false := by
  intro a ha
  have h := List.head?_dropWhile_not p l
  rw [Option.mem_def.mp ha] at h
  exact h

theorem dropWhile_append_of_head (hl : ∀ a ∈ l, p a = true) (hr : ∀ a ∈ r.head?, p a = false) :
    (l ++ r).dropWhile p = r := by
  rw [List.dropWhile_append_of_pos hl, dropWhile_eq_self hr]

theorem takeWhile_append_of_head (hl : ∀ a ∈ l, p a = true) (hr : ∀ a ∈ r.head?, p a = false) :
    (l ++ r).takeWhile p = l := by
  have hsplit := List.takeWhile_append_dropWhile (p := p) (l := l ++ r)
  rw [dropWhile_append_of_head hl hr] at hsplit
  exact List.append_cancel_right hsplit

end

/-! ## Texts -/

/-- No blank at either end. -/
structure IsTrimmed (cs : List Char) : Prop where
  head : ∀ c ∈ cs.head?, isBlank c = false
  last : ∀ c ∈ cs.getLast?, isBlank c = false

theorem toList_trim (s : String) : (trim s).toList =
    ((s.toList.dropWhile isBlank).reverse.dropWhile isBlank).reverse := by
  rw [trim, trimEnd, toList_trimStart, String.toList_ofList]

/-- A trimmed text stays as it is. -/
theorem trim_eq_self {s : String} (h : IsTrimmed s.toList) : trim s = s := by
  have hlast : ∀ c ∈ s.toList.reverse.head?, isBlank c = false := by
    rw [List.head?_reverse]
    exact h.last
  rw [← String.toList_inj, toList_trim, dropWhile_eq_self h.head, dropWhile_eq_self hlast,
    List.reverse_reverse]

theorem isTrimmed_trim (s : String) : IsTrimmed (trim s).toList := by
  rw [toList_trim]
  refine ⟨fun c hc => ?_, fun c hc => ?_⟩
  · -- what is dropped at the end leaves the start as it is, unless nothing is left
    have hp : ((s.toList.dropWhile isBlank).reverse.dropWhile isBlank).reverse <+:
        s.toList.dropWhile isBlank := by
      rw [← List.reverse_suffix, List.reverse_reverse]
      exact List.dropWhile_suffix isBlank
    obtain ⟨r, hr⟩ := hp
    have hstart : c ∈ (s.toList.dropWhile isBlank).head? := by
      rw [← hr, List.head?_append, Option.mem_def.mp hc]
      rfl
    exact head?_dropWhile c hstart
  · rw [List.getLast?_reverse] at hc
    exact head?_dropWhile c hc

theorem trim_eq_empty_iff (s : String) : trim s = "" ↔ ∀ c ∈ s.toList, isBlank c = true := by
  rw [← String.toList_inj, toList_trim, String.toList_empty, List.reverse_eq_nil_iff,
    List.dropWhile_eq_nil_iff]
  constructor
  · intro h
    cases hd : s.toList.dropWhile isBlank with
    | nil => exact List.dropWhile_eq_nil_iff.mp hd
    | cons c r =>
      have hstart : c ∈ (s.toList.dropWhile isBlank).head? := by
        rw [hd]
        rfl
      have hc : isBlank c = false := head?_dropWhile c hstart
      have hb : isBlank c = true := h c (by simp [hd])
      simp [hc] at hb
  · intro h c hc
    exact h c ((List.dropWhile_suffix isBlank).subset (List.mem_reverse.mp hc))

end FunctionLoad.Text
