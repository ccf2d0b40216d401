import FunctionLoad.Proofs.Json.RoundTrip
import Mathlib.Data.List.Perm.Basic
import Mathlib.Data.String.Basic

/-!
# How long a canonical form is

Sorting members by key moves them, and drops all but the last one of a repeated key. Where no key is
repeated, nothing is lost.

* `perm_intercalate`: separated texts, moved around.
* `Value.isDistinct`: whether no object in a value repeats a key.
* `Value.perm_putMember`, `Value.perm_canonicalMembers`: members that are sorted one by one.
* **`Value.perm_chars_canonical`**, **`Value.utf8ByteSize_compact_canonical`**: a canonical form has
  the same characters, so it is as long.
-/

namespace FunctionLoad.Json

open scoped List

/-! ## Separated texts -/

theorem intercalate_append {α : Type} (sep : List α) {ls : List (List α)} (h : ls ≠ []) :
    List.intercalate sep ls ++ sep = ls.flatMap (· ++ sep) := by
  induction ls with
  | nil => exact absurd rfl h
  | cons l ls ih =>
    cases ls with
    | nil => rw [List.intercalate_singleton, List.flatMap_cons, List.flatMap_nil, List.append_nil]
    | cons m ls =>
      rw [List.intercalate_cons_cons, List.append_assoc (l ++ sep), ih (List.cons_ne_nil m ls)]
      rfl

/-- Texts that are moved around, and in which characters are, have the same characters between
separators. -/
theorem perm_intercalate {α β : Type} (sep : List α) {l m : List β} {f g : β → List α} (h : l ~ m)
    (hfg : ∀ a ∈ l, f a ~ g a) :
    List.intercalate sep (l.map f) ~ List.intercalate sep (m.map g) := by
  by_cases hl : l = []
  · subst hl
    rw [List.nil_perm.mp h]
    exact .rfl
  · have hm : m ≠ [] := fun hm => hl (List.perm_nil.mp (hm ▸ h))
    rw [← List.perm_append_right_iff sep, intercalate_append sep (mt List.map_eq_nil_iff.mp hl),
      intercalate_append sep (mt List.map_eq_nil_iff.mp hm), List.flatMap_map, List.flatMap_map]
    exact List.Perm.flatMap h fun a ha => (hfg a ha).append_right sep

theorem utf8Len_perm {cs ds : List Char} (h : cs ~ ds) : String.utf8Len cs = String.utf8Len ds := by
  induction h with
  | nil => rfl
  | cons c _ ih => rw [String.utf8Len, String.utf8Len, ih]
  | swap c d cs =>
    rw [String.utf8Len, String.utf8Len, String.utf8Len, String.utf8Len]
    omega
  | trans _ _ ih ih' => exact ih.trans ih'

namespace Value

/-! ## Keys -/

mutual

/-- Whether no object in a value repeats a key. -/
def isDistinct : Value → Bool
  | .list items => areDistinct items
  | .object members => decide (members.map Prod.fst).Nodup && membersDistinct members
  | _ => true

/-- The same for every item of a list. -/
def areDistinct : List Value → Bool
  | [] => true
  | v :: r => v.isDistinct && areDistinct r

/-- The same for every member of an object. -/
def membersDistinct : List (String × Value) → Bool
  | [] => true
  | (_, v) :: r => v.isDistinct && membersDistinct r

end

theorem areDistinct_eq_all (items : List Value) : areDistinct items = items.all isDistinct := by
  induction items with
  | nil => rfl
  | cons v r ih => rw [areDistinct, List.all_cons, ih]

/-! ## Members -/

theorem perm_putMember {key : String} (v : Value) {done : List (String × Value)}
    (h : key ∉ done.map Prod.fst) : putMember key v done ~ (key, v) :: done := by
  induction done with
  | nil => exact .rfl
  | cons m done ih =>
    obtain ⟨k, w⟩ := m
    rw [List.map_cons, List.mem_cons, not_or] at h
    rw [putMember]
    split
    · exact .rfl
    · rw [if_neg (by simpa using h.1)]
      exact ((ih h.2).cons (k, w)).trans (.swap ..)

/-- **Members of different keys are all kept.** -/
theorem perm_canonicalMembers (members : List (String × Value)) {done : List (String × Value)}
    (h : (members.map Prod.fst ++ done.map Prod.fst).Nodup) :
    canonicalMembers done members ~ members.map (fun m => (m.1, m.2.canonical)) ++ done := by
  induction members generalizing done with
  | nil => exact .rfl
  | cons m members ih =>
    obtain ⟨k, v⟩ := m
    rw [List.map_cons, List.cons_append, List.nodup_cons, List.mem_append, not_or] at h
    -- a member put among those that are sorted might as well stand in front of them
    have hput := perm_putMember v.canonical h.1.2
    have hkeys : (members.map Prod.fst ++ (putMember k v.canonical done).map Prod.fst).Nodup := by
      have hmoved := ((hput.map Prod.fst).append_left (members.map Prod.fst)).trans List.perm_middle
      rw [hmoved.nodup_iff, List.nodup_cons, List.mem_append, not_or]
      exact h
    rw [canonicalMembers, List.map_cons, List.cons_append]
    exact (ih hkeys).trans ((hput.append_left _).trans List.perm_middle)

/-! ## Characters -/

theorem canonicalItems_eq_map (items : List Value) :
    canonicalItems items = items.map canonical := by
  induction items with
  | nil => rfl
  | cons v r ih => rw [canonicalItems, List.map_cons, ih]

/-- A list of items whose canonical forms have their characters. -/
theorem perm_chars_canonical_list {items : List Value}
    (h : ∀ v ∈ items, v.canonical.chars ~ v.chars) :
    (list items).canonical.chars ~ (list items).chars := by
  rw [canonical, chars, chars, canonicalItems_eq_map, itemsChars_eq_map, itemsChars_eq_map,
    List.map_map]
  exact ((perm_intercalate [','] (.refl items) h).append_right [']']).cons '['

/-- An object of different keys, with members whose canonical forms have their characters. -/
theorem perm_chars_canonical_object {members : List (String × Value)}
    (hkeys : (members.map Prod.fst).Nodup) (h : ∀ m ∈ members, m.2.canonical.chars ~ m.2.chars) :
    (object members).canonical.chars ~ (object members).chars := by
  rw [← List.append_nil (members.map Prod.fst)] at hkeys
  have hmoved : canonicalMembers [] members ~ members.map (fun m => (m.1, m.2.canonical)) ++ [] :=
    perm_canonicalMembers members hkeys
  rw [List.append_nil] at hmoved
  rw [canonical, chars, chars, membersChars_eq_map, membersChars_eq_map]
  refine (List.Perm.append_right ['\x7d'] ?_).cons '\x7b'
  refine (perm_intercalate [','] hmoved fun _ _ => .rfl).trans ?_
  rw [List.map_map]
  exact perm_intercalate [','] (.refl members) fun m hm => ((h m hm).cons ':').append_left _

mutual

/-- **A canonical form has the same characters**, if no object repeats a key. -/
theorem perm_chars_canonical : (v : Value) → v.isDistinct = true → v.canonical.chars ~ v.chars
  | .list items, h => perm_chars_canonical_list (perm_chars_items items h)
  | .object members, h => by
    rw [isDistinct, Bool.and_eq_true] at h
    exact perm_chars_canonical_object (of_decide_eq_true h.1) (perm_chars_members members h.2)
  | .null, _ => .rfl
  | .bool _, _ => .rfl
  | .number _, _ => .rfl
  | .text _, _ => .rfl

theorem perm_chars_items : (items : List Value) → areDistinct items = true →
    ∀ v ∈ items, v.canonical.chars ~ v.chars
  | [], _ => nofun
  | v :: r, h => by
    rw [areDistinct, Bool.and_eq_true] at h
    exact List.forall_mem_cons.mpr ⟨perm_chars_canonical v h.1, perm_chars_items r h.2⟩

theorem perm_chars_members : (members : List (String × Value)) → membersDistinct members = true →
    ∀ m ∈ members, m.2.canonical.chars ~ m.2.chars
  | [], _ => nofun
  | (_, v) :: r, h => by
    rw [membersDistinct, Bool.and_eq_true] at h
    exact List.forall_mem_cons.mpr ⟨perm_chars_canonical v h.1, perm_chars_members r h.2⟩

end

/-- **A canonical form is as long as the value**, if no object repeats a key. -/
theorem utf8ByteSize_compact_canonical {v : Value} (h : v.isDistinct = true) :
    v.canonical.compact.utf8ByteSize = v.compact.utf8ByteSize := by
  rw [compact, compact, String.utf8ByteSize_ofList, String.utf8ByteSize_ofList]
  exact utf8Len_perm (perm_chars_canonical v h)

end Value

end FunctionLoad.Json
