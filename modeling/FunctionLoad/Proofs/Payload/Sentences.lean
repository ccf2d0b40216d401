import FunctionLoad.Proofs.Json.Canonical
import FunctionLoad.Proofs.Payload.WordStats
import Mathlib.Data.List.Nodup

/-!
# What texts for word statistics read like

* `IsSentence`, `isSentence_sentence`: sentences are made of words of the four lists.
* `said`, `nodup_said`, `sentences_eq_flatten`: the sentences of a seed, and the runs in which they
  are repeated.
* `total`, **`four_runs`**, `le_total`, `total_le`: how many sentences a text has. Four runs in a row
  have ten, so three have at least six and seven have no more than nineteen.
* `parts`, `parts_body`: a text without its last full stop is taken apart into its sentences.
* `le_utf8ByteSize_text`: how short a text can be.
* **`ofSeed_reads`**: all of it.
-/

namespace FunctionLoad.Payload.WordStats

/-! ## Sentences -/

/-- A sentence made of words of the four lists. -/
def IsSentence (s : String) : Prop :=
  ∃ a ∈ adjectives, ∃ n ∈ nouns, ∃ v ∈ verbs, ∃ d ∈ adverbs,
    s = "The " ++ a ++ " " ++ n ++ " " ++ v ++ " " ++ d

theorem isSentence_sentence (seed i : ℕ) : IsSentence (sentence seed i) :=
  ⟨_, pick_mem adjectives _ _, _, pick_mem nouns _ _, _, pick_mem verbs _ _, _,
    pick_mem adverbs _ _, rfl⟩

/-- The sentences of a seed, each of them once. -/
def said (seed : ℕ) : List String :=
  (List.range (sentenceCount seed)).map (sentence seed)

theorem nodup_said (seed : ℕ) : (said seed).Nodup := by
  refine List.Nodup.map_on (fun i hi j hj h => ?_) List.nodup_range
  exact sentence_injOn seed (List.mem_range.mp hi) (List.mem_range.mp hj) h

/-- The sentences of a text come in runs. -/
theorem sentences_eq_flatten (seed : ℕ) :
    sentences seed = ((said seed).mapIdx fun i s => List.replicate (repeats seed i) s).flatten := by
  have hruns : (said seed).mapIdx (fun i s => List.replicate (repeats seed i) s) =
      (List.range (sentenceCount seed)).map fun i =>
        List.replicate (repeats seed i) (sentence seed i) := by
    refine List.ext_getElem ?_ fun i _ _ => ?_
    · simp [said]
    · simp [said]
  rw [hruns, sentences, List.flatMap_def]

/-! ## How many there are -/

/-- How many sentences the first `n` runs of a seed have. -/
def total (seed n : ℕ) : ℕ :=
  ((List.range n).map (repeats seed)).sum

theorem total_mono (seed : ℕ) {m n : ℕ} (h : m ≤ n) : total seed m ≤ total seed n := by
  obtain ⟨k, rfl⟩ := Nat.exists_eq_add_of_le h
  rw [total, total, List.range_add, List.map_append, List.sum_append]
  exact Nat.le_add_right _ _

theorem length_sentences (seed : ℕ) : (sentences seed).length = total seed (sentenceCount seed) := by
  simp only [sentences, List.length_flatMap, List.length_replicate]
  rfl

/-- A run has one to four sentences. -/
theorem repeats_mem (seed i : ℕ) : 1 ≤ repeats seed i ∧ repeats seed i ≤ 4 := by
  unfold repeats
  omega

/-- **Four runs that follow each other have ten sentences**: each of the four lengths once. -/
theorem four_runs (seed i : ℕ) : repeats seed i + repeats seed (i + 1) + repeats seed (i + 2) +
    repeats seed (i + 3) = 10 := by
  unfold repeats
  omega

theorem le_total (seed : ℕ) : 6 ≤ total seed 3 := by
  have h : total seed 3 = repeats seed 0 + (repeats seed 1 + (repeats seed 2 + 0)) := rfl
  have hfour : repeats seed 0 + repeats seed 1 + repeats seed 2 + repeats seed 3 = 10 :=
    four_runs seed 0
  have := (repeats_mem seed 3).2
  omega

theorem total_le (seed : ℕ) : total seed 7 ≤ 19 := by
  have h : total seed 7 = repeats seed 0 + (repeats seed 1 + (repeats seed 2 + (repeats seed 3 +
    (repeats seed 4 + (repeats seed 5 + (repeats seed 6 + 0)))))) := rfl
  have hfour : repeats seed 0 + repeats seed 1 + repeats seed 2 + repeats seed 3 = 10 :=
    four_runs seed 0
  have hnext : repeats seed 4 + repeats seed 5 + repeats seed 6 + repeats seed 7 = 10 :=
    four_runs seed 4
  have := (repeats_mem seed 7).1
  omega

theorem le_length_sentences (seed : ℕ) : 6 ≤ (sentences seed).length := by
  rw [length_sentences]
  exact (le_total seed).trans (total_mono seed (Nat.le_add_right 3 _))

theorem length_sentences_le (seed : ℕ) : (sentences seed).length ≤ 19 := by
  rw [length_sentences]
  exact (total_mono seed (sentenceCount_le seed)).trans (total_le seed)

/-! ## Texts -/

/-- The parts of a text between full stops that a space follows. -/
def parts (text : String) : List String :=
  (pieces text.toList).map String.ofList

/-- A text without its last full stop. -/
def body (seed : ℕ) : String :=
  String.intercalate ". " (sentences seed)

theorem parts_body (seed : ℕ) : parts (body seed) = sentences seed := by
  have hbody : (ofSeed seed).text.toList.dropLast = (body seed).toList := by
    rw [show (ofSeed seed).text = body seed ++ "." from rfl, String.toList_append]
    exact List.dropLast_concat
  rw [parts, ← hbody, pieces_text, List.map_map]
  exact (List.map_congr_left fun s _ => String.ofList_toList).trans (List.map_id _)

/-! ## Sizes -/

theorem le_length_flatMap {α β : Type} {f : α → List β} {l : List α} {k : ℕ}
    (h : ∀ a ∈ l, k ≤ (f a).length) : k * l.length ≤ (l.flatMap f).length := by
  induction l with
  | nil => exact Nat.zero_le _
  | cons a l ih =>
    rw [List.forall_mem_cons] at h
    rw [List.flatMap_cons, List.length_append, List.length_cons, Nat.mul_succ, Nat.add_comm]
    exact Nat.add_le_add h.1 (ih h.2)

/-- A character takes at least one byte. -/
theorem length_le_utf8Len (cs : List Char) : cs.length ≤ String.utf8Len cs := by
  induction cs with
  | nil => exact Nat.zero_le _
  | cons c cs ih =>
    have hc := c.utf8Size_pos
    rw [String.utf8Len, List.length_cons]
    omega

theorem length_toList_le (s : String) : s.toList.length ≤ s.utf8ByteSize := by
  have h := length_le_utf8Len s.toList
  rw [← String.utf8ByteSize_ofList, String.ofList_toList] at h
  exact h

theorem le_length_phrase : ∀ r < 7, 24 ≤ (phrase r).length := by decide +kernel

theorem le_length_sentence (seed i : ℕ) : 24 ≤ (sentence seed i).length := by
  rw [sentence_eq_phrase]
  exact le_length_phrase _ (slotOf_lt (by decide) seed i)

/-- Every sentence takes its own characters and two more. -/
theorem le_utf8ByteSize_text (seed : ℕ) :
    26 * (sentences seed).length ≤ (ofSeed seed).text.utf8ByteSize + 1 := by
  have hs : ∀ l ∈ (sentences seed).map String.toList, 26 ≤ (l ++ ['.', ' ']).length := by
    refine List.forall_mem_map.mpr fun s hs => ?_
    obtain ⟨i, -, rfl⟩ := mem_sentences_iff.mp hs
    rw [List.length_append, String.length_toList]
    exact Nat.add_le_add_right (le_length_sentence seed i) 2
  -- with a separator at the end as well, the sentences are all the text there is
  have hlength : 26 * (sentences seed).length ≤ (body seed).toList.length + 2 := by
    have hne : (sentences seed).map String.toList ≠ [] :=
      fun h => sentences_ne_nil seed (List.map_eq_nil_iff.mp h)
    have h := le_length_flatMap hs
    rw [← Json.intercalate_append _ hne, List.length_append, List.length_map] at h
    rw [body, String.toList_intercalate]
    exact h
  have hbody := length_toList_le (body seed)
  have htext : (ofSeed seed).text.utf8ByteSize = (body seed).utf8ByteSize + 1 :=
    String.utf8ByteSize_append
  omega

theorem top_mem (seed : ℕ) : 3 ≤ (ofSeed seed).top ∧ (ofSeed seed).top ≤ 8 := by
  rw [UInt32.le_iff_toNat_le, UInt32.le_iff_toNat_le, toNat_top]
  have h3 : (3 : UInt32).toNat = 3 := rfl
  have h8 : (8 : UInt32).toNat = 8 := rfl
  omega

/-- **What the text of a seed reads like.** Without its last full stop it falls into runs of different
sentences, of as many repetitions as the seed says, six to nineteen sentences in all. -/
theorem ofSeed_reads (seed : UInt64) : ∃ (said : List String) (body : String),
    said.length = 3 + seed.toNat % 5 ∧ said.Nodup ∧ (∀ s ∈ said, IsSentence s) ∧
    (ofSeed seed.toNat).text = body ++ "." ∧
    parts body =
      (said.mapIdx fun i s => List.replicate (1 + (seed.toNat + 3 * i) % 4) s).flatten ∧
    6 ≤ (parts body).length ∧ (parts body).length ≤ 19 ∧
    60 < (ofSeed seed.toNat).text.utf8ByteSize ∧
    3 ≤ (ofSeed seed.toNat).top ∧ (ofSeed seed.toNat).top ≤ 8 := by
  have hlow := le_length_sentences seed.toNat
  have hsize := le_utf8ByteSize_text seed.toNat
  refine ⟨said seed.toNat, body seed.toNat, ?_, nodup_said _, ?_, rfl, ?_, ?_, ?_, ?_, top_mem _⟩
  · rw [said, List.length_map, List.length_range, sentenceCount]
  · refine List.forall_mem_map.mpr fun i _ => isSentence_sentence seed.toNat i
  · rw [parts_body, sentences_eq_flatten]
    simp only [repeats, Nat.mul_comm]
  · rw [parts_body]
    exact hlow
  · rw [parts_body]
    exact length_sentences_le seed.toNat
  · omega

end FunctionLoad.Payload.WordStats
