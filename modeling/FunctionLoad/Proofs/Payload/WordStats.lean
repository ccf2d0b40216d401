import FunctionLoad.Payload.WordStats
import FunctionLoad.Proofs.Payload.Pick
import Mathlib.Data.Finset.Card
import Mathlib.Data.Finset.Image

/-!
# Which texts for word statistics are the same

* `phrase`, `sentence_eq_iff`: there are seven sentences, one for each place of a list of words.
* `sentence_injOn`: the sentences of one seed are pairwise different.
* `pieces`, **`pieces_intercalate`**: texts that are joined by full stops and spaces are found again.
* `mem_sentences_iff`, `pieces_text`, `sentences_eq_of_text_eq`: a text tells the sentences of its seed.
* `modEq_of_sentences_eq`, `sentences_congr`: the sentences tell the seed modulo 7, 4 and 5, and
  nothing else.
* **`ofSeed_inj_iff`**: seeds have the same input just if they are congruent modulo 420, so a pool
  has at most 420 different ones.
-/

namespace FunctionLoad.Payload.WordStats

/-! ## Sentences -/

theorem sentence_congr {a b i j : ℕ} (h : slotOf 7 a i = slotOf 7 b j) :
    sentence a i = sentence b j := by
  have hk (k : ℕ) : slotOf 7 a (i + k) = slotOf 7 b (j + k) := by rw [slotOf_add, slotOf_add, h]
  have h1 : pick adjectives a (i + 1) = pick adjectives b (j + 1) := pick_congr _ (hk 1)
  have h2 : pick nouns a (i + 7) = pick nouns b (j + 7) := pick_congr _ (hk 7)
  have h3 : pick verbs a (i + 13) = pick verbs b (j + 13) := pick_congr _ (hk 13)
  have h4 : pick adverbs a (i + 19) = pick adverbs b (j + 19) := pick_congr _ (hk 19)
  rw [sentence, sentence, h1, h2, h3, h4]

/-- The sentence of each of the seven places; 5 undoes the factor 31 modulo 7. -/
def phrase (r : ℕ) : String :=
  sentence (5 * r) 0

theorem sentence_eq_phrase (seed i : ℕ) : sentence seed i = phrase (slotOf 7 seed i) := by
  refine sentence_congr ?_
  have := slotOf_lt (n := 7) (by decide) seed i
  rw [slotOf, slotOf] at *
  omega

theorem phrase_injOn : ∀ r < 7, ∀ s < 7, phrase r = phrase s → r = s := by decide

theorem stop_notMem_phrase : ∀ r < 7, '.' ∉ (phrase r).toList := by decide

/-- **Sentences are the same just if they are at the same place.** -/
theorem sentence_eq_iff (a b i j : ℕ) : sentence a i = sentence b j ↔ slotOf 7 a i = slotOf 7 b j := by
  refine ⟨fun h => ?_, sentence_congr⟩
  rw [sentence_eq_phrase, sentence_eq_phrase] at h
  exact phrase_injOn _ (slotOf_lt (by decide) a i) _ (slotOf_lt (by decide) b j) h

theorem stop_notMem_sentence (seed i : ℕ) : '.' ∉ (sentence seed i).toList := by
  rw [sentence_eq_phrase]
  exact stop_notMem_phrase _ (slotOf_lt (by decide) seed i)

theorem sentenceCount_le (seed : ℕ) : sentenceCount seed ≤ 7 := by
  unfold sentenceCount
  omega

/-- The sentences of a seed are pairwise different, because there are at most seven. -/
theorem sentence_injOn (seed : ℕ) {i j : ℕ} (hi : i < sentenceCount seed)
    (hj : j < sentenceCount seed) (h : sentence seed i = sentence seed j) : i = j := by
  have hs := (slotOf_salt_eq_iff (by decide) seed i j).mp ((sentence_eq_iff _ _ _ _).mp h)
  have hc := sentenceCount_le seed
  exact Nat.ModEq.eq_of_lt_of_lt hs (by omega) (by omega)

/-! ## Texts -/

/-- The pieces of a text between full stops that a space follows. -/
def pieces : List Char → List (List Char)
  | [] => [[]]
  | '.' :: ' ' :: r => [] :: pieces r
  | c :: r =>
    match pieces r with
    | [] => [[c]]
    | h :: t => (c :: h) :: t

theorem pieces_cons {c : Char} (h : c ≠ '.') {r p : List Char} {ps : List (List Char)}
    (hr : pieces r = p :: ps) : pieces (c :: r) = (c :: p) :: ps := by
  rw [pieces.eq_def]
  split
  · next he => cases he
  · next he => exact absurd (List.cons.inj he).1 h
  · next he =>
    obtain ⟨rfl, rfl⟩ := List.cons.inj he
    rw [hr]

theorem pieces_append {l : List Char} (h : '.' ∉ l) {r p : List Char} {ps : List (List Char)}
    (hr : pieces r = p :: ps) : pieces (l ++ r) = (l ++ p) :: ps := by
  induction l with
  | nil => exact hr
  | cons c l ih =>
    rw [List.mem_cons, not_or] at h
    exact pieces_cons (Ne.symm h.1) (ih h.2)

/-- **Texts without full stops are found again between them.** -/
theorem pieces_intercalate : ∀ {ls : List (List Char)}, ls ≠ [] → (∀ l ∈ ls, '.' ∉ l) →
    pieces (List.intercalate ['.', ' '] ls) = ls
  | [], h, _ => absurd rfl h
  | [l], _, h => by
    have hl : pieces (l ++ []) = [l ++ []] := pieces_append (h l List.mem_cons_self) rfl
    rw [List.append_nil] at hl
    rw [List.intercalate_singleton, hl]
  | l :: m :: ls, _, h => by
    have ih := pieces_intercalate (List.cons_ne_nil m ls) fun x hx => h x (List.mem_cons_of_mem l hx)
    rw [List.intercalate_cons_cons, List.append_assoc]
    have hs : pieces (['.', ' '] ++ List.intercalate ['.', ' '] (m :: ls)) = [] :: m :: ls := by
      rw [List.cons_append, List.cons_append, List.nil_append, pieces, ih]
    rw [pieces_append (h l List.mem_cons_self) hs, List.append_nil]

theorem mem_sentences_iff {seed : ℕ} {s : String} :
    s ∈ sentences seed ↔ ∃ i < sentenceCount seed, s = sentence seed i := by
  rw [sentences, List.mem_flatMap]
  refine exists_congr fun i => ?_
  rw [List.mem_range, List.mem_replicate]
  refine and_congr_right fun _ => ⟨And.right, fun h => ⟨?_, h⟩⟩
  unfold repeats
  omega

theorem sentences_ne_nil (seed : ℕ) : sentences seed ≠ [] := by
  have hcount : 0 < sentenceCount seed := by
    unfold sentenceCount
    omega
  exact List.ne_nil_of_mem (mem_sentences_iff.mpr ⟨0, hcount, rfl⟩)

theorem stop_notMem_of_mem_sentences {seed : ℕ} : ∀ l ∈ (sentences seed).map String.toList,
    '.' ∉ l := by
  intro l hl
  obtain ⟨s, hs, rfl⟩ := List.mem_map.mp hl
  obtain ⟨i, -, rfl⟩ := mem_sentences_iff.mp hs
  exact stop_notMem_sentence seed i

/-- The pieces of a text without its last full stop are its sentences. -/
theorem pieces_text (seed : ℕ) :
    pieces (ofSeed seed).text.toList.dropLast = (sentences seed).map String.toList := by
  have ht : (ofSeed seed).text.toList =
      List.intercalate ['.', ' '] ((sentences seed).map String.toList) ++ ['.'] := by
    rw [ofSeed, String.toList_append, String.toList_intercalate]
    rfl
  rw [ht, List.dropLast_concat]
  refine pieces_intercalate ?_ stop_notMem_of_mem_sentences
  exact fun h => sentences_ne_nil seed (List.map_eq_nil_iff.mp h)

/-- **Seeds with one text have the same sentences.** -/
theorem sentences_eq_of_text_eq {a b : ℕ} (h : (ofSeed a).text = (ofSeed b).text) :
    sentences a = sentences b := by
  have hp : (sentences a).map String.toList = (sentences b).map String.toList := by
    rw [← pieces_text, ← pieces_text, h]
  exact List.map_injective_iff.mpr (fun _ _ => String.toList_injective) hp

/-! ## What the sentences tell -/

/-- A seed says its first sentence a few times, and then other ones. -/
theorem sentences_eq_append (seed : ℕ) : ∃ rest, sentence seed 0 ∉ rest ∧
    sentences seed = List.replicate (repeats seed 0) (sentence seed 0) ++ rest := by
  have hc : sentenceCount seed = (2 + seed % 5) + 1 := by
    unfold sentenceCount
    omega
  refine ⟨((List.range (2 + seed % 5)).map Nat.succ).flatMap fun i =>
    List.replicate (repeats seed i) (sentence seed i), fun h => ?_, ?_⟩
  · obtain ⟨i, hi, hs⟩ := List.mem_flatMap.mp h
    obtain ⟨j, hj, rfl⟩ := List.mem_map.mp hi
    have hj := List.mem_range.mp hj
    have := sentence_injOn seed (by omega) (by omega) (List.mem_replicate.mp hs).2
    omega
  · rw [sentences, hc, List.range_succ_eq_map, List.flatMap_cons]

theorem head?_sentences (seed : ℕ) : (sentences seed).head? = some (sentence seed 0) := by
  obtain ⟨rest, -, h⟩ := sentences_eq_append seed
  rw [h, repeats, Nat.add_comm, List.replicate_succ, List.cons_append, List.head?_cons]

theorem count_sentences (seed : ℕ) : (sentences seed).count (sentence seed 0) = repeats seed 0 := by
  obtain ⟨rest, hn, h⟩ := sentences_eq_append seed
  rw [h, List.count_append, List.count_replicate_self, List.count_eq_zero_of_not_mem hn, Nat.add_zero]

theorem toFinset_sentences (seed : ℕ) :
    (sentences seed).toFinset = (Finset.range (sentenceCount seed)).image (sentence seed) := by
  ext s
  rw [List.mem_toFinset, Finset.mem_image, mem_sentences_iff]
  simp only [Finset.mem_range, eq_comm]

theorem card_toFinset_sentences (seed : ℕ) : (sentences seed).toFinset.card = sentenceCount seed := by
  rw [toFinset_sentences, Finset.card_image_of_injOn, Finset.card_range]
  intro i hi j hj h
  exact sentence_injOn seed (Finset.mem_range.mp hi) (Finset.mem_range.mp hj) h

/-- What equal sentences say of two seeds: 7 words in each place, 4 counts and 5 lengths. -/
theorem modEq_of_sentences_eq {a b : ℕ} (h : sentences a = sentences b) :
    a ≡ b [MOD 7] ∧ a ≡ b [MOD 4] ∧ a ≡ b [MOD 5] := by
  have hs : sentence a 0 = sentence b 0 := by
    have := head?_sentences a
    rw [h, head?_sentences] at this
    exact (Option.some.inj this).symm
  have hr : repeats a 0 = repeats b 0 := by
    rw [← count_sentences, ← count_sentences, h, hs]
  have hc : sentenceCount a = sentenceCount b := by
    rw [← card_toFinset_sentences, ← card_toFinset_sentences, h]
  refine ⟨(slotOf_eq_iff (by decide) a b 0).mp ((sentence_eq_iff a b 0 0).mp hs), ?_, ?_⟩
  · unfold repeats at hr
    unfold Nat.ModEq
    omega
  · unfold sentenceCount at hc
    unfold Nat.ModEq
    omega

theorem sentences_congr {a b : ℕ} (h7 : a ≡ b [MOD 7]) (h4 : a ≡ b [MOD 4])
    (h5 : a ≡ b [MOD 5]) : sentences a = sentences b := by
  have hc : sentenceCount a = sentenceCount b := congrArg (3 + ·) h5
  have hr (i : ℕ) : repeats a i = repeats b i := congrArg (1 + ·) (h4.add_right (i * 3))
  have hs (i : ℕ) : sentence a i = sentence b i := sentence_congr (slotOf_congr h7 i)
  unfold sentences
  rw [hc]
  congr 1
  funext i
  rw [hr, hs]

/-! ## Inputs -/

theorem toNat_top (seed : ℕ) : (ofSeed seed).top.toNat = 3 + seed % 6 :=
  UInt32.toNat_ofNat_of_lt' (by unfold UInt32.size; omega)

theorem top_eq_iff (a b : ℕ) : (ofSeed a).top = (ofSeed b).top ↔ a ≡ b [MOD 6] := by
  rw [← UInt32.toNat_inj, toNat_top, toNat_top]
  exact Nat.add_left_cancel_iff

theorem ofSeed_eq_iff (a b : ℕ) : ofSeed a = ofSeed b ↔ a ≡ b [MOD 420] := by
  constructor
  · intro h
    obtain ⟨h7, h4, h5⟩ := modEq_of_sentences_eq (sentences_eq_of_text_eq (congrArg text h))
    have h6 := (top_eq_iff a b).mp (congrArg top h)
    have hl : Nat.lcm (Nat.lcm (Nat.lcm 4 5) 6) 7 = 420 := by decide
    rw [← hl]
    exact Nat.mod_lcm (Nat.mod_lcm (Nat.mod_lcm h4 h5) h6) h7
  · intro h
    have hs := sentences_congr (h.of_dvd (by decide : 7 ∣ 420)) (h.of_dvd (by decide : 4 ∣ 420))
      (h.of_dvd (by decide : 5 ∣ 420))
    have ht := (top_eq_iff a b).mpr (h.of_dvd (by decide : 6 ∣ 420))
    show WordStats.mk _ (ofSeed a).top = WordStats.mk _ (ofSeed b).top
    rw [hs, ht]

theorem card_image_ofSeed (p : ℕ) :
    ((Finset.range p).image ofSeed).card = min p 420 := by
  have hp : (Finset.range p).image ofSeed = (Finset.range (min p 420)).image ofSeed := by
    ext x
    simp only [Finset.mem_image, Finset.mem_range]
    constructor
    · rintro ⟨k, hk, rfl⟩
      have := Nat.mod_le k 420
      refine ⟨k % 420, by omega, (ofSeed_eq_iff _ _).mpr (Nat.mod_modEq k 420)⟩
    · rintro ⟨k, hk, rfl⟩
      exact ⟨k, by omega, rfl⟩
  rw [hp, Finset.card_image_of_injOn, Finset.card_range]
  intro i hi j hj h
  have hi := Finset.mem_range.mp hi
  have hj := Finset.mem_range.mp hj
  exact Nat.ModEq.eq_of_lt_of_lt ((ofSeed_eq_iff i j).mp h) (by omega) (by omega)

/-- **Seeds have the same input just if they are congruent modulo 420**, and a pool of `p` slots has
as many different inputs as it can have then. -/
theorem ofSeed_inj_iff :
    (∀ a b : UInt64, ofSeed a.toNat = ofSeed b.toNat ↔ a.toNat ≡ b.toNat [MOD 420]) ∧
    ∀ p : UInt64, ((Finset.range p.toNat).image ofSeed).card = min p.toNat 420 :=
  ⟨fun a b => ofSeed_eq_iff a.toNat b.toNat, fun p => card_image_ofSeed p.toNat⟩

end FunctionLoad.Payload.WordStats
