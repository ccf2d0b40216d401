import FunctionLoad.Proofs.Url.Append
import Mathlib.Data.List.Infix

/-!
# Where a path behind a URL goes

A URL has a path, perhaps a query, and perhaps a fragment, in this order. What is put behind its text
goes on with the last one of them that there is.

* `splitWhere_append_cons`, `splitWhere_append_flatMap`, `flatMap_splitWhere`: pieces of a text, and of
  one behind it.
* `IsPlainPath`, `isPlainPath_flatMap`: a path that is taken as it stands, none of whose segments goes
  up.
* `exists_resolve_append`, **`suffix_chars_pathOf`**: it ends every path that it is put behind.
* **`queryAndFragment_append`**: what goes on with a query or a fragment.
* `Extends`, **`extends_of_parse`**: a URL of the web with a plain path behind it.
-/

namespace FunctionLoad

/-! ## Pieces -/

namespace Text

variable {α : Type} {p : α → Bool}

theorem splitWhere_ne_nil (p : α → Bool) (l : List α) : splitWhere p l ≠ [] := by
  cases l with
  | nil => exact List.cons_ne_nil _ _
  | cons a l =>
    rw [splitWhere]
    split
    · exact List.cons_ne_nil _ _
    · split <;> exact List.cons_ne_nil _ _

/-- A separator keeps what stands before it apart from what stands behind. -/
theorem splitWhere_append_cons {a : α} (h : p a = true) (l r : List α) :
    splitWhere p (l ++ a :: r) = splitWhere p l ++ splitWhere p r := by
  induction l with
  | nil => rw [List.nil_append, splitWhere.eq_2, if_pos h, splitWhere.eq_1, List.singleton_append]
  | cons b l ih =>
    rw [List.cons_append, splitWhere, splitWhere, ih]
    obtain ⟨first, rest, hs⟩ := List.exists_cons_of_ne_nil (splitWhere_ne_nil p l)
    rw [hs]
    split <;> rfl

theorem splitWhere_eq_singleton {l : List α} (h : ∀ a ∈ l, p a = false) : splitWhere p l = [l] := by
  induction l with
  | nil => rfl
  | cons a l ih =>
    rw [List.forall_mem_cons] at h
    rw [splitWhere, ih h.2, if_neg (by rw [h.1]; decide)]

/-- Pieces without separators are found again between them. -/
theorem splitWhere_append_flatMap {a : α} (ha : p a = true) {l : List α} {pieces : List (List α)}
    (h : ∀ s ∈ l :: pieces, ∀ b ∈ s, p b = false) :
    splitWhere p (l ++ pieces.flatMap (a :: ·)) = l :: pieces := by
  induction pieces generalizing l with
  | nil => rw [List.flatMap_nil, List.append_nil, splitWhere_eq_singleton (h l List.mem_cons_self)]
  | cons s pieces ih =>
    rw [List.forall_mem_cons] at h
    rw [List.flatMap_cons, List.cons_append, splitWhere_append_cons ha,
      splitWhere_eq_singleton h.1, ih h.2, List.singleton_append]

theorem splitWhere_congr {q : α → Bool} {l : List α} (h : ∀ a ∈ l, p a = q a) :
    splitWhere p l = splitWhere q l := by
  induction l with
  | nil => rfl
  | cons a l ih =>
    rw [List.forall_mem_cons] at h
    rw [splitWhere, splitWhere, h.1, ih h.2]

theorem mem_of_mem_splitWhere {l s : List α} {a : α} (hs : s ∈ splitWhere p l) (ha : a ∈ s) :
    a ∈ l := by
  induction l generalizing s with
  | nil =>
    rw [splitWhere, List.mem_singleton] at hs
    rwa [hs] at ha
  | cons b l ih =>
    obtain ⟨first, rest, hl⟩ := List.exists_cons_of_ne_nil (splitWhere_ne_nil p l)
    rw [splitWhere, hl] at hs
    rw [hl] at ih
    split at hs
    · rcases List.mem_cons.mp hs with rfl | hs
      · cases ha
      · exact List.mem_cons_of_mem b (ih hs ha)
    · rcases List.mem_cons.mp hs with rfl | hs
      · rcases List.mem_cons.mp ha with rfl | ha
        · exact List.mem_cons_self
        · exact List.mem_cons_of_mem b (ih List.mem_cons_self ha)
      · exact List.mem_cons_of_mem b (ih (List.mem_cons_of_mem first hs) ha)

/-- Pieces with their separators make the text again. -/
theorem flatMap_splitWhere [BEq α] [LawfulBEq α] (c : α) (l : List α) :
    (splitWhere (· == c) l).flatMap (c :: ·) = c :: l := by
  induction l with
  | nil => rfl
  | cons a l ih =>
    obtain ⟨first, rest, hs⟩ := List.exists_cons_of_ne_nil (splitWhere_ne_nil (· == c) l)
    rw [hs, List.flatMap_cons, List.cons_append] at ih
    rw [splitWhere, hs]
    dsimp only
    split
    · next h =>
      rw [List.flatMap_cons, List.flatMap_cons, eq_of_beq h, List.cons_append, List.cons_append, ih]
      rfl
    · rw [List.flatMap_cons, List.cons_append, List.cons_append, (List.cons.inj ih).2]

end Text

namespace Url

open FunctionLoad.Text

/-! ## Escapes -/

namespace Percent

theorem encode_append (set : Char → Bool) (cs ds : List Char) :
    encode set (cs ++ ds) = encode set cs ++ encode set ds :=
  List.flatMap_append

theorem encode_eq_self {set : Char → Bool} {cs : List Char} (h : ∀ c ∈ cs, set c = false) :
    encode set cs = cs := by
  induction cs with
  | nil => rfl
  | cons c cs ih =>
    rw [List.forall_mem_cons] at h
    rw [encode, List.flatMap_cons, ← encode, ih h.2, encodeChar, h.1]
    rfl

end Percent

/-! ## Plain paths -/

/-- Whether a segment is a dot or two of them, in any spelling. -/
def isDots (s : List Char) : Bool :=
  plainDots s == ['.'] || plainDots s == ['.', '.']

/-- Whether a character stands for itself wherever a path can end up. -/
def isPlain (c : Char) : Bool :=
  !Percent.inPath c && !Percent.inQuery true c && c != '\\'

/-- A segment that is no dots and has neither a character that is escaped nor a slash. -/
structure IsPlainSegment (s : List Char) : Prop where
  plain : (s.all fun c => isPlain c && c != '/') = true
  stays : isDots s = false

/-- A path that is taken as it stands: none of its characters is escaped, and none of its segments
goes up. -/
structure IsPlainPath (t : List Char) : Prop where
  head : t.head? = some '/'
  plain : ∀ c ∈ t, isPlain c = true
  stays : ∀ s ∈ splitWhere (· == '/') t.tail, isDots s = false

theorem isPlain_iff {c : Char} : isPlain c = true ↔
    Percent.inPath c = false ∧ Percent.inQuery true c = false ∧ c ≠ '\\' := by
  simp [isPlain, and_assoc]

theorem inFragment_of_isPlain {c : Char} (h : isPlain c = true) : Percent.inFragment c = false := by
  have hp := (isPlain_iff.mp h).1
  simp only [Percent.inPath, Bool.or_eq_false_iff] at hp
  exact hp.1.1.1.1

theorem endsPath_of_isPlain {c : Char} (h : isPlain c = true) : endsPath c = false := by
  have hp := (isPlain_iff.mp h).1
  simp only [Percent.inPath, Bool.or_eq_false_iff] at hp
  rw [endsPath, hp.1.1.2, hp.1.1.1.2]
  rfl

/-- A segment is no dots if it starts neither with a dot nor with an escape. -/
theorem isDots_cons {c : Char} (hdot : c ≠ '.') (hescape : c ≠ '%') (r : List Char) :
    isDots (c :: r) = false := by
  have hp : plainDots (c :: r) = c :: r := by
    rw [plainDots.eq_def]
    split
    · next he => exact absurd (List.cons.inj he).1 hescape
    · next he => exact absurd (List.cons.inj he).1 hdot
    · rfl
  simp [isDots, hp, hdot]

theorem IsPlainSegment.of_mem {s : List Char} (h : IsPlainSegment s) {c : Char} (hc : c ∈ s) :
    isPlain c = true ∧ c ≠ '/' := by
  have hp := List.all_eq_true.mp h.plain c hc
  rwa [Bool.and_eq_true, bne_iff_ne] at hp

/-- **Plain segments make a plain path.** -/
theorem isPlainPath_flatMap {segments : List (List Char)} (hne : segments ≠ [])
    (h : ∀ s ∈ segments, IsPlainSegment s) : IsPlainPath (segments.flatMap ('/' :: ·)) := by
  obtain ⟨s, rest, rfl⟩ := List.exists_cons_of_ne_nil hne
  refine ⟨rfl, fun c hc => ?_, fun s' hs => ?_⟩
  · obtain ⟨s', hs, hc⟩ := List.mem_flatMap.mp hc
    rcases List.mem_cons.mp hc with rfl | hc
    · decide
    · exact ((h s' hs).of_mem hc).1
  · have hslash : ∀ s' ∈ s :: rest, ∀ c ∈ s', (c == '/') = false := fun s' hs' c hc =>
      beq_eq_false_iff_ne.mpr ((h s' hs').of_mem hc).2
    rw [List.flatMap_cons, List.cons_append, List.tail_cons,
      splitWhere_append_flatMap (by rfl) hslash] at hs
    exact (h s' hs).stays

namespace IsPlainPath

variable {t : List Char} (h : IsPlainPath t)
include h

theorem eq_cons : t = '/' :: t.tail :=
  (List.cons_head?_tail h.head).symm

theorem isPathText {s : String} (hs : s.toList = t) : isPathText s = true := by
  rw [Url.isPathText, hs, h.head, BEq.rfl, Bool.true_and, List.all_eq_true]
  intro c hc
  have hf := inFragment_of_isPlain (h.plain c hc)
  simp only [Percent.inFragment, Percent.inControls, Bool.or_eq_false_iff,
    decide_eq_false_iff_not, beq_eq_false_iff_ne] at hf
  have hspace : c.toNat ≠ 0x20 := fun he => hf.1.1.1.1.2 (Char.toNat_inj.mp he)
  exact decide_eq_true (by omega)

/-- No segment is escaped, wherever backslashes separate as well. -/
theorem pieces_eq : (splitWhere (fun c => c == '/' || (true && c == '\\')) t.tail).map
    (Percent.encode Percent.inPath) = splitWhere (· == '/') t.tail := by
  have hplain : ∀ c ∈ t.tail, isPlain c = true := fun c hc => h.plain c (List.mem_of_mem_tail hc)
  have hsame : splitWhere (fun c => c == '/' || (true && c == '\\')) t.tail =
      splitWhere (· == '/') t.tail := by
    refine splitWhere_congr fun c hc => ?_
    rw [beq_eq_false_iff_ne.mpr (isPlain_iff.mp (hplain c hc)).2.2, Bool.and_false, Bool.or_false]
  rw [hsame]
  refine (List.map_congr_left fun s hs => ?_).trans (List.map_id _)
  refine Percent.encode_eq_self fun c hc => ?_
  exact (isPlain_iff.mp (hplain c (mem_of_mem_splitWhere hs hc))).1

end IsPlainPath

/-! ## Paths -/

/-- Segments that are no dots stay. -/
theorem resolve_of_stays {plain : List (List Char)} (h : ∀ s ∈ plain, isDots s = false)
    (before : List (List Char)) : resolve before plain = before.reverse ++ plain := by
  induction plain generalizing before with
  | nil => rw [resolve, List.append_nil]
  | cons s plain ih =>
    rw [List.forall_mem_cons, isDots, Bool.or_eq_false_iff, beq_eq_false_iff_ne,
      beq_eq_false_iff_ne] at h
    rw [resolve, if_neg h.1.1, if_neg h.1.2, ih h.2, List.reverse_cons, List.append_assoc]
    rfl

/-- **Segments that are no dots stay behind all others**, whatever goes up before them. -/
theorem exists_resolve_append {plain : List (List Char)} (hne : plain ≠ [])
    (h : ∀ s ∈ plain, isDots s = false) (segments before : List (List Char)) :
    ∃ front, resolve before (segments ++ plain) = front ++ plain := by
  induction segments generalizing before with
  | nil => exact ⟨before.reverse, resolve_of_stays h before⟩
  | cons s segments ih =>
    have hn : segments ++ plain ≠ [] := List.append_ne_nil_of_right_ne_nil _ hne
    rw [List.cons_append, resolve, if_neg hn, if_neg hn]
    split
    · exact ih _
    · split <;> exact ih _

/-- **A plain path ends every path of the web that it is put behind.** -/
theorem suffix_chars_pathOf {t : List Char} (h : IsPlainPath t) (cs : List Char) :
    t <:+ (pathOf true (cs ++ t)).chars := by
  -- the first slash of a path separates nothing
  have hpath : ∃ front, pathOf true (cs ++ t) =
      .segments (front ++ splitWhere (· == '/') t.tail) := by
    have hbehind (ds : List Char) : ∃ front, segmentsOf true (ds ++ t) =
        front ++ splitWhere (· == '/') t.tail := by
      rw [h.eq_cons, segmentsOf, splitWhere_append_cons (by rfl), List.map_append, List.tail_cons,
        h.pieces_eq]
      exact exists_resolve_append (splitWhere_ne_nil _ _) h.stays _ []
    cases cs with
    | nil =>
      refine ⟨[], ?_⟩
      rw [List.nil_append, h.eq_cons, pathOf, if_pos (Or.inl rfl), segmentsOf, List.tail_cons,
        h.pieces_eq, resolve_of_stays h.stays]
      rfl
    | cons c cs =>
      rw [List.cons_append, pathOf]
      split
      · obtain ⟨front, hf⟩ := hbehind cs
        exact ⟨front, by rw [hf]⟩
      · obtain ⟨front, hf⟩ := hbehind (c :: cs)
        exact ⟨front, by rw [← List.cons_append, hf]⟩
  obtain ⟨front, hf⟩ := hpath
  refine ⟨front.flatMap ('/' :: ·), ?_⟩
  rw [hf, Path.chars, List.flatMap_append, flatMap_splitWhere, ← h.eq_cons]

/-! ## Queries and fragments -/

/-- **What stands behind a fragment goes on with it**, and what stands behind a query without one
goes on with that. -/
theorem queryAndFragment_append (web : Bool) {cs tail : List Char} (hcs : cs.head?.any endsPath = true)
    (ht : '#' ∉ tail) :
    (∀ q f, queryAndFragment web cs = (q, some f) →
      queryAndFragment web (cs ++ tail) = (q, some (f ++ Percent.encode Percent.inFragment tail))) ∧
    (∀ q, queryAndFragment web cs = (q, none) → ∃ r, q = some r ∧
      queryAndFragment web (cs ++ tail) =
        (some (r ++ Percent.encode (Percent.inQuery web) tail), none)) := by
  obtain ⟨c, r, rfl⟩ : ∃ c r, cs = c :: r := by
    cases cs with
    | nil => cases hcs
    | cons c r => exact ⟨c, r, rfl⟩
  have hc : c = '?' ∨ c = '#' := by
    simpa [endsPath] using hcs
  rw [List.cons_append]
  rcases hc with rfl | rfl
  · by_cases hr : r.dropWhile (· ≠ '#') = []
    · -- a query without a fragment
      have hall := List.dropWhile_eq_nil_iff.mp hr
      have hall' : ∀ c ∈ r ++ tail, decide (c ≠ '#') = true := by
        intro c hc
        rcases List.mem_append.mp hc with hc | hc
        · exact hall c hc
        · exact decide_eq_true fun he => ht (he ▸ hc)
      have htake := List.takeWhile_eq_self_iff.mpr hall'
      have hdrop := List.dropWhile_eq_nil_iff.mpr hall'
      simp only [queryAndFragment, hr, htake, hdrop, List.takeWhile_eq_self_iff.mpr hall]
      refine ⟨nofun, ?_⟩
      rintro q ⟨⟩
      exact ⟨_, rfl, by rw [Percent.encode_append]⟩
    · -- a query and a fragment
      obtain ⟨d, f, hf, hd⟩ := exists_cons_of_stop hr
      obtain rfl : d = '#' := by simpa using hd
      simp only [queryAndFragment, takeWhile_append_of_stop hr, dropWhile_append_of_stop hr, hf,
        List.cons_append]
      refine ⟨?_, nofun⟩
      rintro q f' ⟨⟩
      rw [Percent.encode_append]
  · refine ⟨?_, nofun⟩
    rintro q f ⟨⟩
    show (none, some (Percent.encode Percent.inFragment (r ++ tail))) = _
    rw [Percent.encode_append]

/-! ## The whole -/

/-- **A URL `v` that goes on where `u` ends, up to a text**: in its fragment if there is one, else in
its query if there is one, else in its path. Before that they are the same. -/
structure Extends (u v : Url) (t : List Char) : Prop where
  scheme : v.scheme = u.scheme
  username : v.username = u.username
  password : v.password = u.password
  host : v.host = u.host
  port : v.port = u.port
  path : u.query = none → u.fragment = none →
    t <:+ v.path.chars ∧ v.query = none ∧ v.fragment = none
  query : ∀ q, u.query = some q → u.fragment = none →
    v.path = u.path ∧ v.fragment = none ∧ ∃ between, v.query = some (q ++ between ++ t)
  fragment : ∀ f, u.fragment = some f →
    v.path = u.path ∧ v.query = u.query ∧ ∃ between, v.fragment = some (f ++ between ++ t)

variable {t : List Char}

/-- What is escaped between a URL and a plain path behind it, and the path as it stands. -/
theorem encode_append_plain (set : Char → Bool) (hset : ∀ c ∈ t, set c = false) (pad : List Char) :
    Percent.encode set (pad ++ t) = Percent.encode set pad ++ t := by
  rw [Percent.encode_append, Percent.encode_eq_self hset]

/-- Padding does not end a path. -/
theorem endsPath_of_padding {c : Char} (h : c.toNat ≤ 0x20) : endsPath c = false := by
  rw [endsPath, beq_eq_false_iff_ne.mpr (Domain.ne_of_blank h (by decide)),
    beq_eq_false_iff_ne.mpr (Domain.ne_of_blank h (by decide))]
  rfl

section Assemble

variable {scheme : List Char} (hu : (webPort? scheme).isSome = true) (a : Authority)
  (rest : List Char)
include hu

theorem path_assemble : (assemble scheme a rest).path =
    pathOf true (rest.takeWhile fun c => !endsPath c) := by
  rw [assemble, hu]

theorem queryAndFragment_assemble :
    queryAndFragment true (rest.dropWhile fun c => !endsPath c) =
      ((assemble scheme a rest).query, (assemble scheme a rest).fragment) := by
  rw [assemble, hu]

variable {rest} {tail : List Char} (htail : ∀ c ∈ tail, endsPath c = false)
include htail

/-- A plain path ends the path of what has neither a query nor a fragment. -/
theorem extends_assemble_of_path (hr : rest.dropWhile (fun c => !endsPath c) = [])
    (ht : ∀ cs, t <:+ (pathOf true (cs ++ tail)).chars) :
    Extends (assemble scheme a rest) (assemble scheme a (rest ++ tail)) t := by
  have hall : ∀ c ∈ rest ++ tail, (!endsPath c) = true := by
    intro c hc
    rcases List.mem_append.mp hc with hc | hc
    · exact List.dropWhile_eq_nil_iff.mp hr c hc
    · rw [htail c hc]
      rfl
  have hparts := queryAndFragment_assemble hu a rest
  have hparts' := queryAndFragment_assemble hu a (rest ++ tail)
  rw [hr] at hparts
  rw [List.dropWhile_eq_nil_iff.mpr hall] at hparts'
  obtain ⟨hq, hf⟩ := Prod.mk.inj hparts
  obtain ⟨hq', hf'⟩ := Prod.mk.inj hparts'
  refine ⟨rfl, rfl, rfl, rfl, rfl, fun _ _ => ⟨?_, hq'.symm, hf'.symm⟩, fun q h => ?_, fun f h => ?_⟩
  · rw [path_assemble hu, List.takeWhile_eq_self_iff.mpr hall]
    exact ht rest
  · cases hq.trans h
  · cases hf.trans h

/-- A plain path ends the fragment if there is one, and else the query. -/
theorem extends_assemble_of_stop (hr : rest.dropWhile (fun c => !endsPath c) ≠ [])
    (hquery : ∃ between, Percent.encode (Percent.inQuery true) tail = between ++ t)
    (hfragment : ∃ between, Percent.encode Percent.inFragment tail = between ++ t) :
    Extends (assemble scheme a rest) (assemble scheme a (rest ++ tail)) t := by
  have hhead : (rest.dropWhile fun c => !endsPath c).head?.any endsPath = true := by
    obtain ⟨c, r, hr, hc⟩ := exists_cons_of_stop hr
    rw [hr]
    simpa using hc
  have hsharp : '#' ∉ tail := fun h => absurd (htail '#' h) (by decide)
  obtain ⟨honFragment, honQuery⟩ := queryAndFragment_append true hhead hsharp
  have hparts := queryAndFragment_assemble hu a rest
  have hparts' := queryAndFragment_assemble hu a (rest ++ tail)
  rw [dropWhile_append_of_stop hr] at hparts'
  have hpath : (assemble scheme a (rest ++ tail)).path = (assemble scheme a rest).path := by
    rw [path_assemble hu, path_assemble hu, takeWhile_append_of_stop hr]
  refine ⟨rfl, rfl, rfl, rfl, rfl, fun hq hf => ?_, fun q hq hf => ?_, fun f hf => ?_⟩
  · obtain ⟨q, hn, -⟩ := honQuery none (by rw [hparts, hq, hf])
    cases hn
  · obtain ⟨q', hq', he⟩ := honQuery (some q) (by rw [hparts, hq, hf])
    obtain rfl := Option.some.inj hq'
    obtain ⟨he1, he2⟩ := Prod.mk.inj (hparts'.symm.trans he)
    obtain ⟨between, hb⟩ := hquery
    exact ⟨hpath, he2, between, by rw [he1, hb, List.append_assoc]⟩
  · obtain ⟨he1, he2⟩ := Prod.mk.inj (hparts'.symm.trans (honFragment _ f (by rw [hparts, hf])))
    obtain ⟨between, hb⟩ := hfragment
    exact ⟨hpath, he1, between, by rw [he2, hb, List.append_assoc]⟩

omit htail

variable (rest) in
/-- **What follows an authority goes on with a plain path behind it**, padding in between or not. -/
theorem extends_assemble (ht : IsPlainPath t) {pad : List Char} (hpad : ∀ c ∈ pad, c.toNat ≤ 0x20) :
    Extends (assemble scheme a rest) (assemble scheme a (rest ++ (pad ++ t))) t := by
  have htail : ∀ c ∈ pad ++ t, endsPath c = false := by
    intro c hc
    rcases List.mem_append.mp hc with hc | hc
    · exact endsPath_of_padding (hpad c hc)
    · exact endsPath_of_isPlain (ht.plain c hc)
  by_cases hr : rest.dropWhile (fun c => !endsPath c) = []
  · refine extends_assemble_of_path hu a htail hr fun cs => ?_
    rw [← List.append_assoc]
    exact suffix_chars_pathOf ht (cs ++ pad)
  · refine extends_assemble_of_stop hu a htail hr ⟨_, encode_append_plain _ (fun c hc => ?_) pad⟩
      ⟨_, encode_append_plain _ (fun c hc => inFragment_of_isPlain (ht.plain c hc)) pad⟩
    exact (isPlain_iff.mp (ht.plain c hc)).2.1

end Assemble

/-- **A URL of the web with a plain path behind it goes on where it ended**, if it is one at all. -/
theorem extends_of_parse {s t : String} {u v : Url} (hp : parse s = .ok u) (hw : u.isWeb = true)
    (ht : IsPlainPath t.toList) (hv : parse (s ++ t) = .ok v) : Extends u v t.toList := by
  have htext := ht.isPathText rfl
  cases he : isExtensible s with
  | false =>
    obtain ⟨e, h⟩ := parse_append_error hp hw htext he
    rw [h] at hv
    cases hv
  | true =>
    obtain ⟨a, rest, hu, h⟩ := parse_append_eq_assemble hp hw htext he
    obtain rfl := Except.ok.inj (h.symm.trans hv)
    have hpad : ∀ c ∈ trailing s, c.toNat ≤ 0x20 := fun c hc => isPadding_of_mem_trailing hc
    have hx := extends_assemble (webPort?_of_isWeb hw) a rest ht hpad
    rwa [hu] at hx

end Url

end FunctionLoad
