import FunctionLoad.Proofs.Url.Authority
import Mathlib.Data.List.TakeWhile

/-!
# URLs of the web with a path behind them

* `trailing`, **`significant_append`**: the padding between a text and a path counts.
* `scheme?_append`, `withAuthority_eq`, **`parse_web`**: a URL of the web is read from its scheme and
  its authority.
* `isExtensible`: whether the padding at the end of a text does no harm inside it.
* **`parse_append_eq_assemble`**: what is read of a URL of the web with a path behind it.
* **`parse_append`**, **`parse_append_error`**: a URL of the web stays one with a path behind it, and
  keeps its authority, just if this is so.
-/

namespace FunctionLoad.Url

open FunctionLoad.Text FunctionLoad.Decimal

/-! ## Padding -/

/-- Whether a character counts inside a text. -/
def isKept (c : Char) : Bool :=
  decide (c ≠ '\t' ∧ c ≠ '\n' ∧ c ≠ '\r')

/-- The padding at the end of a text that counts once something follows it. -/
def trailing (s : String) : List Char :=
  ((s.toList.dropWhile isPadding).reverse.takeWhile isPadding).reverse.filter isKept

theorem significant_ne_nil {s : String} (h : significant s ≠ []) :
    s.toList.dropWhile isPadding ≠ [] := by
  intro he
  rw [significant, he] at h
  exact h rfl

/-- **A text behind another one keeps the padding between them.** -/
theorem significant_append {s t : String} (hs : significant s ≠ []) {front : List Char} {c : Char}
    (ht : t.toList = front ++ [c]) (hc : isPadding c = false) (hk : ∀ d ∈ t.toList, isKept d = true) :
    significant (s ++ t) = significant s ++ (trailing s ++ t.toList) := by
  have ha : ¬ (s.toList.dropWhile isPadding).isEmpty = true := fun he =>
    significant_ne_nil hs (List.isEmpty_iff.mp he)
  have hf : t.toList.filter isKept = t.toList := List.filter_eq_self.mpr hk
  have he : (s.toList.dropWhile isPadding ++ t.toList).reverse.dropWhile isPadding =
      (s.toList.dropWhile isPadding ++ t.toList).reverse := by
    rw [ht, ← List.append_assoc, List.reverse_concat, List.dropWhile_cons_of_neg]
    rw [hc]
    exact Bool.false_ne_true
  have hsplit : s.toList.dropWhile isPadding =
      ((s.toList.dropWhile isPadding).reverse.dropWhile isPadding).reverse ++
        ((s.toList.dropWhile isPadding).reverse.takeWhile isPadding).reverse := by
    rw [← List.reverse_append, List.takeWhile_append_dropWhile, List.reverse_reverse]
  calc significant (s ++ t)
      = (s.toList.dropWhile isPadding ++ t.toList).filter isKept := by
        unfold significant
        rw [String.toList_append, List.dropWhile_append, if_neg ha, he, List.reverse_reverse]
        rfl
    _ = significant s ++ (trailing s ++ t.toList) := by
        rw [List.filter_append, hf, hsplit, List.filter_append, List.append_assoc]
        rfl

theorem isPadding_of_mem_trailing {s : String} {c : Char} (h : c ∈ trailing s) :
    c.toNat ≤ 0x20 := by
  have hm := List.mem_reverse.mp (List.mem_filter.mp h).1
  have hp : isPadding c = true := List.mem_takeWhile_imp hm
  exact of_decide_eq_true hp

/-! ## Texts that end within another one -/

section Split

variable {α : Type} {p : α → Bool}

/-- A text behind another one does not matter if the reader stops before it. -/
theorem takeWhile_append_of_stop {l : List α} (h : l.dropWhile p ≠ []) (t : List α) :
    (l ++ t).takeWhile p = l.takeWhile p := by
  rw [List.takeWhile_append, if_neg]
  intro he
  have hl := congrArg List.length (List.takeWhile_append_dropWhile (p := p) (l := l))
  rw [List.length_append, he] at hl
  exact h (List.eq_nil_of_length_eq_zero (by omega))

theorem dropWhile_append_of_stop {l : List α} (h : l.dropWhile p ≠ []) (t : List α) :
    (l ++ t).dropWhile p = l.dropWhile p ++ t := by
  rw [List.dropWhile_append, if_neg fun he => h (List.isEmpty_iff.mp he)]

/-- A reader that stops before the end stops in front of an element. -/
theorem exists_cons_of_stop {l : List α} (h : l.dropWhile p ≠ []) :
    ∃ a r, l.dropWhile p = a :: r ∧ p a = false := by
  obtain ⟨a, r, ha⟩ := List.exists_cons_of_ne_nil h
  have hstop := List.head?_dropWhile_not p l
  rw [ha] at hstop
  exact ⟨a, r, ha, hstop⟩

theorem dropWhile_not_eq_nil_iff {l : List α} :
    l.dropWhile (fun a => !p a) = [] ↔ l.any p = false := by
  rw [List.dropWhile_eq_nil_iff, List.any_eq_false]
  simp

end Split

/-! ## Scheme -/

theorem scheme?_append {cs r scheme : List Char} (h : scheme? cs = some (scheme, r)) (t : List Char) :
    scheme? (cs ++ t) = some (scheme, r ++ t) := by
  unfold scheme? at h ⊢
  split at h
  · next c tl =>
    split_ifs at h with hc
    split at h
    · next r' hr =>
      cases h
      have hn : (c :: tl).dropWhile isInScheme ≠ [] := by
        rw [hr]
        exact List.cons_ne_nil _ _
      dsimp only [List.cons_append]
      rw [if_pos hc, ← List.cons_append, dropWhile_append_of_stop hn, takeWhile_append_of_stop hn, hr]
      rfl
    · cases h
  · cases h

/-! ## The whole -/

/-- A URL from its scheme, its authority and what follows that. -/
def assemble (scheme : List Char) (a : Authority) (rest : List Char) : Url :=
  let web := (webPort? scheme).isSome
  let part := queryAndFragment web (rest.dropWhile fun c => !endsPath c)
  { scheme, username := a.username, password := a.password, host := a.host, port := a.port
    path := pathOf web (rest.takeWhile fun c => !endsPath c), query := part.1, fragment := part.2 }

theorem withAuthority_eq (scheme cs : List Char) :
    withAuthority scheme cs =
      (authority (webPort? scheme)
        ((cs.dropWhile fun c => !endsAuthority (webPort? scheme).isSome c) == [])
        (cs.takeWhile fun c => !endsAuthority (webPort? scheme).isSome c)).map fun p =>
          assemble scheme p.1
            (p.2 ++ cs.dropWhile fun c => !endsAuthority (webPort? scheme).isSome c) := by
  unfold withAuthority
  dsimp only
  cases authority (webPort? scheme)
    ((cs.dropWhile fun c => !endsAuthority (webPort? scheme).isSome c) == [])
    (cs.takeWhile fun c => !endsAuthority (webPort? scheme).isSome c) <;> rfl

theorem scheme_ofFile {scheme cs : List Char} {u : Url} (h : ofFile scheme cs = .ok u) :
    u.scheme = scheme := by
  unfold ofFile at h
  dsimp only at h
  split at h
  · split_ifs at h
    · cases h
      rfl
    · next r _ _ =>
      cases hh : Host.ofWeb (r.takeWhile fun c => !endsAuthority true c) with
      | error e =>
        rw [hh] at h
        cases h
      | ok host =>
        rw [hh] at h
        cases h
        rfl
    · cases h
      rfl
  · cases h
    rfl

theorem withAuthority_eq_ok {scheme cs : List Char} {u : Url} (h : withAuthority scheme cs = .ok u) :
    ∃ p, authority (webPort? scheme)
        ((cs.dropWhile fun c => !endsAuthority (webPort? scheme).isSome c) == [])
        (cs.takeWhile fun c => !endsAuthority (webPort? scheme).isSome c) = .ok p ∧
      assemble scheme p.1
        (p.2 ++ cs.dropWhile fun c => !endsAuthority (webPort? scheme).isSome c) = u := by
  rw [withAuthority_eq] at h
  generalize authority _ _ _ = a at h ⊢
  cases a with
  | error e => cases h
  | ok p => exact ⟨p, rfl, Except.ok.inj h⟩

theorem scheme_withAuthority {scheme cs : List Char} {u : Url} (h : withAuthority scheme cs = .ok u) :
    u.scheme = scheme := by
  obtain ⟨p, -, rfl⟩ := withAuthority_eq_ok h
  rfl

theorem webPort?_of_isWeb {u : Url} (h : u.isWeb = true) : (webPort? u.scheme).isSome = true := by
  have hs (t : String) (he : (u.schemeText == t) = true) : u.scheme = t.toList := by
    rw [← eq_of_beq he, schemeText, String.toList_ofList]
  rcases Bool.or_eq_true_iff.mp h with h | h
  · rw [hs _ h]
    decide
  · rw [hs _ h]
    decide

/-- **A URL of the web is read from its scheme and its authority.** -/
theorem parse_web {s : String} {u : Url} (hp : parse s = .ok u) (hw : u.isWeb = true) :
    ∃ r, scheme? (significant s) = some (u.scheme, r) ∧
      withAuthority u.scheme (r.dropWhile fun c => c == '/' || c == '\\') = .ok u := by
  have hu := webPort?_of_isWeb hw
  unfold parse at hp
  split at hp
  · cases hp
  · next scheme r hs =>
    split_ifs at hp with h1 h2
    · have he := scheme_withAuthority hp
      subst he
      exact ⟨r, hs, hp⟩
    · rw [scheme_ofFile hp] at hu
      exact absurd hu h1
    · split at hp
      · rw [scheme_withAuthority hp] at hu
        exact absurd hu h1
      · cases hp
        exact absurd hu h1

theorem parse_of_scheme? {s : String} {scheme r : List Char}
    (hs : scheme? (significant s) = some (scheme, r)) (hu : (webPort? scheme).isSome = true) :
    parse s = withAuthority scheme (r.dropWhile fun c => c == '/' || c == '\\') := by
  unfold parse
  rw [hs]
  exact if_pos hu

/-- Where a path follows, an authority has no more to satisfy than at the end. -/
theorem authority_of_final {usual : Option Nat} (hu : usual.isSome = true) {cs : List Char}
    {p : Authority × List Char} {final : Bool} (h : authority usual final cs = .ok p) :
    authority usual false cs = .ok p := by
  rw [authority_web hu] at h ⊢
  by_cases h1 : splitUser cs = some ([], [])
  · have h2 : (splitHost false (afterUser cs)).1 = [] := by
      rw [afterUser, h1]
      rfl
    rw [if_pos h2] at h
    split_ifs at h
  · rw [if_neg fun hc => h1 hc.1] at h ⊢
    exact h

/-- What of a text follows its scheme and the slashes behind that. -/
def afterScheme (s : String) : List Char :=
  ((scheme? (significant s)).map fun p => p.2.dropWhile fun c => c == '/' || c == '\\').getD []

/-- Whether a URL of the web stays one with a path behind it: either the padding at its end does not
count inside a text, or it is not the authority that the padding follows. -/
def isExtensible (s : String) : Bool :=
  trailing s == [] || (afterScheme s).any (endsAuthority true)

/-- A path that can be put behind a text: it starts with a slash and holds no padding. -/
def isPathText (t : String) : Bool :=
  t.toList.head? == some '/' && t.toList.all fun c => 0x20 < c.toNat

section Path

variable {s t : String} {u : Url}

theorem significant_append_path (hs : significant s ≠ []) (ht : isPathText t = true) :
    significant (s ++ t) = significant s ++ (trailing s ++ t.toList) := by
  obtain ⟨h1, h2⟩ := Bool.and_eq_true_iff.mp ht
  have hc (c : Char) (hm : c ∈ t.toList) : 0x20 < c.toNat :=
    of_decide_eq_true (List.all_eq_true.mp h2 c hm)
  obtain hn | ⟨front, c, hl⟩ := List.eq_nil_or_concat t.toList
  · rw [hn] at h1
    exact absurd h1 (by decide)
  · rw [List.concat_eq_append] at hl
    refine significant_append hs hl ?_ fun d hd => ?_
    · have hp := hc c (by rw [hl]; exact List.mem_append_right _ List.mem_cons_self)
      exact decide_eq_false (by omega)
    · have hp := hc d hd
      refine decide_eq_true ⟨?_, ?_, ?_⟩
      all_goals
        rintro rfl
        exact absurd hp (by decide)

/-- With a path behind it, a text is read further from where it ended. -/
theorem parse_append_path (hp : parse s = .ok u) (hw : u.isWeb = true) (ht : isPathText t = true) :
    withAuthority u.scheme (afterScheme s) = .ok u ∧
      parse (s ++ t) = withAuthority u.scheme (afterScheme s ++ (trailing s ++ t.toList)) := by
  have hu := webPort?_of_isWeb hw
  obtain ⟨r, hs, ha⟩ := parse_web hp hw
  have hn : significant s ≠ [] := by
    intro he
    rw [he] at hs
    cases hs
  have hr : afterScheme s = r.dropWhile fun c => c == '/' || c == '\\' := by
    rw [afterScheme, hs]
    rfl
  have hs' : scheme? (significant (s ++ t)) = some (u.scheme, r ++ (trailing s ++ t.toList)) := by
    rw [significant_append_path hn ht]
    exact scheme?_append hs _
  -- an authority of the web is not empty
  have hne : (r.dropWhile fun c => c == '/' || c == '\\') ≠ [] := by
    intro he
    rw [he, withAuthority_eq, authority_web hu] at ha
    cases ha
  rw [parse_of_scheme? hs' hu, dropWhile_append_of_stop hne, hr]
  exact ⟨ha, rfl⟩

theorem exists_cons_of_isPathText (ht : isPathText t = true) : ∃ r, t.toList = '/' :: r :=
  List.head?_eq_some_iff.mp (eq_of_beq (Bool.and_eq_true_iff.mp ht).1)

/-- The authority of a text ends before a path behind it, unless padding that counts is in between. -/
theorem split_append_path (ht : isPathText t = true) (he : isExtensible s = true) :
    (afterScheme s ++ (trailing s ++ t.toList)).takeWhile (fun c => !endsAuthority true c) =
        (afterScheme s).takeWhile (fun c => !endsAuthority true c) ∧
      (afterScheme s ++ (trailing s ++ t.toList)).dropWhile (fun c => !endsAuthority true c) =
        (afterScheme s).dropWhile (fun c => !endsAuthority true c) ++ (trailing s ++ t.toList) := by
  by_cases ha : (afterScheme s).any (endsAuthority true) = true
  · have hd : (afterScheme s).dropWhile (fun c => !endsAuthority true c) ≠ [] := fun hd =>
      absurd (dropWhile_not_eq_nil_iff.mp hd) (by rw [ha]; decide)
    exact ⟨takeWhile_append_of_stop hd _, dropWhile_append_of_stop hd _⟩
  · have ha := Bool.eq_false_iff.mpr ha
    have hd := dropWhile_not_eq_nil_iff.mpr ha
    have hall := List.dropWhile_eq_nil_iff.mp hd
    have hn : trailing s = [] := by
      rw [isExtensible, ha, Bool.or_false] at he
      exact eq_of_beq he
    obtain ⟨r, hr⟩ := exists_cons_of_isPathText ht
    rw [hn, List.nil_append, List.takeWhile_append_of_pos hall, List.dropWhile_append_of_pos hall, hd,
      List.takeWhile_eq_self_iff.mpr hall, hr]
    exact ⟨List.append_nil _, rfl⟩

/-- **With a path behind it, a URL of the web has the same authority**, and the path stands behind
what followed that. -/
theorem parse_append_eq_assemble (hp : parse s = .ok u) (hw : u.isWeb = true)
    (ht : isPathText t = true) (he : isExtensible s = true) :
    ∃ a rest, assemble u.scheme a rest = u ∧
      parse (s ++ t) = .ok (assemble u.scheme a (rest ++ (trailing s ++ t.toList))) := by
  have hu := webPort?_of_isWeb hw
  obtain ⟨ha, hq⟩ := parse_append_path hp hw ht
  obtain ⟨p, hp, hv⟩ := withAuthority_eq_ok ha
  obtain ⟨htake, hdrop⟩ := split_append_path ht he
  rw [hu] at hp hv
  refine ⟨p.1, p.2 ++ (afterScheme s).dropWhile (fun c => !endsAuthority true c), hv, ?_⟩
  have hne : (afterScheme s).dropWhile (fun c => !endsAuthority true c) ++ (trailing s ++ t.toList) ≠
      [] := by
    obtain ⟨r, hr⟩ := exists_cons_of_isPathText ht
    simp [hr]
  rw [hq, withAuthority_eq, hu, htake, hdrop, beq_eq_false_iff_ne.mpr hne, authority_of_final hu hp,
    List.append_assoc]
  rfl

/-- **A URL of the web stays one with a path behind it**, and keeps its authority. -/
theorem parse_append (hp : parse s = .ok u) (hw : u.isWeb = true) (ht : isPathText t = true)
    (he : isExtensible s = true) : ∃ v, parse (s ++ t) = .ok v ∧ v.scheme = u.scheme ∧
      v.username = u.username ∧ v.password = u.password ∧ v.host = u.host ∧ v.port = u.port := by
  obtain ⟨a, rest, hu, hv⟩ := parse_append_eq_assemble hp hw ht he
  refine ⟨_, hv, ?_⟩
  rw [← hu]
  exact ⟨rfl, rfl, rfl, rfl, rfl⟩

/-- **Where the padding at its end counts, a URL is none with a path behind it.** -/
theorem parse_append_error (hp : parse s = .ok u) (hw : u.isWeb = true) (ht : isPathText t = true)
    (he : isExtensible s = false) : ∃ e, parse (s ++ t) = .error e := by
  have hu := webPort?_of_isWeb hw
  obtain ⟨-, hq⟩ := parse_append_path hp hw ht
  obtain ⟨h1, h2⟩ := Bool.or_eq_false_iff.mp he
  obtain hn | ⟨front, c, hl⟩ := List.eq_nil_or_concat (trailing s)
  · rw [hn] at h1
    exact absurd h1 (by decide)
  · rw [List.concat_eq_append] at hl
    have hp (d : Char) (hd : d ∈ trailing s) : (!endsAuthority true d) = true := by
      have hd := isPadding_of_mem_trailing hd
      cases hb : endsAuthority true d with
      | false => rfl
      | true =>
        simp only [endsAuthority, Bool.or_eq_true, Bool.true_and, beq_iff_eq] at hb
        rcases hb with ((rfl | rfl) | rfl) | rfl <;> exact absurd hd (by decide)
    have hall : ∀ d ∈ afterScheme s ++ trailing s, (!endsAuthority true d) = true := by
      intro d hd
      rcases List.mem_append.mp hd with hd | hd
      · exact List.dropWhile_eq_nil_iff.mp (dropWhile_not_eq_nil_iff.mpr h2) d hd
      · exact hp d hd
    have hb : '\\' ∉ afterScheme s ++ front := by
      intro hm
      refine absurd (hall '\\' ?_) (by decide)
      rw [hl, ← List.append_assoc]
      exact List.mem_append_left _ hm
    have hc : c.toNat ≤ 0x20 := isPadding_of_mem_trailing (by rw [hl]; exact List.mem_concat_self)
    have hstop : t.toList.takeWhile (fun c => !endsAuthority true c) = [] := by
      obtain ⟨r, hr⟩ := exists_cons_of_isPathText ht
      rw [hr]
      rfl
    rw [hq, withAuthority_eq, hu, ← List.append_assoc, List.takeWhile_append_of_pos hall, hstop,
      List.append_nil, hl, ← List.append_assoc]
    obtain ⟨e, h⟩ := authority_concat hc hu hb _
    rw [h]
    exact ⟨e, rfl⟩

end Path

end FunctionLoad.Url
