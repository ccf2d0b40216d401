import FunctionLoad.Proofs.Url.Host
import FunctionLoad.Url.Reader

/-!
# Authorities of the web

* `splitUser_concat`, `splitHost_concat`, `portOf_concat`: a character behind user, host or port.
* **`authority_web`**: what an authority of the web has to have.
* **`authority_concat`**: no authority of the web ends in a blank.
-/

namespace FunctionLoad.Url

open FunctionLoad.Text FunctionLoad.Decimal

variable {c : Char} {usual : Option Nat}

/-! ## User, host and port -/

theorem splitUser_concat (h : c ≠ '@') (cs : List Char) :
    splitUser (cs ++ [c]) = (splitUser cs).map fun p => (p.1, p.2 ++ [c]) := by
  unfold splitUser
  by_cases hc : cs.contains '@' = true
  · have hc' : (cs ++ [c]).contains '@' = true := by
      rw [List.contains_iff_mem] at hc ⊢
      exact List.mem_append_left _ hc
    rw [if_pos hc, if_pos hc', List.reverse_append, List.reverse_singleton, List.singleton_append,
      List.dropWhile_cons_of_pos (by simpa using h), List.takeWhile_cons_of_pos (by simpa using h),
      List.reverse_cons]
    rfl
  · have hc' : ¬ (cs ++ [c]).contains '@' = true := by
      rw [List.contains_iff_mem] at hc ⊢
      intro hm
      rcases List.mem_append.mp hm with hm | hm
      · exact hc hm
      · exact h (List.mem_singleton.mp hm).symm
    rw [if_neg hc, if_neg hc']
    rfl

/-- What follows a host starts with the colon in front of a port. -/
theorem splitHost_snd (inside : Bool) (cs : List Char) :
    (splitHost inside cs).2 = [] ∨ ∃ r, (splitHost inside cs).2 = ':' :: r ∧ r ⊆ cs := by
  induction cs generalizing inside with
  | nil => exact Or.inl rfl
  | cons b cs ih =>
    rw [splitHost]
    by_cases h : b = ':' ∧ ¬ inside = true
    · rw [if_pos h, h.1]
      exact Or.inr ⟨cs, rfl, List.subset_cons_self _ _⟩
    · rw [if_neg h]
      rcases ih (if b = '[' then true else if b = ']' then false else inside) with h0 | ⟨r, h1, h2⟩
      · exact Or.inl h0
      · exact Or.inr ⟨r, h1, List.subset_cons_of_subset _ h2⟩

/-- A character behind a text belongs to the port if there is one, and to the host if not. -/
theorem splitHost_concat (h : c ≠ ':') (inside : Bool) (cs : List Char) :
    splitHost inside (cs ++ [c]) =
      if (splitHost inside cs).2 = [] then ((splitHost inside cs).1 ++ [c], [])
      else ((splitHost inside cs).1, (splitHost inside cs).2 ++ [c]) := by
  induction cs generalizing inside with
  | nil =>
    have hc : ¬ (c = ':' ∧ ¬ inside = true) := fun hc => h hc.1
    rw [List.nil_append, splitHost.eq_2, if_neg hc, splitHost, splitHost, if_pos rfl]
    rfl
  | cons b cs ih =>
    rw [List.cons_append, splitHost, splitHost]
    by_cases hb : b = ':' ∧ ¬ inside = true
    · rw [if_pos hb, if_pos hb]
      rfl
    · rw [if_neg hb, if_neg hb, ih]
      dsimp only
      split_ifs <;> rfl

/-- A port does not end in a blank. -/
theorem portOf_concat (h : c.toNat ≤ 0x20) {cs : List Char} (hs : '\\' ∉ cs) :
    portOf usual (':' :: cs ++ [c]) = .error .invalidPort := by
  have hx : hexValue? c = none := hexValue?_blank h
  have hd : isDigit c = false := by
    rw [isDigit, isDigitOf, digitValue?, hx]
    rfl
  have hc : c ≠ '\\' := Domain.ne_of_blank h (by decide)
  have hr : (cs ++ [c]).dropWhile isDigit = cs.dropWhile isDigit ++ [c] := by
    rw [List.dropWhile_append]
    split_ifs with he
    · rw [List.isEmpty_iff.mp he, List.dropWhile_cons_of_neg (by rw [hd]; exact Bool.false_ne_true)]
      rfl
    · rfl
  have hh : (cs.dropWhile isDigit ++ [c]).head? ≠ some '\\' := by
    intro he
    cases hl : cs.dropWhile isDigit with
    | nil =>
      rw [hl] at he
      exact hc (Option.some.inj he)
    | cons b r =>
      rw [hl] at he
      have hb : b ∈ cs.dropWhile isDigit := by
        rw [hl]
        exact List.mem_cons_self
      rw [Option.some.inj he] at hb
      exact hs ((List.dropWhile_sublist _).mem hb)
  rw [List.cons_append, portOf]
  dsimp only
  rw [hr, if_pos ⟨List.append_ne_nil_of_right_ne_nil _ (List.cons_ne_nil _ _), hh⟩]

/-! ## The whole -/

/-- What of an authority follows its user. -/
def afterUser (cs : List Char) : List Char :=
  ((splitUser cs).getD ([], cs)).2

/-- The user of an authority and its password. -/
def userOf (cs : List Char) : List Char × List Char :=
  let user := ((splitUser cs).getD ([], cs)).1
  (Percent.encode Percent.inUser (user.takeWhile (· ≠ ':')),
    Percent.encode Percent.inUser (user.dropWhile (· ≠ ':')).tail)

theorem Host.ofWeb_ne_empty (cs : List Char) : Host.ofWeb cs ≠ .ok (.domain []) := by
  unfold Host.ofWeb bracketed?
  intro h
  split at h
  · next hb =>
    split at hb
    · cases hb
      split at h
      · split at h <;> cases h
      · cases h
    · cases hb
  · split at h
    · cases h
    · cases h
    · next name hn _ =>
      split_ifs at h
      · split at h <;> cases h
      · cases h
        exact hn rfl

/-- **The authority of a URL of the web**: it has a host, and then a user and a port. -/
theorem authority_web (hu : usual.isSome = true) (final : Bool) (cs : List Char) :
    authority usual final cs =
      if splitUser cs = some ([], []) ∧ ¬ final = true then .error .emptyHost
      else if (splitHost false (afterUser cs)).1 = [] then .error .emptyHost
      else (Host.ofWeb (splitHost false (afterUser cs)).1).bind fun host =>
        (portOf usual (splitHost false (afterUser cs)).2).map fun p =>
          (⟨(userOf cs).1, (userOf cs).2, some host, p.1⟩, p.2) := by
  unfold authority afterUser userOf
  dsimp only
  generalize splitHost false ((splitUser cs).getD ([], cs)).2 = q
  by_cases h1 : splitUser cs = some ([], []) ∧ ¬ final = true
  · rw [if_pos h1, if_pos h1]
    rfl
  · rw [if_neg h1, if_neg h1]
    by_cases h2 : q.1 = []
    · rw [if_pos (And.intro h2 hu), if_pos h2]
      rfl
    · have h3 : ¬ (q.1 = [] ∧ usual.isSome = true) := fun h => h2 h.1
      rw [if_neg h3, if_neg h2, if_pos hu]
      cases hh : Host.ofWeb q.1 with
      | error e => rfl
      | ok host =>
        have he : (host == .domain []) = false := by
          rw [beq_eq_false_iff_ne]
          rintro rfl
          exact Host.ofWeb_ne_empty _ hh
        simp only [Except.bind, bind, he]
        cases hp : portOf usual q.2 <;> rfl

theorem afterUser_concat (h : c ≠ '@') (cs : List Char) :
    afterUser (cs ++ [c]) = afterUser cs ++ [c] := by
  unfold afterUser
  rw [splitUser_concat h]
  cases splitUser cs <;> rfl

theorem afterUser_subset (cs : List Char) : afterUser cs ⊆ cs := by
  unfold afterUser splitUser
  split_ifs
  · intro a ha
    have hr := List.mem_reverse.mp ha
    exact List.mem_reverse.mp ((List.takeWhile_sublist _).mem hr)
  · exact List.Subset.refl _

/-- **No authority of the web ends in a blank.** -/
theorem authority_concat (h : c.toNat ≤ 0x20) (hu : usual.isSome = true) {cs : List Char}
    (hs : '\\' ∉ cs) (final : Bool) : ∃ e, authority usual final (cs ++ [c]) = .error e := by
  have ha : c ≠ '@' := Domain.ne_of_blank h (by decide)
  have hc : c ≠ ':' := Domain.ne_of_blank h (by decide)
  rw [authority_web hu, afterUser_concat ha, splitHost_concat hc]
  by_cases h1 : splitUser (cs ++ [c]) = some ([], []) ∧ ¬ final = true
  · exact ⟨.emptyHost, if_pos h1⟩
  · rw [if_neg h1]
    rcases splitHost_snd false (afterUser cs) with h2 | ⟨r, h2, hr⟩
    · rw [if_pos h2]
      obtain ⟨e, he⟩ := Host.ofWeb_concat h (splitHost false (afterUser cs)).1
      rw [if_neg (List.append_ne_nil_of_right_ne_nil _ (List.cons_ne_nil c [])), he]
      exact ⟨e, rfl⟩
    · have hq : (splitHost false (afterUser cs)).2 ≠ [] := by
        rw [h2]
        exact List.cons_ne_nil _ _
      have hp : portOf usual ((splitHost false (afterUser cs)).2 ++ [c]) = .error .invalidPort := by
        rw [h2]
        exact portOf_concat h fun hm => hs (afterUser_subset cs (hr hm))
      rw [if_neg hq, hp]
      by_cases h3 : (splitHost false (afterUser cs)).1 = []
      · exact ⟨.emptyHost, if_pos h3⟩
      · rw [if_neg h3]
        cases Host.ofWeb (splitHost false (afterUser cs)).1 with
        | error e => exact ⟨e, rfl⟩
        | ok host => exact ⟨.invalidPort, rfl⟩

end FunctionLoad.Url
