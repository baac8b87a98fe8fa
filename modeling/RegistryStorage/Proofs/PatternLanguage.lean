import Mathlib.Computability.Language
import RegistryStorage.Text.Pattern

/-!
What a pattern matches.

A pattern describes a set of texts, its language, which is put together from the languages of its
parts and says nothing of how a text is read. The matcher finds exactly these texts
(`Pattern.accepts_iff`). Reading one character leads from a pattern to patterns of what may follow
it (`Pattern.mem_after`), and the rest is an induction over the text.

The step needs one fact about each way of putting languages together: how a text of it begins.
A text of several parts begins with its first part that is not empty, and the empty parts before it
may be left out (`cons_mem_mul`, `cons_mem_kstar`, `cons_mem_pow`).
-/

set_option autoImplicit false

namespace RegistryStorage.Text

open scoped Computability

/-! ## How a text of several parts begins -/

section

variable {L M : Language Char} {c : Char} {s : List Char}

theorem nil_mem_mul : [] ∈ L * M ↔ [] ∈ L ∧ [] ∈ M := by
  rw [Language.mem_mul]
  constructor
  · rintro ⟨u, hu, v, hv, h⟩
    obtain ⟨rfl, rfl⟩ := List.append_eq_nil_iff.1 h
    exact ⟨hu, hv⟩
  · rintro ⟨hl, hm⟩
    exact ⟨[], hl, [], hm, rfl⟩

theorem cons_mem_mul :
    c :: s ∈ L * M ↔ (∃ u v, u ++ v = s ∧ c :: u ∈ L ∧ v ∈ M) ∨ ([] ∈ L ∧ c :: s ∈ M) := by
  rw [Language.mem_mul]
  constructor
  · rintro ⟨u, hu, v, hv, h⟩
    cases u with
    | nil => exact Or.inr ⟨hu, h ▸ hv⟩
    | cons d u =>
      obtain ⟨rfl, rfl⟩ := List.cons.inj h
      exact Or.inl ⟨u, v, rfl, hu, hv⟩
  · rintro (⟨u, v, rfl, hu, hv⟩ | ⟨hl, hm⟩)
    · exact ⟨c :: u, hu, v, hv, rfl⟩
    · exact ⟨[], hl, c :: s, hm, rfl⟩

theorem cons_mem_kstar : c :: s ∈ L∗ ↔ ∃ u v, u ++ v = s ∧ c :: u ∈ L ∧ v ∈ L∗ := by
  constructor
  · intro h
    obtain ⟨parts, hparts, hall⟩ := Language.mem_kstar_iff_exists_nonempty.1 h
    -- no part is empty, so the first one holds the first character
    match parts with
    | [] => cases hparts
    | [] :: rest => exact absurd rfl (hall [] List.mem_cons_self).2
    | (d :: u) :: rest =>
      obtain ⟨rfl, rfl⟩ := List.cons.inj hparts
      refine ⟨u, rest.flatten, rfl, (hall _ List.mem_cons_self).1, ?_⟩
      exact Language.join_mem_kstar fun y hy => (hall y (List.mem_cons_of_mem _ hy)).1
  · rintro ⟨u, v, rfl, hu, hv⟩
    rw [← Language.one_add_self_mul_kstar_eq_kstar, Language.mem_add]
    exact Or.inr (Language.append_mem_mul hu hv)

theorem nil_mem_pow {k : ℕ} : [] ∈ L ^ k ↔ k = 0 ∨ [] ∈ L := by
  induction k with
  | zero => simp
  | succ k ih =>
    rw [pow_succ', nil_mem_mul, ih]
    simp only [Nat.add_eq_zero_iff, Nat.one_ne_zero, and_false, false_or]
    tauto

theorem cons_mem_pow {k : ℕ} :
    c :: s ∈ L ^ (k + 1) ↔ ∃ u v, u ++ v = s ∧ c :: u ∈ L ∧ v ∈ L ^ k := by
  constructor
  · intro h
    induction k with
    | zero =>
      rw [pow_succ', cons_mem_mul] at h
      rcases h with h | ⟨-, h⟩
      · exact h
      · cases h
    | succ k ih =>
      rw [pow_succ', cons_mem_mul] at h
      rcases h with h | ⟨hempty, h⟩
      · exact h
      · -- the empty part before the first character is as good after it
        obtain ⟨u, v, huv, hu, hv⟩ := ih h
        refine ⟨u, v, huv, hu, ?_⟩
        rw [pow_succ']
        exact Language.append_mem_mul hempty hv
  · rintro ⟨u, v, rfl, hu, hv⟩
    rw [pow_succ']
    exact Language.append_mem_mul hu hv

end

/-! ## The language of a pattern -/

namespace Pattern

/-- The texts that a pattern describes. -/
def language : Pattern → Language Char
  | empty => 1
  | oneOf ranges => {s | ∃ c, s = [c] ∧ ∃ r ∈ ranges, r.1 ≤ c ∧ c ≤ r.2}
  | followedBy p q => p.language * q.language
  | either p q => p.language + q.language
  | many p => p.language∗
  | times p least most => {s | ∃ k, least ≤ k ∧ k ≤ most ∧ s ∈ p.language ^ k}

theorem mem_oneOf {ranges : List (Char × Char)} {s : List Char} :
    s ∈ (oneOf ranges).language ↔ ∃ c, s = [c] ∧ ∃ r ∈ ranges, r.1 ≤ c ∧ c ≤ r.2 :=
  Iff.rfl

theorem mem_times {p : Pattern} {least most : Nat} {s : List Char} :
    s ∈ (times p least most).language ↔ ∃ k, least ≤ k ∧ k ≤ most ∧ s ∈ p.language ^ k :=
  Iff.rfl

theorem matchesEmpty_iff (p : Pattern) : p.matchesEmpty = true ↔ [] ∈ p.language := by
  induction p with
  | empty => exact iff_of_true rfl Language.nil_mem_one
  | oneOf ranges => simp [matchesEmpty, mem_oneOf]
  | followedBy p q hp hq => simp [matchesEmpty, language, nil_mem_mul, hp, hq]
  | either p q hp hq =>
    simp only [matchesEmpty, Bool.or_eq_true, hp, hq, language, Language.mem_add]
  | many p _ => exact iff_of_true rfl (Language.nil_mem_kstar _)
  | times p least most hp =>
    simp only [matchesEmpty, Bool.and_eq_true, Bool.or_eq_true, decide_eq_true_eq, mem_times, hp,
      nil_mem_pow]
    constructor
    · rintro ⟨hle, hempty⟩
      exact ⟨least, le_rfl, hle, hempty⟩
    · rintro ⟨k, hleast, hmost, hempty⟩
      refine ⟨hleast.trans hmost, hempty.imp_left fun hk => ?_⟩
      omega

/-- A character of the first of two parts is read within it, and the other one comes after it. -/
theorem mem_map_followedBy {p : Pattern} {c : Char} (q : Pattern) {s : List Char}
    (hp : ∀ u, (∃ r ∈ p.after c, u ∈ r.language) ↔ c :: u ∈ p.language) :
    (∃ r ∈ (p.after c).map (followedBy · q), s ∈ r.language) ↔
      ∃ u v, u ++ v = s ∧ c :: u ∈ p.language ∧ v ∈ q.language := by
  constructor
  · rintro ⟨_, hmem, hs⟩
    obtain ⟨r, hr, rfl⟩ := List.mem_map.1 hmem
    obtain ⟨u, hu, v, hv, huv⟩ := Language.mem_mul.1 hs
    exact ⟨u, v, huv, (hp u).1 ⟨r, hr, hu⟩, hv⟩
  · rintro ⟨u, v, rfl, hu, hv⟩
    obtain ⟨r, hr, hu⟩ := (hp u).2 hu
    exact ⟨_, List.mem_map_of_mem hr, Language.append_mem_mul hu hv⟩

/-- **Reading a character.** What is left of a text matches one of the patterns that may follow the
character exactly if the text with the character in front matches. -/
theorem mem_after (c : Char) (s : List Char) (p : Pattern) :
    (∃ q ∈ p.after c, s ∈ q.language) ↔ c :: s ∈ p.language := by
  induction p generalizing s with
  | empty => simp [after, language]
  | oneOf ranges =>
    simp only [after, mem_oneOf]
    split
    · rename_i h
      simpa [language] using fun _ => h
    · rename_i h
      simpa [language] using fun _ => h
  | followedBy p q hp hq =>
    simp only [after, List.mem_append, or_and_right, exists_or, mem_map_followedBy q hp]
    rw [language, cons_mem_mul, ← matchesEmpty_iff, ← hq]
    refine or_congr_right ?_
    cases p.matchesEmpty <;> simp
  | either p q hp hq =>
    simp only [after, List.mem_append, or_and_right, exists_or, hp, hq, language,
      Language.mem_add]
  | many p hp =>
    rw [after, mem_map_followedBy _ hp, language, cons_mem_kstar]
  | times p least most hp =>
    rw [after, mem_times]
    split
    · rename_i hmost
      refine iff_of_false (by simp) ?_
      rintro ⟨k, -, hk, hs⟩
      obtain rfl : k = 0 := by omega
      cases hs
    · rename_i hmost
      rw [mem_map_followedBy _ hp]
      constructor
      · rintro ⟨u, v, huv, hu, k, hleast, hk, hv⟩
        exact ⟨k + 1, by omega, by omega, cons_mem_pow.2 ⟨u, v, huv, hu, hv⟩⟩
      · rintro ⟨k, hleast, hk, hs⟩
        -- a text that begins with a character has at least one part
        match k with
        | 0 => cases hs
        | k + 1 =>
          obtain ⟨u, v, huv, hu, hv⟩ := cons_mem_pow.1 hs
          exact ⟨u, v, huv, hu, k, by omega, by omega, hv⟩

theorem anyMatches_iff (ps : List Pattern) (s : List Char) :
    anyMatches ps s = true ↔ ∃ p ∈ ps, s ∈ p.language := by
  induction s generalizing ps with
  | nil => simp only [anyMatches, List.any_eq_true, matchesEmpty_iff]
  | cons c s ih =>
    rw [anyMatches, ih]
    simp only [List.mem_flatMap, ← mem_after c s]
    tauto

/-- **A text is accepted exactly if the pattern describes it.** -/
theorem accepts_iff (p : Pattern) (s : String) : p.accepts s = true ↔ s.toList ∈ p.language := by
  rw [accepts, anyMatches_iff]
  simp

end Pattern

end RegistryStorage.Text
