import Mathlib.Data.List.Chain
import Mathlib.Data.String.Basic
import RegistryStorage.Naming.Basic
import RegistryStorage.Proofs.PatternLanguage

/-!
The grammar of names.

The validators ask patterns; what a user may be told about names does not mention them. An account
name has 3 to 24 small letters and digits, and a container name 3 to 63 of them with single hyphens
in between. These are the two grammars below, and `isAccountName_iff` and `isContainerName_iff` say
that they are what the validators accept, whatever characters a text holds.

For accounts this is a count of repetitions. For containers the pattern takes a hyphen together with
the character after it, while the grammar forbids two hyphens side by side and one at the end; both
are read off the text from its front (`mem_many_iff`). The length of a container name is counted in
bytes, which only matters for texts that are no names anyway.
-/

set_option autoImplicit false

namespace RegistryStorage.Naming

open Text Text.Pattern
open scoped Computability

/-! ## Characters -/

/-- A character from `a` to `z` or from `0` to `9`. -/
def IsLetterOrDigit (c : Char) : Prop := ('a' ≤ c ∧ c ≤ 'z') ∨ ('0' ≤ c ∧ c ≤ '9')

/-- A character that a container name may hold. -/
def Plausible (c : Char) : Prop := IsLetterOrDigit c ∨ c = '-'

/-- No two hyphens stand side by side. -/
def Spaced (l : List Char) : Prop := l.IsChain fun a b => ¬(a = '-' ∧ b = '-')

theorem isLetterOrDigit_iff (c : Char) : IsLetterOrDigit c ↔ isLowerOrDigit c = true := by
  have hlower : c.isLower = true ↔ 'a' ≤ c ∧ c ≤ 'z' := by
    show (decide (c.val ≥ 'a'.val) && decide (c.val ≤ 'z'.val)) = true ↔ _
    rw [Bool.and_eq_true, decide_eq_true_eq, decide_eq_true_eq]
    rfl
  have hdigit : c.isDigit = true ↔ '0' ≤ c ∧ c ≤ '9' := by
    show (decide (c.val ≥ '0'.val) && decide (c.val ≤ '9'.val)) = true ↔ _
    rw [Bool.and_eq_true, decide_eq_true_eq, decide_eq_true_eq]
    rfl
  rw [isLowerOrDigit, Bool.or_eq_true, hlower, hdigit, IsLetterOrDigit]

theorem not_isLetterOrDigit_hyphen : ¬IsLetterOrDigit '-' := by
  rw [isLetterOrDigit_iff]
  decide

/-- The characters of names take one byte each. -/
theorem utf8Size_of_plausible {c : Char} (h : Plausible c) : c.utf8Size = 1 := by
  rw [Char.utf8Size_eq_one_iff, UInt32.le_iff_toNat_le]
  rcases h with (⟨-, h⟩ | ⟨-, h⟩) | rfl
  · exact (UInt32.le_iff_toNat_le.1 h).trans (by decide)
  · exact (UInt32.le_iff_toNat_le.1 h).trans (by decide)
  · decide

theorem utf8Len_of_plausible {l : List Char} (h : ∀ c ∈ l, Plausible c) :
    String.utf8Len l = l.length := by
  induction l with
  | nil => rfl
  | cons c r ih =>
    rw [String.utf8Len_cons, utf8Size_of_plausible (h c List.mem_cons_self),
      ih fun d hd => h d (List.mem_cons_of_mem c hd)]
    rfl

/-- Two hyphens side by side are a part of the text. -/
theorem spaced_iff (l : List Char) : Spaced l ↔ ¬['-', '-'] <:+: l := by
  rw [Spaced, List.isChain_iff_forall_rel_of_append_cons_cons]
  constructor
  · rintro h ⟨before, behind, rfl⟩
    exact h (List.append_assoc before ['-', '-'] behind) ⟨rfl, rfl⟩
  · rintro h a b before behind rfl ⟨rfl, rfl⟩
    exact h ⟨before, behind, by simp⟩

/-! ## Accounts -/

/-- The rule for names of accounts. -/
structure AccountGrammar (name : String) : Prop where
  length : 3 ≤ name.length ∧ name.length ≤ 24
  letters : ∀ c ∈ name.toList, IsLetterOrDigit c

theorem mem_letterPattern {s : List Char} :
    s ∈ letterPattern.language ↔ ∃ c, s = [c] ∧ IsLetterOrDigit c := by
  simp [letterPattern, mem_oneOf, IsLetterOrDigit]

/-- So many letters, one after the other. -/
theorem mem_letterPattern_pow {k : ℕ} {s : List Char} :
    s ∈ letterPattern.language ^ k ↔ s.length = k ∧ ∀ c ∈ s, IsLetterOrDigit c := by
  induction s generalizing k with
  | nil =>
    have hempty : ([] : List Char) ∉ letterPattern.language := by simp [mem_letterPattern]
    simp [nil_mem_pow, hempty, eq_comm]
  | cons c s ih =>
    match k with
    | 0 => simp
    | k + 1 =>
      -- a part is one character, and the other parts are what follows it
      rw [cons_mem_pow]
      constructor
      · rintro ⟨u, v, rfl, hu, hv⟩
        obtain ⟨d, hd, hletter⟩ := mem_letterPattern.1 hu
        obtain ⟨rfl, rfl⟩ := List.cons.inj hd
        obtain ⟨hlength, hall⟩ := ih.1 hv
        exact ⟨congrArg (· + 1) hlength, List.forall_mem_cons.2 ⟨hletter, hall⟩⟩
      · rintro ⟨hlength, hall⟩
        obtain ⟨hletter, hrest⟩ := List.forall_mem_cons.1 hall
        refine ⟨[], s, rfl, mem_letterPattern.2 ⟨c, rfl, hletter⟩, ih.2 ⟨?_, hrest⟩⟩
        exact Nat.succ.inj hlength

/-- **The names that are accepted for accounts.** -/
theorem isAccountName_iff (name : String) : isAccountName name = true ↔ AccountGrammar name := by
  rw [isAccountName, accepts_iff, accountPattern, mem_times]
  simp only [mem_letterPattern_pow, String.length_toList]
  constructor
  · rintro ⟨k, hleast, hmost, rfl, hall⟩
    exact ⟨⟨hleast, hmost⟩, hall⟩
  · rintro ⟨⟨hleast, hmost⟩, hall⟩
    exact ⟨_, hleast, hmost, rfl, hall⟩

theorem ne_empty_of_isAccountName {name : String} (h : isAccountName name = true) : name ≠ "" := by
  rintro rfl
  exact absurd h (by decide)

/-! ## Containers -/

/-- The rule for names of containers. -/
structure ContainerGrammar (name : String) : Prop where
  length : 3 ≤ name.length ∧ name.length ≤ 63
  letters : ∀ c ∈ name.toList, IsLetterOrDigit c ∨ c = '-'
  first : name.toList.head? ≠ some '-'
  last : name.toList.getLast? ≠ some '-'
  single : ¬['-', '-'] <:+: name.toList

theorem mem_linkPattern {s : List Char} :
    s ∈ linkPattern.language ↔ ∃ c, IsLetterOrDigit c ∧ (s = [c] ∨ s = ['-', c]) := by
  have hhyphen : ∀ u : List Char, u ∈ (Pattern.oneOf [('-', '-')]).language ↔ u = ['-'] := by
    intro u
    simp only [mem_oneOf, List.mem_singleton, exists_eq_left]
    constructor
    · rintro ⟨c, rfl, hle, hge⟩
      rw [le_antisymm hge hle]
    · rintro rfl
      exact ⟨'-', rfl, le_rfl, le_rfl⟩
  rw [linkPattern, language, Language.mem_add, language, Language.mem_mul]
  constructor
  · rintro (hs | ⟨u, hu, v, hv, rfl⟩)
    · obtain ⟨c, rfl, hc⟩ := mem_letterPattern.1 hs
      exact ⟨c, hc, Or.inl rfl⟩
    · obtain ⟨c, rfl, hc⟩ := mem_letterPattern.1 hv
      obtain rfl := (hhyphen u).1 hu
      exact ⟨c, hc, Or.inr rfl⟩
  · rintro ⟨c, hc, rfl | rfl⟩
    · exact Or.inl (mem_letterPattern.2 ⟨c, rfl, hc⟩)
    · exact Or.inr ⟨['-'], (hhyphen _).2 rfl, [c], mem_letterPattern.2 ⟨c, rfl, hc⟩, rfl⟩

/-- What may follow a letter or digit in a container name. -/
structure Follows (l : List Char) : Prop where
  letters : ∀ c ∈ l, Plausible c
  spaced : Spaced l
  last : l.getLast? ≠ some '-'

theorem follows_nil : Follows [] := ⟨nofun, List.isChain_nil, nofun⟩

theorem follows_cons {c : Char} (hc : IsLetterOrDigit c) (r : List Char) :
    Follows (c :: r) ↔ Follows r := by
  have hne : c ≠ '-' := by
    rintro rfl
    exact not_isLetterOrDigit_hyphen hc
  constructor
  · rintro ⟨hall, hspaced, hlast⟩
    refine ⟨fun d hd => hall d (List.mem_cons_of_mem c hd), hspaced.tail, ?_⟩
    cases r with
    | nil => nofun
    | cons d r => simpa using hlast
  · rintro ⟨hall, hspaced, hlast⟩
    refine ⟨List.forall_mem_cons.2 ⟨Or.inl hc, hall⟩, ?_, ?_⟩
    · exact List.isChain_cons.2 ⟨fun d _ h => hne h.1, hspaced⟩
    · cases r with
      | nil => simpa using hne
      | cons d r => simpa using hlast

/-- A hyphen is not the last character, and the one after it is none. -/
theorem follows_hyphen (r : List Char) :
    Follows ('-' :: r) ↔ ∃ d v, r = d :: v ∧ IsLetterOrDigit d ∧ Follows v := by
  constructor
  · rintro ⟨hall, hspaced, hlast⟩
    match r with
    | [] => exact absurd rfl hlast
    | d :: v =>
      have hne : d ≠ '-' := fun hd => (List.isChain_cons_cons.1 hspaced).1 ⟨rfl, hd⟩
      have hd : IsLetterOrDigit d := (hall d (by simp)).resolve_right hne
      refine ⟨d, v, rfl, hd, (follows_cons hd v).1 ?_⟩
      exact ⟨fun e he => hall e (List.mem_cons_of_mem _ he), hspaced.tail, by simpa using hlast⟩
  · rintro ⟨d, v, rfl, hd, hv⟩
    obtain ⟨hall, hspaced, hlast⟩ := (follows_cons hd v).2 hv
    refine ⟨List.forall_mem_cons.2 ⟨Or.inr rfl, hall⟩, ?_, by simpa using hlast⟩
    refine List.isChain_cons_cons.2 ⟨?_, hspaced⟩
    rintro ⟨-, rfl⟩
    exact not_isLetterOrDigit_hyphen hd

/-- **The links of a container name**, taken from its front, are the texts in which hyphens stand
alone and not at the end. -/
theorem mem_many_iff (s : List Char) : s ∈ linkPattern.language∗ ↔ Follows s := by
  match s with
  | [] => exact iff_of_true (Language.nil_mem_kstar _) follows_nil
  | c :: r =>
    rw [cons_mem_kstar]
    constructor
    · rintro ⟨u, v, rfl, hu, hv⟩
      have hfollows := (mem_many_iff v).1 hv
      obtain ⟨d, hd, h | h⟩ := mem_linkPattern.1 hu
      · obtain ⟨rfl, rfl⟩ := List.cons.inj h
        exact (follows_cons hd v).2 hfollows
      · obtain ⟨rfl, rfl⟩ := List.cons.inj h
        exact (follows_hyphen _).2 ⟨d, v, rfl, hd, hfollows⟩
    · intro h
      rcases h.letters c List.mem_cons_self with hc | rfl
      · have hr := (mem_many_iff r).2 ((follows_cons hc r).1 h)
        exact ⟨[], r, rfl, mem_linkPattern.2 ⟨c, hc, Or.inl rfl⟩, hr⟩
      · obtain ⟨d, v, rfl, hd, hv⟩ := (follows_hyphen r).1 h
        exact ⟨[d], v, rfl, mem_linkPattern.2 ⟨d, hd, Or.inr rfl⟩, (mem_many_iff v).2 hv⟩
termination_by s.length
decreasing_by all_goals grind

/-- **The names that are accepted for containers.** -/
theorem isContainerName_iff (name : String) :
    isContainerName name = true ↔ ContainerGrammar name := by
  have hpattern : containerPattern.accepts name = true ↔
      ∃ c r, name.toList = c :: r ∧ IsLetterOrDigit c ∧ Follows r := by
    rw [accepts_iff, containerPattern, language, Language.mem_mul]
    simp only [language, mem_many_iff, mem_letterPattern]
    constructor
    · rintro ⟨_, ⟨c, rfl, hc⟩, r, hr, h⟩
      exact ⟨c, r, h.symm, hc, hr⟩
    · rintro ⟨c, r, h, hc, hr⟩
      exact ⟨_, ⟨c, rfl, hc⟩, r, hr, h.symm⟩
  -- bytes and characters are as many in a text that is made of these characters
  have hbytes : (∀ c ∈ name.toList, Plausible c) → name.utf8ByteSize = name.length := by
    intro h
    rw [← String.length_toList, ← utf8Len_of_plausible h, ← String.utf8ByteSize_ofList,
      String.ofList_toList]
  simp only [isContainerName, Bool.and_eq_true, decide_eq_true_eq, hpattern]
  constructor
  · rintro ⟨hlength, c, r, hname, hc, hr⟩
    obtain ⟨hall, hspaced, hlast⟩ := (follows_cons hc r).2 hr
    rw [← hname] at hall hspaced hlast
    rw [hbytes hall] at hlength
    refine ⟨hlength, hall, ?_, hlast, (spaced_iff _).1 hspaced⟩
    rw [hname]
    rintro ⟨⟩
    exact not_isLetterOrDigit_hyphen hc
  · rintro ⟨hlength, hall, hfirst, hlast, hsingle⟩
    rw [hbytes hall]
    refine ⟨hlength, ?_⟩
    cases hname : name.toList with
    | nil =>
      rw [← String.length_toList, hname, List.length_nil] at hlength
      omega
    | cons c r =>
      rw [hname] at hall hfirst hlast hsingle
      have hc : IsLetterOrDigit c :=
        (hall c List.mem_cons_self).resolve_right fun h => hfirst (by rw [h]; rfl)
      exact ⟨c, r, rfl, hc, (follows_cons hc r).1 ⟨hall, (spaced_iff _).2 hsingle, hlast⟩⟩

theorem ne_empty_of_isContainerName {name : String} (h : isContainerName name = true) :
    name ≠ "" := by
  rintro rfl
  exact absurd h (by decide)

/-! ## The validators -/

/-- **The validators accept the names of their grammar**, and refuse every other text as an invalid
name, with the text itself and the rule it breaks. -/
theorem validators_accept_their_grammar (name : String) :
    (validateAccountName name = .ok () ↔ AccountGrammar name) ∧
    (validateAccountName name = .error (.invalidName name
      "storage account names must be 3-24 characters of lowercase letters and digits") ↔
      ¬AccountGrammar name) ∧
    (validateContainerName name = .ok () ↔ ContainerGrammar name) ∧
    (validateContainerName name = .error (.invalidName name
      ("container names must be 3-63 characters of lowercase letters, digits and single " ++
        "hyphens")) ↔ ¬ContainerGrammar name) := by
  rw [← isAccountName_iff, ← isContainerName_iff, validateAccountName, validateContainerName]
  refine ⟨?_, ?_, ?_, ?_⟩
  · cases isAccountName name <;> simp
  · cases isAccountName name <;> simp
  · cases isContainerName name <;> simp
  · cases isContainerName name <;> simp

end RegistryStorage.Naming
