import RegistryStorage.Proofs.NameGrammar

/-!
Generated names are names.

An invocation that fails after it chose a name leaves the name in the record, and the next one
reads it back through the validators. So every generated name has to pass them, whatever the
infrastructure is called and whatever is drawn: `isAccountName_accountName` and
`isContainerName_containerName`.

An account name is short enough because its root is cut, and all its characters are letters and
digits in lower case. For a container name the argument is about hyphens. Squeezing leaves no two
of them side by side, so that trimming takes at most one from either end, and the 32 digits of
the serial number keep enough of it.
-/

set_option autoImplicit false

namespace RegistryStorage.Naming

/-! ## Accounts -/

/-- A letter or digit of ASCII, in lower case, is one that account names may hold. -/
theorem isLowerOrDigit_toLower {c : Char} (h : c.isAlphanum = true) :
    isLowerOrDigit c.toLower = true := by
  have hsmall : c.toNat < 128 := by
    -- letters and digits are three ranges of code points
    change ((decide (65 ≤ c.val ∧ c.val ≤ 90) || (decide (97 ≤ c.val) && decide (c.val ≤ 122))) ||
      (decide (48 ≤ c.val) && decide (c.val ≤ 57))) = true at h
    simp only [Bool.or_eq_true, Bool.and_eq_true, decide_eq_true_eq,
      UInt32.le_iff_toNat_le] at h
    show c.val.toNat < 128
    change ((65 ≤ c.val.toNat ∧ c.val.toNat ≤ 90) ∨ (97 ≤ c.val.toNat ∧ c.val.toNat ≤ 122)) ∨
      (48 ≤ c.val.toNat ∧ c.val.toNat ≤ 57) at h
    omega
  have hall : ∀ n < 128, (Char.ofNat n).isAlphanum = true →
      isLowerOrDigit (Char.ofNat n).toLower = true := by decide
  have hc := hall c.toNat hsmall
  rw [Char.ofNat_toNat] at hc
  exact hc h

theorem isAlphanum_of_mem_alphabet {c : Char} (h : c ∈ alphabet) : c.isAlphanum = true := by
  have hall : alphabet.all Char.isAlphanum = true := by decide
  exact List.all_eq_true.1 hall c h

theorem letterOf_mem {number : UInt32} {c : Char} (h : letterOf number = some c) : c ∈ alphabet :=
  List.mem_of_getElem? h

theorem drawFrom_mem (numbers : List UInt32) (taken : Nat) :
    (drawFrom numbers taken).1 ∈ alphabet := by
  induction numbers generalizing taken with
  | nil =>
    have hfirst : 'A' ∈ alphabet := by decide
    exact hfirst
  | cons number rest ih =>
    unfold drawFrom
    split
    · rename_i c hc
      exact letterOf_mem hc
    · exact ih _

theorem letters_length (n : Nat) (d : Draws) : (Draws.letters n d).1.length = n := by
  induction n generalizing d with
  | zero => rfl
  | succ n ih => exact congrArg (· + 1) (ih _)

theorem letters_mem (n : Nat) (d : Draws) : ∀ c ∈ (Draws.letters n d).1, c ∈ alphabet := by
  induction n generalizing d with
  | zero => exact fun c hc => nomatch hc
  | succ n ih =>
    intro c hc
    rcases List.mem_cons.1 hc with rfl | hc
    · exact drawFrom_mem _ _
    · exact ih _ c hc

theorem isAlphanum_of_mem_accountRoot {infrastructure : String} {c : Char}
    (h : c ∈ accountRoot infrastructure) : c.isAlphanum = true :=
  (List.mem_filter.1 (List.mem_of_mem_take h)).2

/-- The fixed word alone gives the root thirteen characters. -/
theorem accountRoot_length (infrastructure : String) :
    13 ≤ (accountRoot infrastructure).length ∧ (accountRoot infrastructure).length ≤ 19 := by
  have hword : ("imageregistry".toList.filter Char.isAlphanum).length = 13 := by decide
  unfold accountRoot
  rw [String.toList_append, List.filter_append, List.length_take, List.length_append, hword]
  omega

/-- **Every generated account name is one that the provider takes.** -/
theorem isAccountName_accountName (infrastructure : String) (draws : Draws) :
    isAccountName (accountName infrastructure draws).1 = true := by
  have hroot := accountRoot_length infrastructure
  have hsuffix := letters_length 5 draws
  have hlength : (accountName infrastructure draws).1.length =
      (accountRoot infrastructure).length + 5 := by
    simp [accountName, hsuffix]
  refine (isAccountName_iff _).2 ⟨by omega, ?_⟩
  simp only [accountName, String.toList_ofList, List.forall_mem_map, isLetterOrDigit_iff]
  intro c hc
  rcases List.mem_append.1 hc with hc | hc
  · exact isLowerOrDigit_toLower (isAlphanum_of_mem_accountRoot hc)
  · exact isLowerOrDigit_toLower (isAlphanum_of_mem_alphabet (letters_mem _ _ c hc))

/-! ## Containers -/

theorem plausible_containerChar (c : Char) : Plausible (containerChar c) := by
  unfold containerChar
  split
  · exact Or.inl ((isLetterOrDigit_iff c).2 ‹_›)
  · exact Or.inr rfl

theorem squeezeHyphens_sublist (l : List Char) : (squeezeHyphens l).Sublist l := by
  induction l with
  | nil => exact List.Sublist.refl _
  | cons c r ih =>
    unfold squeezeHyphens
    split
    · exact ih.cons _
    · exact ih.cons_cons _

theorem head?_squeezeHyphens (l : List Char) : (squeezeHyphens l).head? = l.head? := by
  induction l with
  | nil => rfl
  | cons c r ih =>
    unfold squeezeHyphens
    split
    · rename_i h
      rw [ih, h.2, h.1]
      rfl
    · rfl

theorem spaced_squeezeHyphens (l : List Char) : Spaced (squeezeHyphens l) := by
  induction l with
  | nil => exact List.isChain_nil
  | cons c r ih =>
    unfold squeezeHyphens
    split
    · exact ih
    · rename_i h
      refine List.isChain_cons.2 ⟨?_, ih⟩
      intro d hd hboth
      rw [head?_squeezeHyphens] at hd
      rw [Option.mem_def.1 hd, hboth.2] at h
      exact h ⟨hboth.1, rfl⟩

/-- Squeezing takes away hyphens only. -/
theorem filter_squeezeHyphens (l : List Char) :
    (squeezeHyphens l).filter (· != '-') = l.filter (· != '-') := by
  induction l with
  | nil => rfl
  | cons c r ih =>
    unfold squeezeHyphens
    split
    · rename_i h
      simp [h.1, ih]
    · simp only [List.filter_cons, ih]

/-- Spaced hyphens are trimmed from the front one at most. -/
theorem length_le_of_trimmed {l : List Char} (h : Spaced l) :
    l.length ≤ (l.dropWhile (· == '-')).length + 1 := by
  match l with
  | [] => simp
  | c :: r =>
    by_cases hc : c = '-'
    · subst hc
      match r with
      | [] => simp
      | d :: q =>
        have hd : d ≠ '-' := fun hd => (List.isChain_cons_cons.1 h).1 ⟨rfl, hd⟩
        simp [hd]
    · simp [hc]

theorem head?_dropWhile_hyphen (l : List Char) : (l.dropWhile (· == '-')).head? ≠ some '-' := by
  induction l with
  | nil => simp
  | cons c r ih =>
    rw [List.dropWhile_cons]
    split
    · exact ih
    · rename_i h
      simpa using h

/-- The digits of a serial number are none of the characters that a name may not hold. -/
theorem digits_kept (serial : Serial) :
    ((serial.digits.flatMap Text.lowerChar).map containerChar) = serial.digits := by
  have hdigit : ∀ k < 16, (Text.lowerChar (Nat.digitChar k)).map containerChar =
      [Nat.digitChar k] := by decide
  have hlist : ∀ l : List Char, (∀ c ∈ l, ∃ k < 16, c = Nat.digitChar k) →
      (l.flatMap Text.lowerChar).map containerChar = l := by
    intro l hl
    induction l with
    | nil => rfl
    | cons c r ih =>
      obtain ⟨k, hk, rfl⟩ := hl c List.mem_cons_self
      rw [List.flatMap_cons, List.map_append, hdigit k hk,
        ih fun d hd => hl d (List.mem_cons_of_mem _ hd)]
      rfl
  refine hlist _ fun c hc => ?_
  obtain ⟨i, -, rfl⟩ := List.mem_map.1 hc
  exact ⟨_, Nat.mod_lt _ (by omega), rfl⟩

theorem digits_without_hyphen (serial : Serial) :
    serial.digits.filter (· != '-') = serial.digits := by
  have hdigit : ∀ k < 16, Nat.digitChar k != '-' := by decide
  refine List.filter_eq_self.2 fun c hc => ?_
  obtain ⟨i, -, rfl⟩ := List.mem_map.1 hc
  exact hdigit _ (Nat.mod_lt _ (by omega))

/-- The characters that a container name is cut from. -/
def containerStem (infrastructure : String) (serial : Serial) : List Char :=
  squeezeHyphens ((Text.lower (infrastructure ++ "-image-registry-" ++
    String.ofList serial.digits)).toList.map containerChar)

/-- The digits of the serial number are left in it. -/
theorem containerStem_length (infrastructure : String) (serial : Serial) :
    32 ≤ (containerStem infrastructure serial).length := by
  have hfilter : 32 ≤ ((containerStem infrastructure serial).filter (· != '-')).length := by
    unfold containerStem
    rw [filter_squeezeHyphens]
    simp only [Text.lower, String.toList_ofList, String.toList_append, List.flatMap_append,
      List.map_append, List.filter_append, List.length_append, digits_kept, digits_without_hyphen]
    have hdigits : serial.digits.length = 32 := by simp [Serial.digits]
    omega
  exact hfilter.trans (List.length_filter_le _ _)

/-- **Every generated container name is one that the provider takes.** The stem is cut to 63
characters and trimmed by one hyphen at most from either end, so thirty of its first 32 stay. -/
theorem isContainerName_containerName (infrastructure : String) (serial : Serial) :
    isContainerName (containerName infrastructure serial) = true := by
  let cut := (containerStem infrastructure serial).take 63
  let front := cut.dropWhile (· == '-')
  let back := front.reverse.dropWhile (· == '-')
  have hname : containerName infrastructure serial = String.ofList back.reverse := rfl
  -- neither cutting nor trimming puts two hyphens side by side
  have hcut : Spaced cut := (spaced_squeezeHyphens _).take 63
  have hfront : Spaced front := hcut.suffix (List.dropWhile_suffix _)
  have hreverse : Spaced front.reverse :=
    List.isChain_reverse.2 (hfront.imp fun a b h hab => h ⟨hab.2, hab.1⟩)
  have hpart : back.reverse <+: front := by
    rw [← List.reverse_suffix, List.reverse_reverse]
    exact List.dropWhile_suffix _
  have hshort : back.reverse.length ≤ cut.length :=
    hpart.length_le.trans (List.dropWhile_suffix _).length_le
  -- each trimming takes one hyphen at most, as no two stand side by side
  have hlong : cut.length ≤ back.reverse.length + 2 := by
    have hf : cut.length ≤ front.length + 1 := length_le_of_trimmed hcut
    have hb : front.reverse.length ≤ back.length + 1 := length_le_of_trimmed hreverse
    rw [List.length_reverse] at hb ⊢
    omega
  have hcutLength : 32 ≤ cut.length ∧ cut.length ≤ 63 := by
    have hstem := containerStem_length infrastructure serial
    simp only [cut, List.length_take]
    omega
  have hall : ∀ c ∈ back.reverse, Plausible c := by
    intro c hc
    have hmem : c ∈ containerStem infrastructure serial :=
      List.mem_of_mem_take ((List.dropWhile_sublist _).mem (hpart.mem hc))
    obtain ⟨d, -, rfl⟩ := List.mem_map.1 ((squeezeHyphens_sublist _).mem hmem)
    exact plausible_containerChar d
  have hlast : back.reverse.getLast? ≠ some '-' := by
    rw [List.getLast?_reverse]
    exact head?_dropWhile_hyphen _
  -- what was trimmed at its front still begins where the front does
  have hfirst : back.reverse.head? ≠ some '-' := by
    intro h
    obtain ⟨rest, hrest⟩ := hpart
    have hhead : front.head? = some '-' := by rw [← hrest, List.head?_append, h]; rfl
    exact head?_dropWhile_hyphen cut hhead
  have hlength : (String.ofList back.reverse).length = back.reverse.length := by simp
  have hspaced : Spaced back.reverse := hfront.prefix hpart
  have hgrammar : ContainerGrammar (String.ofList back.reverse) := by
    refine ⟨by omega, ?_, ?_, ?_, ?_⟩
    all_goals rw [String.toList_ofList]
    · exact hall
    · exact hfirst
    · exact hlast
    · exact (spaced_iff _).1 hspaced
  rw [hname]
  exact (isContainerName_iff _).2 hgrammar

end RegistryStorage.Naming
