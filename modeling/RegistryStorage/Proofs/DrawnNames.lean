import Mathlib.Data.List.Range
import RegistryStorage.Proofs.Bookkeeping
import RegistryStorage.Proofs.GeneratedNames

/-!
How names are drawn, and what is written back of them.

The random part of an account name comes from a source of numbers of which some name no character
and are passed over. A source is a sequence without end here, and a value of `Draws` hands out as
many of its first numbers as one likes (`Draws.HandsOut`): listed ones, and the zeros after them. If
these hold five that name a character, the name is drawn and no number beyond the fifth of them is
taken (`accountName_drawn`); what it is drawn from says the rest of its structure.

Generated names pass the validators (`Proofs.GeneratedNames`), and so do configured ones by the time
they are used. What remains is that no other name is ever written into the record
(`create_writes_valid`), whatever the provider does, so that the next invocation can work with what
it finds there.
-/

set_option autoImplicit false

namespace RegistryStorage

namespace Naming

/-! ## Sources of numbers -/

/-- The number names a character: its six high bits are none of the two highest values. -/
def Accepted (number : UInt32) : Prop := (number >>> 26).toNat < 62

instance (number : UInt32) : Decidable (Accepted number) :=
  inferInstanceAs (Decidable (_ < _))

theorem isSome_letterOf (number : UInt32) :
    (letterOf number).isSome = decide (Accepted number) := by
  have hlength : alphabet.length = 62 := rfl
  rw [letterOf, Bool.eq_iff_iff, decide_eq_true_eq, isSome_getElem?, hlength]
  rfl

/-- The characters that the first numbers of a sequence name. -/
def lettersOf (numbers : Nat → UInt32) (n : Nat) : List Char :=
  ((List.range n).map numbers).filterMap letterOf

section Letters

variable {numbers : Nat → UInt32} {n k : Nat} {c : Char}

theorem length_lettersOf (numbers : Nat → UInt32) (n : Nat) : (lettersOf numbers n).length =
    (List.range n).countP fun i => decide (Accepted (numbers i)) := by
  rw [lettersOf, List.length_filterMap_eq_countP, List.countP_map]
  simp only [Function.comp_def, isSome_letterOf]

theorem lettersOf_succ' (numbers : Nat → UInt32) (n : Nat) : lettersOf numbers (n + 1) =
    (letterOf (numbers 0)).toList ++ lettersOf (fun i => numbers (i + 1)) n := by
  rw [lettersOf, List.range_succ_eq_map, List.map_cons, List.map_map, List.filterMap_cons]
  cases letterOf (numbers 0) <;> rfl

/-- Numbers that name no character add nothing. -/
theorem lettersOf_of_none (h : ∀ i < n, letterOf (numbers i) = none) :
    lettersOf numbers n = [] := by
  induction n generalizing numbers with
  | zero => rfl
  | succ n ih =>
    rw [lettersOf_succ', h 0 n.succ_pos, ih fun i hi => h (i + 1) (Nat.succ_lt_succ hi)]
    rfl

/-- The first number that names a character names the first one. -/
theorem lettersOf_of_first (hbefore : ∀ i < k, letterOf (numbers i) = none)
    (hk : letterOf (numbers k) = some c) (n : Nat) :
    lettersOf numbers (k + 1 + n) = c :: lettersOf (fun i => numbers (k + 1 + i)) n := by
  induction k generalizing numbers with
  | zero =>
    rw [show 0 + 1 + n = n + 1 by omega, lettersOf_succ', hk]
    simp only [Nat.zero_add, Nat.add_comm 1]
    rfl
  | succ k ih =>
    have hrest := @ih (fun i => numbers (i + 1))
      (fun i hi => hbefore (i + 1) (Nat.succ_lt_succ hi)) hk
    rw [show k + 1 + 1 + n = k + 1 + n + 1 by omega, lettersOf_succ', hbefore 0 k.succ_pos, hrest]
    simp only [Option.toList_none, List.nil_append, Nat.add_right_comm _ _ 1]

/-- The source hands out the first numbers of a sequence, be they listed or the zeros after them. -/
def Draws.HandsOut (d : Draws) (numbers : Nat → UInt32) (n : Nat) : Prop :=
  ∀ i < n, d.upcoming.getD i 0 = numbers i

/-- A source that has handed out one number hands out the rest of the sequence. -/
theorem Draws.HandsOut.tail {number : UInt32} {rest : List UInt32} {taken taken' : Nat}
    (h : Draws.HandsOut ⟨number :: rest, taken⟩ numbers (n + 1)) :
    Draws.HandsOut ⟨rest, taken'⟩ (fun i => numbers (i + 1)) n :=
  fun i hi => h (i + 1) (Nat.succ_lt_succ hi)

/-! ## Drawing -/

theorem Draws.letter_of_some {number : UInt32} (h : letterOf number = some c) (rest : List UInt32)
    (taken : Nat) : Draws.letter ⟨number :: rest, taken⟩ = (c, ⟨rest, taken + 1⟩) := by
  simp only [Draws.letter, drawFrom, h]

theorem Draws.letter_of_none {number : UInt32} (h : letterOf number = none) (rest : List UInt32)
    (taken : Nat) : Draws.letter ⟨number :: rest, taken⟩ = Draws.letter ⟨rest, taken + 1⟩ := by
  simp only [Draws.letter, drawFrom, h]

/-- **One character is drawn** with the first number that names one, and no later number is
taken. -/
theorem letter_drawn {d : Draws} (hd : d.HandsOut numbers n)
    (h : 0 < (lettersOf numbers n).length) :
    ∃ k < n, ∃ c, (∀ i < k, letterOf (numbers i) = none) ∧ letterOf (numbers k) = some c ∧
      d.letter.1 = c ∧ d.letter.2.taken = d.taken + (k + 1) ∧
      d.letter.2.HandsOut (fun i => numbers (k + 1 + i)) (n - (k + 1)) := by
  induction n generalizing d numbers with
  | zero => simp [lettersOf] at h
  | succ n ih =>
    obtain ⟨upcoming, taken⟩ := d
    cases upcoming with
    | nil =>
      -- nothing is listed any more: the number is zero, which names the first character
      have hzero : ∀ i < n + 1, numbers i = 0 := fun i hi => (hd i hi).symm
      refine ⟨0, n.succ_pos, 'A', fun i hi => absurd hi (Nat.not_lt_zero i), ?_, rfl, rfl, ?_⟩
      · rw [hzero 0 n.succ_pos]
        rfl
      · intro i hi
        show 0 = numbers (0 + 1 + i)
        rw [hzero _ (by omega)]
    | cons number rest =>
      have hfirst : number = numbers 0 := hd 0 n.succ_pos
      have htail : Draws.HandsOut ⟨rest, taken + 1⟩ (fun i => numbers (i + 1)) n := hd.tail
      cases hc : letterOf (numbers 0) with
      | some c =>
        rw [Draws.letter_of_some (hfirst ▸ hc)]
        refine ⟨0, n.succ_pos, c, fun i hi => absurd hi (Nat.not_lt_zero i), hc, rfl, rfl, ?_⟩
        intro i hi
        show rest.getD i 0 = numbers (0 + 1 + i)
        rw [show 0 + 1 + i = i + 1 by omega]
        exact htail i hi
      | none =>
        rw [lettersOf_succ', hc] at h
        obtain ⟨k, hk, c, hbefore, hletterOf, hdrawn, htaken, hrest⟩ := ih htail h
        rw [Draws.letter_of_none (hfirst ▸ hc)]
        refine ⟨k + 1, Nat.succ_lt_succ hk, c, ?_, hletterOf, hdrawn, ?_, ?_⟩
        · intro i hi
          cases i with
          | zero => exact hc
          | succ i => exact hbefore i (Nat.lt_of_succ_lt_succ hi)
        · rw [htaken]
          simp only
          omega
        · intro i hi
          show _ = numbers (k + 1 + 1 + i)
          rw [show k + 1 + 1 + i = k + 1 + i + 1 by omega]
          exact hrest i (by omega)

/-- **Characters are drawn** one after the other: they are the first that the numbers name, and no
number is taken beyond the last of them. -/
theorem letters_drawn (m : Nat) {d : Draws} (hd : d.HandsOut numbers n)
    (h : m ≤ (lettersOf numbers n).length) :
    ∃ k ≤ n, (lettersOf numbers k).length = m ∧ (∀ j < k, (lettersOf numbers j).length < m) ∧
      (Draws.letters m d).1 = lettersOf numbers k ∧
      (Draws.letters m d).2.taken = d.taken + k ∧
      (Draws.letters m d).2.HandsOut (fun i => numbers (k + i)) (n - k) := by
  induction m generalizing d numbers n with
  | zero =>
    refine ⟨0, n.zero_le, rfl, fun j hj => absurd hj (Nat.not_lt_zero j), rfl, rfl, ?_⟩
    show d.HandsOut (fun i => numbers (0 + i)) (n - 0)
    simpa only [Nat.zero_add, Nat.sub_zero] using hd
  | succ m ih =>
    obtain ⟨k, hk, c, hbefore, hletterOf, hdrawn, htaken, hrest⟩ :=
      letter_drawn hd (Nat.lt_of_lt_of_le m.succ_pos h)
    have hsplit := lettersOf_of_first hbefore hletterOf
    have hmore : m ≤ (lettersOf (fun i => numbers (k + 1 + i)) (n - (k + 1))).length := by
      have hall := hsplit (n - (k + 1))
      rw [show k + 1 + (n - (k + 1)) = n by omega] at hall
      rw [hall, List.length_cons] at h
      omega
    obtain ⟨l, hl, hlength, hfewer, hletters, htaken', hrest'⟩ := ih hrest hmore
    refine ⟨k + 1 + l, by omega, ?_, ?_, ?_, ?_, ?_⟩
    · rw [hsplit, List.length_cons, hlength]
    · intro j hj
      by_cases hshort : j ≤ k
      · rw [lettersOf_of_none fun i hi => hbefore i (by omega)]
        exact m.succ_pos
      · have hj' := hfewer (j - (k + 1)) (by omega)
        rw [show j = k + 1 + (j - (k + 1)) by omega, hsplit, List.length_cons]
        omega
    · rw [hsplit, ← hdrawn, ← hletters]
      rfl
    · show (Draws.letters m d.letter.2).2.taken = _
      rw [htaken', htaken]
      omega
    · intro i hi
      show (Draws.letters m d.letter.2).2.upcoming.getD i 0 = numbers (k + 1 + l + i)
      rw [Nat.add_assoc (k + 1) l i]
      exact hrest' i (by omega)

end Letters

/-! ## Account names -/

/-- How an account name is made of a source's numbers: the letters and digits of the fixed word and
of the infrastructure's name, cut, and the first five characters that the numbers name, all in lower
case. The last of these characters is that of the `k`-th number, the last that is taken. -/
structure Drawn (infrastructure : String) (numbers : Nat → UInt32) (k : Nat) (name : String) :
    Prop where
  name_eq : name = String.ofList
    (((("imageregistry" ++ infrastructure).toList.filter Char.isAlphanum).take 19 ++
      lettersOf numbers k).map Char.toLower)
  five : (lettersOf numbers k).length = 5
  fewer : ∀ j < k, (lettersOf numbers j).length < 5

/-- **An account name is drawn** as soon as the numbers name five characters. -/
theorem accountName_drawn (infrastructure : String) {d : Draws} {numbers : Nat → UInt32} {n : Nat}
    (hd : d.HandsOut numbers n)
    (h : 5 ≤ (List.range n).countP fun i => decide (Accepted (numbers i))) :
    ∃ k ≤ n, Drawn infrastructure numbers k (accountName infrastructure d).1 ∧
      (accountName infrastructure d).2.taken = d.taken + k ∧
      (accountName infrastructure d).2.HandsOut (fun i => numbers (k + i)) (n - k) := by
  rw [← length_lettersOf] at h
  obtain ⟨k, hk, hfive, hfewer, hletters, htaken, hrest⟩ := letters_drawn 5 hd h
  refine ⟨k, hk, ⟨?_, hfive, hfewer⟩, htaken, hrest⟩
  rw [← hletters]
  rfl

theorem length_accountName (infrastructure : String) (d : Draws) :
    (accountName infrastructure d).1.length =
      min 19 (13 + infrastructure.toList.countP Char.isAlphanum) + 5 := by
  have hword : ("imageregistry".toList.filter Char.isAlphanum).length = 13 := by decide
  have hroot : (accountRoot infrastructure).length =
      min 19 (13 + infrastructure.toList.countP Char.isAlphanum) := by
    rw [accountRoot, String.toList_append, List.filter_append, List.length_take,
      List.length_append, hword, List.countP_eq_length_filter]
  simp [accountName, letters_length, hroot]

theorem validateAccountName_accountName (infrastructure : String) (d : Draws) :
    validateAccountName (accountName infrastructure d).1 = .ok () :=
  if_pos (isAccountName_accountName infrastructure d)

theorem validateContainerName_containerName (infrastructure : String) (serial : Serial) :
    validateContainerName (containerName infrastructure serial) = .ok () :=
  if_pos (isContainerName_containerName infrastructure serial)

end Naming

/-! ## Names that are written -/

/-- Each name of the second configuration is that of the first, or one that the validators let
pass. -/
structure StorageConfig.Renamed (before after : StorageConfig) : Prop where
  account : after.account = before.account ∨ Naming.validateAccountName after.account = .ok ()
  container :
    after.container = before.container ∨ Naming.validateContainerName after.container = .ok ()

section Written

variable {σ : Type} {R : Conduct σ} {s : σ} {w : Work} {now : Moment} {settings : Settings}
variable {infra : Infrastructure} {fresh : Fresh} {c : StorageConfig}

theorem StorageConfig.Renamed.refl (c : StorageConfig) : c.Renamed c := ⟨Or.inl rfl, Or.inl rfl⟩

namespace Assure

/-- The account that is there in the end has a name that the validator lets pass. -/
theorem account_passes {scope : Scope} {environment : CloudEnvironment} :
    (account scope environment c infra fresh).Ensures R s
      (fun a _ => Naming.validateAccountName a.name = .ok ()) fun _ _ => True := by
  rw [account_ensures]
  refine ⟨fun _ _ => trivial, fun name generated hname => ?_⟩
  have hvalid : Naming.validateAccountName name = .ok () := by
    unfold accountName at hname
    split at hname
    · rw [← (Prod.mk.inj (Except.ok.inj hname)).1]
      exact Naming.validateAccountName_accountName ..
    · cases hcheck : Naming.validateAccountName c.account with
      | error f =>
        rw [hcheck] at hname
        cases hname
      | ok x =>
        rw [hcheck] at hname
        cases hname
        exact hcheck
  refine .of_forall (fun availability t => ?_) fun _ _ => trivial
  split
  · exact .of_forall (fun _ _ => hvalid) fun _ _ => trivial
  · split
    · trivial
    · exact hvalid

/-- The container that is there in the end has a name that the validator lets pass. -/
theorem container_passes :
    (container c infra fresh).Ensures R s
      (fun a _ => Naming.validateContainerName a.name = .ok ()) fun _ _ => True := by
  rw [container_ensures]
  split
  · refine .of_forall (fun key t => ?_) fun _ _ => trivial
    refine .of_forall (fun _ _ => ?_) fun _ _ => trivial
    exact Naming.validateContainerName_containerName ..
  · refine ⟨fun _ _ => trivial, fun hvalid => ?_⟩
    refine .of_forall (fun key t => .of_forall (fun there u => ?_) fun _ _ => trivial)
      fun _ _ => trivial
    split
    · exact hvalid
    · exact .of_forall (fun _ _ => hvalid) fun _ _ => trivial

end Assure

namespace Storage

theorem furnish_writes_valid {scope : Scope} {environment : CloudEnvironment}
    (hw : w.state.spec.Renamed w.config) :
    (furnish scope environment infra fresh now).Ensures R w s
      (fun _ v _ => w.state.spec.Renamed v.state.spec)
      fun _ v _ => w.state.spec.Renamed v.state.spec := by
  rw [furnish_ensures]
  refine Assure.account_passes.mono ?_ fun _ _ _ => hw
  intro account t haccount
  let c := accountNamed account.name w.config
  have hc : w.state.spec.Renamed c := by
    refine ⟨Or.inr ?_, ?_⟩
    · rw [StorageConfig.accountNamed_account]
      exact haccount
    · rw [StorageConfig.accountNamed_container]
      exact hw.container
  refine .of_forall (fun _ t => ?_) fun _ _ => hc
  refine Assure.container_passes.mono ?_ fun _ _ _ => hc
  intro container t hcontainer
  have hv : w.state.spec.Renamed { c with container := container.name } :=
    ⟨hc.account, Or.inr hcontainer⟩
  exact .of_forall (fun _ _ => hv) fun _ _ => hv

/-- **Creating writes no name but one that the validators let pass**, whatever the provider does and
however it ends. -/
theorem create_writes_valid (hw : w.config = w.state.spec) :
    (create settings infra fresh now).Ensures R w s
      (fun _ v _ => w.state.spec.Renamed v.state.spec)
      fun _ v _ => w.state.spec.Renamed v.state.spec := by
  have hsame : w.state.spec.Renamed w.state.spec := .refl _
  rw [create_begins]
  refine ⟨fun _ _ => hsame, fun _ _ => ?_, fun credentials _ => ?_⟩
  · rw [adopt_ensures]
    split
    · exact hsame
    · split <;> exact hsame
  · rw [provision_ensures]
    refine ⟨fun _ => hsame, fun _ => ⟨fun _ _ => hsame, fun _ => ⟨fun _ _ => hsame, ?_⟩⟩⟩
    intro environment _
    refine .of_forall (fun _ t => ?_) fun _ _ => hsame
    obtain ⟨haccount, hcontainer, -⟩ := StorageConfig.takeCloud_names infra w.state.spec
    rw [hw]
    exact furnish_writes_valid (w := w.withConfig (takeCloud infra w.state.spec))
      ⟨Or.inl haccount, Or.inl hcontainer⟩

end Storage

end Written

namespace Naming

/-- **Generated names are always valid**, whatever the infrastructure is called and whatever is
drawn: they pass the validators, account names have their structure and are drawn once the numbers
name five characters, and no invocation writes another name into the record than one that the next
invocation lets pass. -/
theorem generated_names_are_valid (infrastructure : String) :
    (∀ draws,
      validateAccountName (accountName infrastructure draws).1 = .ok () ∧
      (accountName infrastructure draws).1.length =
        min 19 (13 + infrastructure.toList.countP Char.isAlphanum) + 5 ∧
      ∀ (numbers : Nat → UInt32) (n : Nat), draws.HandsOut numbers n →
        5 ≤ ((List.range n).countP fun i => decide (Accepted (numbers i))) →
          ∃ k ≤ n, Drawn infrastructure numbers k (accountName infrastructure draws).1 ∧
            (accountName infrastructure draws).2.taken = draws.taken + k ∧
            (accountName infrastructure draws).2.HandsOut (fun i => numbers (k + i)) (n - k)) ∧
    (∀ serial, validateContainerName (containerName infrastructure serial) = .ok ()) ∧
    ∀ {σ : Type} (r : Replier σ) (p : σ) (settings : Settings)
      (platform : Option PlatformStatus) (fresh : Fresh) (now : Moment) (state : StorageState),
      state.spec.Renamed (((Storage.create settings ⟨infrastructure, platform⟩ fresh now).start
        ⟨state.spec, state⟩).run r p).1.2.state.spec := by
  refine ⟨fun draws => ⟨?_, ?_, fun numbers n hd h => ?_⟩, fun serial => ?_, ?_⟩
  · exact validateAccountName_accountName infrastructure draws
  · exact length_accountName infrastructure draws
  · exact accountName_drawn infrastructure hd h
  · exact validateContainerName_containerName infrastructure serial
  · intro σ r p settings platform fresh now state
    have hends := (Storage.create_writes_valid rfl :
      (Storage.create settings ⟨infrastructure, platform⟩ fresh now).Ensures r.conduct
        ⟨state.spec, state⟩ p _ _).run
    split at hends <;> exact hends

/-- Of a source whose second and third number name no character, seven numbers are taken. -/
theorem seven_numbers_are_taken :
    let draws : Draws := ⟨[0, 0xFFFFFFFF, 0xF8000000, 0x04000000, 0xD0000000, 0x68000000], 0⟩
    ∃ k ≤ 7, Drawn "My_Cluster" (fun i => draws.upcoming.getD i 0) k "imageregistrymyclusab0aa" ∧
      k = 7 := by
  intro draws
  obtain ⟨-, -, hdrawn⟩ := (generated_names_are_valid "My_Cluster").1 draws
  obtain ⟨k, hk, hname, htaken, -⟩ :=
    hdrawn (fun i => draws.upcoming.getD i 0) 7 (fun _ _ => rfl) (by decide)
  refine ⟨k, hk, ?_, ?_⟩
  · have heq : (accountName "My_Cluster" draws).1 = "imageregistrymyclusab0aa" := by decide
    rw [← heq]
    exact hname
  · have htook : (accountName "My_Cluster" draws).2.taken = 7 := by decide
    rw [htook] at htaken
    have hzero : draws.taken = 0 := rfl
    omega

end Naming

end RegistryStorage
