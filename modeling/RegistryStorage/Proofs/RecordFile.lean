import RegistryStorage.Proofs.JsonText
import RegistryStorage.Proofs.MomentText
import RegistryStorage.Record.State

/-!
The record and its file.

Each part of a record is read back from its encoded form as it was: what is left out, because it is
empty, is what is assumed where nothing stands. With the form of the text (`Json.Value.read?_pretty`)
this makes the record one with its file (`StorageState.load?_save`): saving loses nothing, so a file
that can be read says the same after any number of rounds, and its text settles with the first one.
-/

set_option autoImplicit false

namespace RegistryStorage

open Json (Tree Value)
open Json.Value (Legible legible_text legible_list legible_object)

/-! ## Objects of texts -/

namespace Json.Value

/-- An object whose members are texts. -/
def ofTexts (l : List (String × String)) : Value := .object (l.map fun m => (m.1, .text m.2))

theorem legible_ofTexts (l : List (String × String)) : Legible (ofTexts l).words := by
  refine legible_object fun m hm => ?_
  obtain ⟨n, -, rfl⟩ := List.mem_map.1 hm
  exact legible_text n.2

theorem nesting_ofTexts (l : List (String × String)) : (ofTexts l).tree.nesting = 1 := by
  have hmembers : Tree.nestingOfMembers (treesOfMembers (l.map fun m => (m.1, .text m.2))) = 0 := by
    induction l with
    | nil => rfl
    | cons m l ih =>
      rw [List.map_cons, treesOfMembers, Tree.nestingOfMembers, ih]
      rfl
  unfold ofTexts tree Tree.nesting
  rw [hmembers]

theorem exists_valueOf_ofTexts (l : List (String × String)) :
    ∃ v, (ofTexts l).tree.valueOf = some v := by
  have hmembers : ∃ r,
      Tree.valuesOfMembers (treesOfMembers (l.map fun m => (m.1, .text m.2))) = some r := by
    induction l with
    | nil => exact ⟨[], rfl⟩
    | cons m l ih =>
      obtain ⟨r, hr⟩ := ih
      rw [List.map_cons, treesOfMembers, Tree.valuesOfMembers, hr]
      exact ⟨_, rfl⟩
  obtain ⟨r, hr⟩ := hmembers
  unfold ofTexts tree Tree.valueOf
  rw [hr]
  exact ⟨_, rfl⟩

end Json.Value

/-! ## The configuration -/

namespace InternalNetwork

/-- A virtual network is encoded by texts alone. -/
theorem exists_encode_eq (n : InternalNetwork) : ∃ l, n.encode = .ofTexts l := by
  refine ⟨[("vnetName", n.vnet), ("subnetName", n.subnet)] ++
    n.resourceGroup.toList.map (("networkResourceGroup", ·)) ++
    if n.endpoint = "" then [] else [("privateEndpointName", n.endpoint)], ?_⟩
  obtain ⟨vnet, subnet, group, endpoint⟩ := n
  by_cases hendpoint : endpoint = ""
  all_goals
    cases group
    all_goals
      simp [encode, Value.ofTexts, hendpoint]

theorem decode?_encode (n : InternalNetwork) : decode? n.encode.tree = some n := by
  obtain ⟨vnet, subnet, group, endpoint⟩ := n
  -- an endpoint without a name and a group that is not given are left out
  by_cases hendpoint : endpoint = ""
  all_goals
    cases group
    all_goals
      simp [decode?, encode, hendpoint, Value.tree, Value.treesOfMembers, Tree.fields,
        Tree.valuesOf, Tree.orDefault, Tree.option?, Tree.text?]

theorem legible_encode (n : InternalNetwork) : Legible n.encode.words := by
  obtain ⟨l, hl⟩ := n.exists_encode_eq
  rw [hl]
  exact Value.legible_ofTexts l

end InternalNetwork

namespace NetworkAccess

/-- An encoded network access is a free-form value where it does not lie very deep. -/
theorem value?_encode (n : NetworkAccess) {depth : Nat} (h : depth < 126) :
    ∃ v, n.encode.tree.value? depth = some v := by
  obtain ⟨hnesting, v, hv⟩ :
      n.encode.tree.nesting ≤ 2 ∧ ∃ v, n.encode.tree.valueOf = some v := by
    cases n with
    | external => exact ⟨Nat.le_succ 1, _, rfl⟩
    | internal network =>
      obtain ⟨l, hl⟩ := network.exists_encode_eq
      obtain ⟨v, hv⟩ := Value.exists_valueOf_ofTexts l
      simp [encode, hl, Value.tree, Value.treesOfMembers, Tree.nesting, Tree.nestingOfMembers,
        Value.nesting_ofTexts, Tree.valueOf, Tree.valuesOfMembers, hv]
  exact ⟨v, (if_pos (by omega)).trans hv⟩

theorem decode?_encode (n : NetworkAccess) {depth : Nat} (h : depth < 126) :
    decode? depth n.encode.tree = some n := by
  obtain ⟨v, hv⟩ := n.value?_encode h
  unfold decode?
  rw [hv]
  cases n with
  | external => rfl
  | internal network =>
    have hnetwork := network.decode?_encode
    simp [encode, decodeInternal?, Value.tree, Value.treesOfMembers, Tree.fields, Tree.valuesOf,
      Tree.orDefault, hnetwork]

theorem legible_encode (n : NetworkAccess) : Legible n.encode.words := by
  cases n with
  | external =>
    refine legible_object ?_
    simp [legible_text]
  | internal network =>
    refine legible_object ?_
    simp [legible_text, network.legible_encode]

end NetworkAccess

namespace StorageConfig

theorem decode?_encode (c : StorageConfig) {depth : Nat} (h : depth < 125) :
    decode? depth c.encode.tree = some c := by
  obtain ⟨account, container, cloud, network⟩ := c
  have hnetwork : NetworkAccess.decode? (depth + 1) network.encode.tree = some network :=
    network.decode?_encode (by omega)
  simp [decode?, encode, Value.tree, Value.treesOfMembers, Tree.fields, Tree.valuesOf,
    Tree.orDefault, Tree.text?, hnetwork]

theorem legible_encode (c : StorageConfig) : Legible c.encode.words := by
  refine legible_object ?_
  simp [legible_text, c.network.legible_encode]

end StorageConfig

/-! ## The conditions -/

theorem ConditionStatus.ofText?_text (s : ConditionStatus) : ofText? s.text = some s := by
  cases s <;> rfl

namespace Condition

theorem decode?_encode (c : Condition) : decode? c.encode.tree = some c := by
  obtain ⟨kind, status, reason, message, since⟩ := c
  have hstatus := status.ofText?_text
  have hsince := since.ofText?_text
  simp [decode?, encode, Value.tree, Value.treesOfMembers, Tree.fields, Tree.valuesOf, Tree.text?,
    Tree.choice?, hstatus, hsince]

theorem legible_encode (c : Condition) : Legible c.encode.words := by
  refine legible_object ?_
  simp [legible_text]

theorem decode?_encode_all (l : List Condition) :
    (Value.treesOfItems (l.map encode)).mapM decode? = some l := by
  induction l with
  | nil => rfl
  | cons c l ih => simp [Value.treesOfItems, decode?_encode, ih]

end Condition

/-! ## The record -/

theorem Management.ofText?_text (m : Management) : ofText? m.text = some m := by
  cases m <;> rfl

namespace StorageState

theorem decode?_encode (s : StorageState) : decode? s.encode.tree = some s := by
  obtain ⟨spec, status, management, conditions⟩ := s
  have hspec : StorageConfig.decode? 1 spec.encode.tree = some spec :=
    spec.decode?_encode (by decide)
  have hconditions := Condition.decode?_encode_all conditions
  have hstatus (c : StorageConfig) :
      Tree.option? (StorageConfig.decode? 1) c.encode.tree = some (some c) := by
    show some <$> StorageConfig.decode? 1 c.encode.tree = some (some c)
    rw [c.decode?_encode (by decide)]
    rfl
  have hmanagement (m : Management) :
      Tree.option? (fun t => t.choice?.bind Management.ofText?) (.text (some m.text)) =
        some (some m) := by
    show some <$> Management.ofText? m.text = some (some m)
    rw [m.ofText?_text]
    rfl
  -- what is not set is left out, and what stands nowhere is read as not set
  cases status
  all_goals
    cases management
    all_goals
      simp [decode?, encode, Value.tree, Value.treesOfMembers, Tree.fields, Tree.valuesOf,
        Tree.orDefault, Tree.list?, hspec, hconditions, hstatus, hmanagement]

theorem legible_encode (s : StorageState) : Legible s.encode.words := by
  obtain ⟨spec, status, management, conditions⟩ := s
  have hconditions : Legible (Value.list (conditions.map Condition.encode)).words := by
    refine legible_list ?_
    simp [Condition.legible_encode]
  refine legible_object ?_
  cases status
  all_goals
    cases management
    all_goals
      simp [legible_text, StorageConfig.legible_encode, hconditions]

/-- **A record that was saved is loaded as it was.** -/
theorem load?_save (s : StorageState) : load? s.save = some s := by
  unfold load? save
  rw [Value.read?_pretty s.legible_encode]
  exact s.decode?_encode

theorem ofContent_save (s : StorageState) : ofContent (.text s.save) = .ok s := by
  unfold ofContent
  dsimp only
  rw [s.load?_save]

/-- The text with which a file that can be read is written over: its record, saved again. -/
def resave? (text : String) : Option String := (load? text).map save

/-- **The record is one with its file.** Whatever its names, messages and times are made of, a record
that was saved is loaded as it was. So a file that can be read, however it was laid out, says the
same after it was written over, and writing it over once more changes nothing. -/
theorem record_is_one_with_its_file :
    (∀ s : StorageState, load? s.save = some s ∧ ofContent (.text s.save) = .ok s) ∧
      ∀ text : String, (resave? text).bind load? = load? text ∧
        (resave? text).bind resave? = resave? text := by
  refine ⟨fun s => ⟨s.load?_save, s.ofContent_save⟩, fun text => ?_⟩
  unfold resave?
  cases load? text with
  | none => exact ⟨rfl, rfl⟩
  | some s =>
    have hload : load? s.save = some s := s.load?_save
    have hsave : (load? s.save).map save = some s.save := by
      rw [hload]
      rfl
    exact ⟨hload, hsave⟩

end StorageState

end RegistryStorage
