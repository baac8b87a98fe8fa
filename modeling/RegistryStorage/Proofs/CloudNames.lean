import RegistryStorage.CloudEnvironment

/-!
Names of clouds.

A cloud is looked up by its name in capitals, and only by that: `ofName_eq_ok_iff` says what is
found in terms of the capitals alone. Whether a cloud is the one on hardware of its own is a
comparison of its canonical name, which ignores the case of ASCII letters and nothing else; since no
other canonical name comes near it, this agrees with the look-up (`Resolved.isStack_iff`).
-/

set_option autoImplicit false

namespace RegistryStorage

/-! ## Upper case -/

namespace Text

theorem upperChar_ne_nil (c : Char) : upperChar c ≠ [] := by
  have hexpansions : ∀ p ∈ capitalExpansions, p.2 ≠ [] := by decide
  unfold upperChar
  split
  · nofun
  · split
    · rename_i codes hcodes
      obtain ⟨before, behind, hlist, -⟩ := List.lookup_eq_some_iff.1 hcodes
      have hne : codes ≠ [] := hexpansions (c.toNat, codes) (by simp [hlist])
      simpa using hne
    · split <;> nofun

/-- No letter has nothing for its capital. -/
theorem upper_eq_empty (s : String) : upper s = "" ↔ s = "" := by
  rw [← String.toList_inj, ← String.toList_inj, upper, String.toList_ofList, String.toList_empty,
    List.flatMap_eq_nil_iff]
  constructor
  · intro h
    cases hs : s.toList with
    | nil => rfl
    | cons c r => exact absurd (h c (by rw [hs]; exact List.mem_cons_self)) (upperChar_ne_nil c)
  · intro h
    rw [h]
    exact nofun

end Text

/-! ## Names of clouds -/

namespace CloudEnvironment

variable {name : String} {custom : Option CloudEndpoints} {e : CloudEnvironment}

/-- The cloud that a name in capitals stands for. -/
inductive Resolved (custom : Option CloudEndpoints) : String → CloudEnvironment → Prop
  | ofNothing : Resolved custom "" publicCloud
  | ofPublic : Resolved custom "AZUREPUBLICCLOUD" publicCloud
  | ofGovernment : Resolved custom "AZUREUSGOVERNMENTCLOUD" usGovernment
  | ofChina : Resolved custom "AZURECHINACLOUD" china
  | ofGerman : Resolved custom "AZUREGERMANCLOUD" german
  | ofStack (endpoints : CloudEndpoints) (h : custom = some endpoints) :
    Resolved custom "AZURESTACKCLOUD" { endpoints with name := stackName }

/-- **A cloud is found by the capitals of its name alone.** -/
theorem ofName_eq_ok_iff : ofName name custom = .ok e ↔ Resolved custom (Text.upper name) e := by
  constructor
  · intro h
    unfold ofName at h
    split at h
    · rename_i hname
      rw [(Text.upper_eq_empty name).2 hname]
      cases h
      exact .ofNothing
    dsimp only at h
    split at h
    · rename_i hcapitals
      rw [hcapitals]
      cases h
      exact .ofPublic
    split at h
    · rename_i hcapitals
      rw [hcapitals]
      cases h
      exact .ofGovernment
    split at h
    · rename_i hcapitals
      rw [hcapitals]
      cases h
      exact .ofChina
    split at h
    · rename_i hcapitals
      rw [hcapitals]
      cases h
      exact .ofGerman
    split at h
    · rename_i hcapitals
      rw [hcapitals]
      split at h
      · rename_i endpoints
        cases h
        exact .ofStack endpoints rfl
      · cases h
    · cases h
  · intro h
    generalize hcapitals : Text.upper name = capitals at h
    have hnamed : capitals ≠ "" → name ≠ "" := by
      rintro hne rfl
      exact hne (hcapitals ▸ (Text.upper_eq_empty "").2 rfl)
    cases h with
    | ofNothing => exact if_pos ((Text.upper_eq_empty name).1 hcapitals)
    | ofStack endpoints h =>
      unfold ofName
      rw [if_neg (hnamed (by decide)), hcapitals, h]
      rfl
    | ofPublic | ofGovernment | ofChina | ofGerman =>
      unfold ofName
      rw [if_neg (hnamed (by decide)), hcapitals]
      rfl

/-- The canonical name of a cloud stands for it again. -/
theorem Resolved.again {capitals : String} (h : Resolved custom capitals e) :
    Resolved custom (Text.upper e.name) e := by
  have hpublic : Text.upper publicCloud.name = "AZUREPUBLICCLOUD" := by decide
  have hgovernment : Text.upper usGovernment.name = "AZUREUSGOVERNMENTCLOUD" := by decide
  have hchina : Text.upper china.name = "AZURECHINACLOUD" := by decide
  have hgerman : Text.upper german.name = "AZUREGERMANCLOUD" := by decide
  have hstack : Text.upper stackName = "AZURESTACKCLOUD" := by decide
  cases h with
  | ofNothing | ofPublic => exact hpublic ▸ .ofPublic
  | ofGovernment => exact hgovernment ▸ .ofGovernment
  | ofChina => exact hchina ▸ .ofChina
  | ofGerman => exact hgerman ▸ .ofGerman
  | ofStack endpoints h => exact hstack ▸ .ofStack endpoints h

/-- **The cloud on hardware of its own is the one with that name in capitals.** -/
theorem Resolved.isStack_iff {capitals : String} (h : Resolved custom capitals e) :
    e.isStack = true ↔ capitals = "AZURESTACKCLOUD" := by
  cases h with
  | ofStack endpoints h => exact iff_of_true (by simp [isStack]) rfl
  | ofNothing | ofPublic | ofGovernment | ofChina | ofGerman =>
    exact iff_of_false (by decide) (by decide)

end CloudEnvironment

end RegistryStorage
