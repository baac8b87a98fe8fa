import RegistryStorage.Proofs.Interleaving
import RegistryStorage.Provider.Inventory

/-!
What calls are about, and inventories that agree on the rest.

The `footprint` of some calls holds the names of the accounts and endpoints that they are about.
`Inventory.AgreesOff` compares two inventories off a footprint. A call outside it is answered by
what the two agree on (`Inventory.AgreesOff.step`), and a call inside it changes nothing of that
(`Inventory.AgreesOff.skip`).

The look-up of an interface is the one call whose answer does not go by a name of its own: the
interface is there if some endpoint brings it. Two inventories that agree off a footprint answer it
alike if no endpoint of the footprint brings the interface (`Inventory.Confined`), or if it is found
without those endpoints (`Inventory.foundWithout`). So for programs with footprints of their own
the inventory has a view each (`Inventory.frame`).
-/

set_option autoImplicit false

namespace RegistryStorage

/-! ## Dictionaries that agree on some keys -/

namespace Dict

variable {κ α : Type} [Ord κ]

/-- Two dictionaries agree on all keys but some. -/
def EqOff (S : κ → Prop) (d e : Dict κ α) : Prop := ∀ k, ¬S k → d.get? k = e.get? k

variable [Std.TransOrd κ] [Std.LawfulEqOrd κ] {S : κ → Prop} {d e : Dict κ α} {k : κ}

omit [Std.TransOrd κ] [Std.LawfulEqOrd κ] in
theorem EqOff.symm (h : EqOff S d e) : EqOff S e d := fun a ha => (h a ha).symm

omit [Std.TransOrd κ] [Std.LawfulEqOrd κ] in
theorem EqOff.contains (h : EqOff S d e) (hk : ¬S k) : d.contains k = e.contains k := by
  unfold Dict.contains
  rw [h k hk]

theorem EqOff.insert (h : EqOff S d e) (v : α) : EqOff S (d.insert k v) (e.insert k v) := by
  intro a ha
  rw [get?_insert, get?_insert, h a ha]

omit [Std.TransOrd κ] in
theorem EqOff.erase (h : EqOff S d e) : EqOff S (d.erase k) (e.erase k) := by
  intro a ha
  rw [get?_erase, get?_erase, h a ha]

omit [Std.TransOrd κ] in
theorem EqOff.filter (h : EqOff S d e) (p : κ → Bool) :
    EqOff S (d.filter fun k _ => p k) (e.filter fun k _ => p k) := by
  intro a ha
  rw [get?_filter, get?_filter, h a ha]

theorem EqOff.insert_left (h : EqOff S d e) (hk : S k) (v : α) : EqOff S (d.insert k v) e := by
  intro a ha
  have hne : a ≠ k := by
    rintro rfl
    exact ha hk
  rw [get?_insert_of_ne d v hne]
  exact h a ha

omit [Std.TransOrd κ] in
theorem EqOff.erase_left (h : EqOff S d e) (hk : S k) : EqOff S (d.erase k) e := by
  intro a ha
  have hne : ¬compare a k = .eq := by
    intro hak
    rw [Std.LawfulEqCmp.eq_of_compare hak] at ha
    exact ha hk
  rw [get?_erase, if_neg hne]
  exact h a ha

omit [Std.TransOrd κ] in
theorem EqOff.filter_left (h : EqOff S d e) {p : κ → Bool} (hp : ∀ a, ¬S a → p a = true) :
    EqOff S (d.filter fun k _ => p k) e := by
  intro a ha
  rw [get?_filter, if_pos (hp a ha)]
  exact h a ha

end Dict

/-! ## What calls are about -/

namespace Call

/-- The account that a call is about. -/
def account? : Call → Option String
  | checkName n | getAccount n | setAccess n _ | listKeys n | deleteAccount n => some n
  | createAccount r => some r.name
  | containerExists a _ _ | createContainer a _ _ | deleteContainer a _ _ => some a
  | _ => none

/-- The name under which a call registers something in the DNS zone, or takes it out. -/
def registered? : Call → Option String
  | putARecord _ n _ _ | deleteARecord _ n | deleteLink _ n => some n
  | putLink r => some r.link
  | _ => none

/-- The account to which belongs what a call is about. -/
def owner? (c : Call) : Option String := c.account?.or c.registered?

/-- The endpoint that a call is about. -/
def endpoint? : Call → Option String
  | getEndpoint n | deleteEndpoint n | putZoneGroup n _ _ | deleteZoneGroup n _ => some n
  | createEndpoint r => some r.name
  | _ => none

/-- The interface that a call looks up. -/
def looked? : Call → Option String
  | getInterface n => some n
  | _ => none

/-- The interface that the endpoint brings which a call creates. -/
def interface? : Call → Option String
  | createEndpoint r => some r.interface
  | _ => none

end Call

/-- Names of what belongs to a driver. -/
structure Footprint where
  accounts : List String
  endpoints : List String

/-- The names that calls are about. -/
def footprint (l : List Call) : Footprint where
  accounts := l.filterMap Call.account?
  endpoints := l.filterMap Call.endpoint?

/-- A call is about nothing of a footprint. -/
structure Call.Outside (f : Footprint) (c : Call) : Prop where
  account : ∀ n, c.owner? = some n → n ∉ f.accounts
  endpoint : ∀ n, c.endpoint? = some n → n ∉ f.endpoints

/-- A call is about nothing but a footprint. -/
structure Call.Inside (f : Footprint) (c : Call) : Prop where
  account : ∀ n, c.owner? = some n → n ∈ f.accounts
  endpoint : ∀ n, c.endpoint? = some n → n ∈ f.endpoints

/-! ## Inventories that agree off a footprint -/

namespace Inventory

/-- **Two inventories agree on all that is not of a footprint**: on accounts, their containers,
records and links, on endpoints and their zone groups. They have the same interfaces that stand by
themselves. -/
structure AgreesOff (f : Footprint) (i j : Inventory) : Prop where
  availability : i.availability = j.availability
  allTaken : i.allTaken = j.allTaken
  foreign : i.foreign = j.foreign
  shared : i.sharedInterfaces = j.sharedInterfaces
  accounts : i.accounts.EqOff (· ∈ f.accounts) j.accounts
  containers : i.containers.EqOff (fun key => key.1 ∈ f.accounts) j.containers
  aRecords : i.aRecords.EqOff (fun key => key.2 ∈ f.accounts) j.aRecords
  links : i.links.EqOff (fun key => key.2 ∈ f.accounts) j.links
  endpoints : i.endpoints.EqOff (· ∈ f.endpoints) j.endpoints
  zoneGroups : i.zoneGroups.EqOff (fun key => key.1 ∈ f.endpoints) j.zoneGroups
  interfaces : i.interfaces = j.interfaces

variable {home : Scope} {f g : Footprint} {i j : Inventory} {c : Call}

theorem AgreesOff.refl : AgreesOff f i i :=
  ⟨rfl, rfl, rfl, rfl, fun _ _ => rfl, fun _ _ => rfl, fun _ _ => rfl, fun _ _ => rfl,
    fun _ _ => rfl, fun _ _ => rfl, rfl⟩

theorem AgreesOff.symm (h : AgreesOff f i j) : AgreesOff f j i :=
  ⟨h.availability.symm, h.allTaken.symm, h.foreign.symm, h.shared.symm, h.accounts.symm,
    h.containers.symm, h.aRecords.symm, h.links.symm, h.endpoints.symm, h.zoneGroups.symm,
    h.interfaces.symm⟩

theorem AgreesOff.availabilityOf {n : String} (h : AgreesOff f i j) (hn : n ∉ f.accounts) :
    i.availabilityOf n = j.availabilityOf n := by
  have htaken : i.isTaken n = j.isTaken n := by
    unfold isTaken
    rw [h.allTaken, h.accounts.contains hn, h.foreign]
  unfold Inventory.availabilityOf
  rw [h.availability, htaken]

theorem AgreesOff.newEndpoint (h : AgreesOff f i j) (r : EndpointRequest) :
    i.newEndpoint r = j.newEndpoint r := by
  unfold Inventory.newEndpoint
  rw [h.shared]

theorem AgreesOff.addEndpoint (h : AgreesOff f i j) (r : EndpointRequest) :
    AgreesOff f (i.addEndpoint r) (j.addEndpoint r) := by
  have hendpoints : (i.addEndpoint r).endpoints.EqOff (· ∈ f.endpoints)
      (j.addEndpoint r).endpoints := by
    unfold Inventory.addEndpoint
    dsimp only
    rw [h.newEndpoint r]
    exact h.endpoints.insert _
  exact { h with endpoints := hendpoints }

/-- **A call outside a footprint is answered by what agrees**, and what agreed still does. Whether
an interface is there has to agree besides. -/
theorem AgreesOff.step (h : AgreesOff f i j) (hc : c.Outside f)
    (hlook : ∀ n, c.looked? = some n → i.addresses? n = j.addresses? n) :
    (reply home c i).1 = (reply home c j).1 ∧
      AgreesOff f (reply home c i).2 (reply home c j).2 := by
  cases c with
  | clients | containers => exact ⟨rfl, h⟩
  | checkName n =>
    refine ⟨?_, h⟩
    simp only [reply, h.availabilityOf (hc.account n rfl)]
  | createAccount r => exact ⟨rfl, { h with accounts := h.accounts.insert _ }⟩
  | getAccount n | listKeys n =>
    simp only [reply, h.accounts n (hc.account n rfl)]
    split <;> exact ⟨rfl, h⟩
  | setAccess n access =>
    simp only [reply, h.accounts n (hc.account n rfl)]
    split
    · exact ⟨rfl, { h with accounts := h.accounts.insert _ }⟩
    · exact ⟨rfl, h⟩
  | deleteAccount n =>
    simp only [reply, h.accounts.contains (hc.account n rfl)]
    split
    · exact ⟨rfl, { h with
        accounts := h.accounts.erase
        containers := h.containers.filter fun key => key.1 != n }⟩
    · exact ⟨rfl, h⟩
  | containerExists a key n =>
    refine ⟨?_, h⟩
    simp only [reply, h.containers.contains (k := (a, n)) (hc.account a rfl)]
  | createContainer a key n => exact ⟨rfl, { h with containers := h.containers.insert _ }⟩
  | deleteContainer a key n =>
    simp only [reply, h.containers.contains (k := (a, n)) (hc.account a rfl)]
    split
    · exact ⟨rfl, { h with containers := h.containers.erase }⟩
    · exact ⟨rfl, h⟩
  | getEndpoint n =>
    simp only [reply, h.endpoints n (hc.endpoint n rfl)]
    split <;> exact ⟨rfl, h⟩
  | createEndpoint r =>
    refine ⟨?_, h.addEndpoint r⟩
    simp only [reply, h.newEndpoint]
  | deleteEndpoint n =>
    simp only [reply, h.endpoints.contains (hc.endpoint n rfl)]
    split
    · exact ⟨rfl, { h with endpoints := h.endpoints.erase }⟩
    · exact ⟨rfl, h⟩
  | getInterface n =>
    simp only [reply, hlook n rfl]
    split <;> exact ⟨rfl, h⟩
  | putZoneGroup e group zone => exact ⟨rfl, { h with zoneGroups := h.zoneGroups.insert _ }⟩
  | deleteZoneGroup e group =>
    simp only [reply, h.zoneGroups.contains (k := (e, group)) (hc.endpoint e rfl)]
    split
    · exact ⟨rfl, { h with zoneGroups := h.zoneGroups.erase }⟩
    · exact ⟨rfl, h⟩
  | putZone zone location tags => exact ⟨rfl, { h with }⟩
  | putARecord zone n ttl address => exact ⟨rfl, { h with aRecords := h.aRecords.insert _ }⟩
  | deleteARecord zone n =>
    simp only [reply, h.aRecords.contains (k := (zone, n)) (hc.account n rfl)]
    split
    · exact ⟨rfl, { h with aRecords := h.aRecords.erase }⟩
    · exact ⟨rfl, h⟩
  | putLink r => exact ⟨rfl, { h with links := h.links.insert _ }⟩
  | deleteLink zone n =>
    simp only [reply, h.links.contains (k := (zone, n)) (hc.account n rfl)]
    split
    · exact ⟨rfl, { h with links := h.links.erase }⟩
    · exact ⟨rfl, h⟩

/-- **A call inside a footprint changes nothing outside.** -/
theorem AgreesOff.skip (h : AgreesOff f i j) (hc : c.Inside f) :
    AgreesOff f (reply home c i).2 j := by
  cases c with
  | clients | containers | checkName | containerExists => exact h
  | getAccount | listKeys | getEndpoint | getInterface =>
    simp only [reply]
    split <;> exact h
  | createAccount r => exact { h with accounts := h.accounts.insert_left (hc.account _ rfl) _ }
  | setAccess n access =>
    simp only [reply]
    split
    · exact { h with accounts := h.accounts.insert_left (hc.account n rfl) _ }
    · exact h
  | deleteAccount n =>
    have hn : n ∈ f.accounts := hc.account n rfl
    simp only [reply]
    split
    · refine { h with accounts := h.accounts.erase_left hn, containers := ?_ }
      refine h.containers.filter_left fun key hkey => bne_iff_ne.2 ?_
      rintro rfl
      exact hkey hn
    · exact h
  | createContainer a key n =>
    exact { h with containers := h.containers.insert_left (k := (a, n)) (hc.account a rfl) _ }
  | deleteContainer a key n =>
    simp only [reply]
    split
    · exact { h with containers := h.containers.erase_left (k := (a, n)) (hc.account a rfl) }
    · exact h
  | createEndpoint r =>
    exact { h with endpoints := h.endpoints.insert_left (hc.endpoint _ rfl) _ }
  | deleteEndpoint n =>
    simp only [reply]
    split
    · exact { h with endpoints := h.endpoints.erase_left (hc.endpoint n rfl) }
    · exact h
  | putZoneGroup e group zone =>
    exact { h with zoneGroups := h.zoneGroups.insert_left (k := (e, group)) (hc.endpoint e rfl) _ }
  | deleteZoneGroup e group =>
    simp only [reply]
    split
    · exact { h with zoneGroups := h.zoneGroups.erase_left (k := (e, group)) (hc.endpoint e rfl) }
    · exact h
  | putZone => exact { h with }
  | putARecord zone n ttl address =>
    exact { h with aRecords := h.aRecords.insert_left (k := (zone, n)) (hc.account n rfl) _ }
  | deleteARecord zone n =>
    simp only [reply]
    split
    · exact { h with aRecords := h.aRecords.erase_left (k := (zone, n)) (hc.account n rfl) }
    · exact h
  | putLink r =>
    exact { h with links := h.links.insert_left (k := (r.zone, r.link)) (hc.account _ rfl) _ }
  | deleteLink zone n =>
    simp only [reply]
    split
    · exact { h with links := h.links.erase_left (k := (zone, n)) (hc.account n rfl) }
    · exact h

/-! ## Interfaces -/

theorem brings_iff {n : String} :
    i.brings n = true ↔ ∃ m e, i.endpoints.get? m = some e ∧ e.interface? = some n := by
  unfold brings
  simp only [Dict.any_eq_true, beq_iff_eq]

/-- The endpoints of a footprint bring none but some interfaces. -/
def Confined (f : Footprint) (l : List String) (i : Inventory) : Prop :=
  ∀ m ∈ f.endpoints, ∀ e, i.endpoints.get? m = some e → ∀ n, e.interface? = some n → n ∈ l

/-- Whether an interface is found without some endpoints: it stands by itself, or some other
endpoint brings it. -/
def foundWithout (i : Inventory) (names : List String) (n : String) : Bool :=
  i.interfaces.contains n || i.endpoints.any fun m e => !names.contains m && e.interface? == some n

variable {l : List String} {n : String}

/-- An interface that no endpoint of the footprint brings is looked up alike. -/
theorem AgreesOff.addresses?_of_not_mem (h : AgreesOff f i j) (hi : i.Confined f l)
    (hj : j.Confined f l) (hn : n ∉ l) : i.addresses? n = j.addresses? n := by
  have hto : ∀ {a b : Inventory}, AgreesOff f a b → a.Confined f l → a.brings n = true →
      b.brings n = true := by
    intro a b hab ha hbrings
    obtain ⟨m, e, he, hbrings⟩ := brings_iff.1 hbrings
    have hm : m ∉ f.endpoints := fun hm => hn (ha m hm e he n hbrings)
    exact brings_iff.2 ⟨m, e, (hab.endpoints m hm).symm.trans he, hbrings⟩
  have hback : AgreesOff f j i := h.symm
  have hsame : i.brings n = j.brings n := Bool.eq_iff_iff.2 ⟨hto h hi, hto hback hj⟩
  unfold addresses?
  rw [h.interfaces, hsame]

/-- So is one that is found without the endpoints of the footprint. -/
theorem AgreesOff.addresses?_of_found (h : AgreesOff f i j)
    (hfound : j.foundWithout f.endpoints n = true) : i.addresses? n = j.addresses? n := by
  unfold addresses?
  rw [h.interfaces]
  split
  · rfl
  · rename_i hnone
    unfold foundWithout at hfound
    rw [Dict.not_contains_of_get? hnone, Bool.false_or] at hfound
    obtain ⟨m, e, he, hm⟩ := Dict.any_eq_true.1 hfound
    rw [Bool.and_eq_true, Bool.not_eq_true', List.contains_eq_mem, decide_eq_false_iff_not,
      beq_iff_eq] at hm
    have hj : j.brings n = true := brings_iff.2 ⟨m, e, he, hm.2⟩
    have hi : i.brings n = true := brings_iff.2 ⟨m, e, (h.endpoints m hm.1).trans he, hm.2⟩
    rw [hi, hj]

theorem interface?_newEndpoint {r : EndpointRequest} (h : (i.newEndpoint r).interface? = some n) :
    r.interface = n := by
  unfold StoredEndpoint.interface? at h
  split at h
  · exact Option.some.inj h
  · cases h

/-- What the endpoints of a footprint bring stays confined, if what is created under their names
brings nothing else. -/
theorem Confined.step (h : i.Confined f l)
    (hc : ∀ r, c = .createEndpoint r → r.name ∈ f.endpoints → r.interface ∈ l) :
    (reply home c i).2.Confined f l := by
  cases c with
  | createEndpoint r =>
    intro m hm e he n hbrings
    rcases Dict.get?_insert_cases he with ⟨rfl, rfl⟩ | he
    · obtain rfl := interface?_newEndpoint hbrings
      exact hc r rfl hm
    · exact h m hm e he n hbrings
  | deleteEndpoint m =>
    simp only [reply]
    split
    · exact fun m hm e he => h m hm e (Dict.get?_of_erase he)
    · exact h
  | _ =>
    simp only [reply]
    try split
    all_goals exact h

/-- A call that has an inventory to itself but for a footprint: it is about nothing of it, and if it
looks up an interface that an endpoint of the footprint brings, then this is found without. -/
structure Undisturbed (f : Footprint) (l : List String) (c : Call) (i : Inventory) : Prop where
  outside : c.Outside f
  found : ∀ n, c.looked? = some n → n ∈ l → i.foundWithout f.endpoints n = true

/-- A call that changes nothing but a footprint, and its endpoints bring some interfaces alone. -/
structure Contained (f : Footprint) (l : List String) (c : Call) : Prop where
  inside : c.Inside f
  interface : ∀ n, c.interface? = some n → n ∈ l

/-- **The inventory off a footprint is a view** of those whose calls are outside it, and calls
inside it do not show. -/
theorem frame (home : Scope) (f g : Footprint) (l m : List String) :
    Frame (reply home)
      (fun c i => Contained f l c ∧ Undisturbed g m c i)
      (fun c i => Contained g m c ∧ Undisturbed f l c i)
      (fun i j => AgreesOff g i j ∧ i.Confined g m ∧ j.Confined g m) where
  step := by
    rintro c i j ⟨-, hc⟩ ⟨h, hi, hj⟩
    have hlook : ∀ n, c.looked? = some n → i.addresses? n = j.addresses? n := by
      intro n hn
      by_cases hm : n ∈ m
      · exact h.addresses?_of_found (hc.found n hn hm)
      · exact h.addresses?_of_not_mem hi hj hm
    -- an endpoint that is created has another name
    have hother : ∀ r, c = .createEndpoint r → r.name ∈ g.endpoints → r.interface ∈ m := by
      rintro r rfl hr
      exact absurd hr (hc.outside.endpoint _ rfl)
    obtain ⟨hreply, hafter⟩ : (reply home c i).1 = (reply home c j).1 ∧
        AgreesOff g (reply home c i).2 (reply home c j).2 := h.step hc.outside hlook
    exact ⟨hreply, hafter, hi.step hother, hj.step hother⟩
  skip := by
    rintro c i j k ⟨hc, -⟩ ⟨h, hi, hj⟩
    refine ⟨h.skip hc.inside, hi.step ?_, hj⟩
    rintro r rfl -
    exact hc.interface _ rfl

end Inventory

end RegistryStorage
