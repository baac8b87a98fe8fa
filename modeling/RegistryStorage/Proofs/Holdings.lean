import RegistryStorage.Proofs.Journal
import RegistryStorage.Provider.Inventory

/-!
What was created and not deleted since.

A `Resource` is something a run can leave behind: an account, a container, or one of the things
private access needs. Which of them a call brings into being and which it takes away is read off
the call alone, so a journal by itself tells what a run *holds*: what it created and did not
delete since (`Journal.Holds`). The inventory enters only through the two facts proved here. A
granted call changes the resources as the call says, and a refused one changes nothing
(`Inventory.reply_has`); so whatever is held exists, with all that it lies in (`Sound`). That is
what makes a deletion final: after it nothing of the resource is held, whether the provider
deleted it now or says that it was gone already (`ensures_delete`).
-/

set_option autoImplicit false

namespace RegistryStorage

/-- Something that costs money or stands in the way if it is forgotten. -/
inductive Resource
  | account (name : String)
  | container (account name : String)
  | endpoint (name : String)
  | aRecord (zone name : String)
  | zoneGroup (endpoint group : String)
  | link (zone name : String)
deriving DecidableEq, Repr, Inhabited

namespace Resource

/-- Whether a resource is gone as soon as another one is: it is the same, or it lies in it. -/
def within : Resource → Resource → Bool
  | container a n, account b => a == b || container a n == account b
  | r, d => r == d

@[simp] theorem within_self (r : Resource) : r.within r = true := by
  cases r <;> simp [within]

theorem within_trans {r d e : Resource} (h : r.within d = true) (h' : d.within e = true) :
    r.within e = true := by
  cases d <;> cases e <;> simp [within] at h' <;> cases r <;> simp_all [within]

theorem ne_of_within {r d : Resource} (h : r.within d = false) : r ≠ d := by
  rintro rfl
  rw [within_self] at h
  cases h

/-- Only a container lies in something else. -/
theorem within_cases {r d : Resource} (h : r.within d = true) :
    d = r ∨ ∃ a n, r = .container a n ∧ d = .account a := by
  cases r <;> cases d <;> simp [within] at h <;> simp [h]

end Resource

/-- Whether a resource exists. -/
def Inventory.has (i : Inventory) : Resource → Bool
  | .account n => i.accounts.contains n
  | .container a n => i.containers.contains (a, n)
  | .endpoint n => i.endpoints.contains n
  | .aRecord z n => i.aRecords.contains (z, n)
  | .zoneGroup e g => i.zoneGroups.contains (e, g)
  | .link z n => i.links.contains (z, n)

namespace Call

/-- The resource that exists once a call is granted. -/
def creation? : Call → Option Resource
  | createAccount r => some (.account r.name)
  | createContainer a _ n => some (.container a n)
  | createEndpoint r => some (.endpoint r.name)
  | putARecord z n _ _ => some (.aRecord z n)
  | putZoneGroup e g _ => some (.zoneGroup e g)
  | putLink r => some (.link r.zone r.link)
  | _ => none

/-- The resource that a call is to delete. -/
def deletion? : Call → Option Resource
  | deleteAccount n => some (.account n)
  | deleteContainer a _ n => some (.container a n)
  | deleteEndpoint n => some (.endpoint n)
  | deleteARecord z n => some (.aRecord z n)
  | deleteZoneGroup e g => some (.zoneGroup e g)
  | deleteLink z n => some (.link z n)
  | _ => none

/-- The resource of which a call asks what it is like. -/
def lookup? : Call → Option Resource
  | getAccount n | listKeys n => some (.account n)
  | getEndpoint n => some (.endpoint n)
  | _ => none

/-- Whether a resource is gone once a call is granted. -/
def deletes (c : Call) (r : Resource) : Bool :=
  match c.deletion? with
  | some d => r.within d
  | none => false

end Call

/-! ## What a run holds -/

/-- The run created a resource and did not delete it since. -/
def Journal.Holds (r : Resource) : Journal → Prop
  | [] => False
  | e :: rest =>
    (e.fault = none ∧ e.call.creation? = some r) ∨
      (¬(e.fault = none ∧ e.call.deletes r = true) ∧ Holds r rest)

namespace Journal

variable {r : Resource} {c : Call} {j : Journal}

@[simp] theorem holds_nil : ¬Holds r [] := id

@[simp] theorem holds_granted :
    Holds r (⟨c, none⟩ :: j) ↔ c.creation? = some r ∨ (c.deletes r = false ∧ Holds r j) := by
  simp [Holds]

@[simp] theorem holds_refused {f : Fault} : Holds r (⟨c, some f⟩ :: j) ↔ Holds r j := by
  simp [Holds]

instance decidableHolds (r : Resource) : (j : Journal) → Decidable (Holds r j)
  | [] => isFalse id
  | e :: rest =>
    have : Decidable (Holds r rest) := decidableHolds r rest
    inferInstanceAs (Decidable ((e.fault = none ∧ e.call.creation? = some r) ∨
      (¬(e.fault = none ∧ e.call.deletes r = true) ∧ Holds r rest)))

end Journal

/-- The run created a resource at some time. -/
def Journal.Created (r : Resource) (j : Journal) : Prop :=
  ∃ e ∈ j, e.fault = none ∧ e.call.creation? = some r

instance Journal.decidableCreated (r : Resource) (j : Journal) : Decidable (j.Created r) :=
  inferInstanceAs (Decidable (∃ e ∈ j, e.fault = none ∧ e.call.creation? = some r))

/-! ## What a reply changes -/

namespace Inventory

variable {home : Scope} {i t : Inventory} {c : Call} {f : Fault}

/-- **A granted call changes the resources as the call says, and in no other way.** One case per
call, and in each one case per kind of resource. -/
theorem reply_has {x : c.Answer} (h : reply home c i = (.ok x, t)) (r : Resource) :
    t.has r = true ↔ c.creation? = some r ∨ (c.deletes r = false ∧ i.has r = true) := by
  have hset : ∀ {a : StoredAccount} {n m : String}, i.accounts.get? n = some a →
      (m = n ∨ i.accounts.contains m = true ↔ i.accounts.contains m = true) := by
    intro a n m ha
    constructor
    · rintro (rfl | hm)
      · exact Dict.contains_of_get? ha
      · exact hm
    · exact Or.inr
  cases c <;> simp only [reply] at h <;> try split at h
  all_goals cases h
  all_goals cases r <;> simp [has, Call.creation?, Call.deletes, Call.deletion?, Resource.within,
    addAccount, dropAccount, addEndpoint, *]
  -- what is left compares a name with itself, once in each order
  all_goals simp only [eq_comm]

/-- What exists stays, if the call deletes nothing. -/
theorem reply_keeps {x : c.Answer} (h : reply home c i = (.ok x, t)) (hc : c.deletion? = none)
    (r : Resource) (hr : i.has r = true) : t.has r = true := by
  refine (reply_has h r).2 (Or.inr ⟨?_, hr⟩)
  unfold Call.deletes
  rw [hc]

/-- A call that the inventory refuses changes nothing. -/
theorem reply_refused (h : reply home c i = (.error f, t)) : t = i := by
  cases c <;> simp only [reply] at h <;> try split at h
  all_goals cases h
  all_goals rfl

/-- The inventory fails only by saying that something does not exist. -/
theorem reply_error (h : reply home c i = (.error f, t)) : f.isNotFound = true := by
  cases c <;> simp only [reply] at h <;> try split at h
  all_goals cases h
  all_goals rfl

/-- No deletion takes away a DNS zone. -/
theorem reply_zones {d : Resource} {reply : Reply c} (hd : c.deletion? = some d)
    (h : Inventory.reply home c i = (reply, t)) : t.zones = i.zones := by
  cases c <;> cases hd
  all_goals simp only [Inventory.reply] at h; split at h
  all_goals obtain ⟨-, rfl⟩ := Prod.mk.inj h
  all_goals rfl

/-- The inventory refuses a deletion only if there is nothing to delete. -/
theorem reply_gone {d : Resource} (hd : c.deletion? = some d) (h : reply home c i = (.error f, t)) :
    i.has d = false := by
  cases c <;> cases hd
  all_goals simp only [reply] at h; split at h <;> rename_i hhas
  all_goals first
    | exact Bool.eq_false_iff.2 hhas
    | cases h

/-- The inventory tells what a resource is like only if there is one, and that changes nothing. -/
theorem reply_found {r : Resource} {x : c.Answer} (hr : c.lookup? = some r)
    (h : reply home c i = (.ok x, t)) : i.has r = true ∧ t = i := by
  cases c <;> cases hr
  all_goals simp only [reply] at h; split at h <;> cases h
  all_goals exact ⟨Dict.contains_of_get? ‹_›, rfl⟩

/-- The inventory refuses to tell what a resource is like only if there is none. -/
theorem reply_missing {r : Resource} (hr : c.lookup? = some r)
    (h : reply home c i = (.error f, t)) : i.has r = false := by
  cases c <;> cases hr
  all_goals simp only [reply] at h; split at h <;> cases h
  all_goals exact Dict.not_contains_of_get? ‹_›

/-- An endpoint that is found is told of as it is stored. -/
theorem reply_endpoint {n : String} {e : Endpoint}
    (h : reply home (.getEndpoint n) i = (.ok e, t)) :
    ∃ stored, i.endpoints.get? n = some stored ∧ e = endpoint home n stored ∧ t = i := by
  simp only [reply] at h
  split at h
  · rename_i stored hstored
    obtain ⟨hanswer, rfl⟩ := Prod.mk.inj h
    exact ⟨stored, hstored, (Except.ok.inj hanswer).symm, rfl⟩
  · cases h

/-- Only the access of an account that is there is set. -/
theorem reply_setAccess {n : String} {access : PublicAccess} {x : Unit}
    (h : reply home (.setAccess n access) i = (.ok x, t)) :
    ∃ a, i.accounts.get? n = some a ∧
      t = { i with accounts := i.accounts.insert n { a with access := some access } } := by
  simp only [reply] at h
  split at h
  · rename_i a ha
    exact ⟨a, ha, (Prod.mk.inj h).2.symm⟩
  · cases h

/-- An inventory that answers truthfully: about names of accounts, with the keys of an account,
and with the own name of an endpoint. -/
structure Plain (i : Inventory) : Prop where
  checked : i.availability = none
  keyed : ∀ n a, i.accounts.get? n = some a → a.keys = none
  named : ∀ n e, i.endpoints.get? n = some e → e.reports.getD n = n

/-- No call makes an inventory less truthful. -/
theorem Plain.reply {reply : Reply c} (hi : i.Plain) (h : Inventory.reply home c i = (reply, t)) :
    t.Plain := by
  -- only what a call stores has to be looked at, so most of the cases close at once
  cases c <;> simp only [Inventory.reply] at h <;> try split at h
  all_goals obtain ⟨-, rfl⟩ := Prod.mk.inj h
  all_goals refine ⟨hi.checked, ?_, ?_⟩
  all_goals try exact hi.keyed
  all_goals try exact hi.named
  case createAccount.refine_1 r =>
    intro n a ha
    rcases Dict.get?_insert_cases ha with ⟨-, rfl⟩ | ha
    · rfl
    · exact hi.keyed n a ha
  case h_1.refine_1 b hb =>
    intro n a ha
    rcases Dict.get?_insert_cases ha with ⟨-, rfl⟩ | ha
    · exact hi.keyed _ b hb
    · exact hi.keyed n a ha
  case deleteAccount.isTrue.refine_1 =>
    intro n a ha
    exact hi.keyed n a (Dict.get?_of_erase ha)
  case createEndpoint.refine_2 =>
    intro n e he
    rcases Dict.get?_insert_cases he with ⟨rfl, rfl⟩ | he
    · rfl
    · exact hi.named n e he
  case deleteEndpoint.isTrue.refine_2 =>
    intro n e he
    exact hi.named n e (Dict.get?_of_erase he)

/-- The inventory with a journal, when any call may be refused honestly. -/
abbrev honest (home : Scope) : Conduct (Scene Inventory) := (reply home).honest.journaled

/-- The inventory with a journal, when any call may be refused with a fault of some sort. -/
abbrev refusable (P : Fault → Prop) (home : Scope) : Conduct (Scene Inventory) :=
  ((reply home).refusable P).journaled

/-- What it takes for a call that may be refused to end as wished. A fault changes nothing, and it
is of the sort of the refusals or the inventory's own. -/
theorem ensures_refusable {P : Fault → Prop} {s : Scene Inventory}
    {Q : c.Answer → Scene Inventory → Prop} {E : Fault → Scene Inventory → Prop}
    (hQ : ∀ x t, reply home c s.provider = (.ok x, t) → Q x (s.after c none t))
    (hE : ∀ f, (P f ∨ ∃ t, reply home c s.provider = (.error f, t)) →
      E f (s.after c (some f) s.provider)) :
    (Action.perform c).Ensures (refusable P home) s Q E := by
  refine (Action.ensures_perform c).2 fun answer t ht => ?_
  obtain ⟨u, hu | ⟨f, hf, rfl, rfl⟩, rfl⟩ := ht
  · constructor
    · rintro x rfl
      exact hQ x u hu
    · rintro f rfl
      obtain rfl := reply_refused hu
      exact hE f (Or.inr ⟨_, hu⟩)
  · constructor
    · intro x hx
      cases hx
    · rintro g ⟨⟩
      exact hE f (Or.inl hf)

/-- What it takes for a call to an honest inventory to end as wished. A fault changes nothing, and
one that says that a resource does not exist is the inventory's own. -/
theorem ensures_perform {s : Scene Inventory} {Q : c.Answer → Scene Inventory → Prop}
    {E : Fault → Scene Inventory → Prop}
    (hQ : ∀ x t, reply home c s.provider = (.ok x, t) → Q x (s.after c none t))
    (hE : ∀ f, (f.isNotFound = true → ∃ t, reply home c s.provider = (.error f, t)) →
      E f (s.after c (some f) s.provider)) :
    (Action.perform c).Ensures (honest home) s Q E := by
  refine ensures_refusable (P := fun f => f.isNotFound = false) hQ fun f hf => hE f fun hnot => ?_
  refine hf.resolve_left fun hrefusal => ?_
  rw [hnot] at hrefusal
  cases hrefusal

/-- The inventory with a journal, when no call is refused. -/
abbrev undisturbed (home : Scope) : Conduct (Scene Inventory) := (reply home).conduct.journaled

/-- What it takes for a call to end as wished if it is not refused. -/
theorem ensures_undisturbed {s : Scene Inventory} {Q : c.Answer → Scene Inventory → Prop}
    {E : Fault → Scene Inventory → Prop}
    (hQ : ∀ x t, reply home c s.provider = (.ok x, t) → Q x (s.after c none t))
    (hE : ∀ f, reply home c s.provider = (.error f, s.provider) →
      E f (s.after c (some f) s.provider)) :
    (Action.perform c).Ensures (undisturbed home) s Q E := by
  refine (Action.ensures_perform c).2 fun answer t ht => ?_
  obtain ⟨u, hu, rfl⟩ := ht
  constructor
  · rintro x rfl
    exact hQ x u hu
  · rintro f rfl
    obtain rfl := reply_refused hu
    exact hE f hu

end Inventory

/-! ## What is held exists -/

/-- What the run holds exists, and so does all that it lies in. -/
def Sound (s : Scene Inventory) : Prop :=
  ∀ r d, s.journal.Holds r → r.within d = true → s.provider.has d = true

namespace Sound

variable {home : Scope} {s : Scene Inventory} {c : Call} {f : Fault}

theorem of_no_journal {i : Inventory} : Sound ⟨i, []⟩ := fun _ _ h => absurd h Journal.holds_nil

theorem refused (hs : Sound s) : Sound (s.after c (some f) s.provider) := by
  intro r d hr hd
  rw [Scene.after_journal, Journal.holds_refused] at hr
  exact hs r d hr hd

/-- A granted call leaves a sound scene sound, if the account of a new container is there. -/
theorem granted {x : c.Answer} {t : Inventory} (hs : Sound s)
    (h : Inventory.reply home c s.provider = (.ok x, t))
    (hc : ∀ a n, c.creation? = some (.container a n) → s.provider.has (.account a) = true) :
    Sound (s.after c none t) := by
  intro r d hr hd
  rw [Scene.after_journal, Journal.holds_granted] at hr
  rw [Scene.after_provider, Inventory.reply_has h]
  -- created just now, or held before and not deleted by this call
  rcases hr with hr | ⟨hkept, hr⟩
  · rcases Resource.within_cases hd with rfl | ⟨a, n, rfl, rfl⟩
    · exact Or.inl hr
    · have hdeletes : c.deletes (.account a) = false := by
        cases c <;> first | rfl | cases hr
      exact Or.inr ⟨hdeletes, hc a n hr⟩
  · refine Or.inr ⟨?_, hs r d hr hd⟩
    -- had the call deleted what the resource lies in, it would have deleted the resource
    unfold Call.deletes at hkept ⊢
    match hc : c.deletion? with
    | none => rfl
    | some e =>
      rw [hc] at hkept
      cases hde : d.within e with
      | false => exact hde
      | true => exact (Bool.eq_false_iff.1 hkept (Resource.within_trans hd hde)).elim

/-- What is gone is not held, nor is anything that would lie in it. -/
theorem not_holds (hs : Sound s) {d : Resource} (hd : s.provider.has d = false) {r : Resource}
    (hr : r.within d = true) : ¬s.journal.Holds r := by
  intro h
  rw [hs r d h hr] at hd
  cases hd

/-- **After a deletion nothing of the resource is held**: either the provider has deleted it now,
or it says that there was nothing to delete. -/
theorem ensures_delete (hs : Sound s) {d : Resource} (hd : c.deletion? = some d) :
    (Action.perform c).Ensures (Inventory.honest home) s
      (fun _ t => Sound t ∧ ∀ r, t.journal.Holds r → s.journal.Holds r ∧ r.within d = false)
      fun f t => Sound t ∧ ∀ r, t.journal.Holds r →
        s.journal.Holds r ∧ (f.isNotFound = true → r.within d = false) := by
  have hcreation : c.creation? = none := by
    cases c <;> first | rfl | cases hd
  refine Inventory.ensures_perform (fun x t hx => ?_) fun f hf => ?_
  · refine ⟨hs.granted hx fun a n hr => ?_, fun r hr => ?_⟩
    · rw [hcreation] at hr
      cases hr
    · rw [Scene.after_journal, Journal.holds_granted, hcreation] at hr
      rcases hr with hr | ⟨hr, hold⟩
      · cases hr
      · rw [Call.deletes, hd] at hr
        exact ⟨hold, hr⟩
  · refine ⟨hs.refused, fun r hr => ?_⟩
    rw [Scene.after_journal, Journal.holds_refused] at hr
    refine ⟨hr, fun hnot => ?_⟩
    obtain ⟨t, ht⟩ := hf hnot
    -- there was nothing to delete, so nothing of it can be held
    have hgone : ¬r.within d = true := fun hwithin =>
      hs.not_holds (Inventory.reply_gone hd ht) hwithin hr
    exact Bool.eq_false_iff.2 hgone

end Sound

/-- What the run created and what exists is held: nothing comes back by itself. -/
def Traced (s : Scene Inventory) : Prop :=
  ∀ r, s.journal.Created r → s.provider.has r = true → s.journal.Holds r

theorem Traced.of_no_journal {i : Inventory} : Traced ⟨i, []⟩ := by
  rintro r ⟨e, he, -⟩
  cases he

/-- Every call of an honest inventory keeps it so. -/
theorem Traced.kept {home : Scope} (c : Call) (s : Scene Inventory) (reply : Reply c)
    (t : Scene Inventory) (h : Inventory.honest home c s reply t) (hs : Traced s) : Traced t := by
  -- a refused call adds an entry, but one that creates and deletes nothing
  have hrefused : ∀ f, Traced (s.after c (some f) s.provider) := by
    rintro f r ⟨e, he, hgranted, hcreation⟩ hhas
    rw [Scene.after_journal, Journal.holds_refused]
    rcases List.mem_cons.1 he with rfl | he
    · cases hgranted
    · exact hs r ⟨e, he, hgranted, hcreation⟩ hhas
  obtain ⟨u, hu | ⟨f, -, rfl, rfl⟩, rfl⟩ := h
  · cases reply with
    | error f =>
      obtain rfl := Inventory.reply_refused hu
      exact hrefused f
    | ok x =>
      rintro r ⟨e, he, hgranted, hcreation⟩ hhas
      rw [Scene.after_provider, Inventory.reply_has hu] at hhas
      rw [faultOf_ok, Scene.after_journal, Journal.holds_granted]
      rcases hhas with hhas | ⟨hkept, hhas⟩
      · exact Or.inl hhas
      · rcases List.mem_cons.1 he with rfl | he
        · exact Or.inl hcreation
        · exact Or.inr ⟨hkept, hs r ⟨e, he, hgranted, hcreation⟩ hhas⟩
  · exact hrefused f

end RegistryStorage
