import RegistryStorage.Proofs.Convergence
import RegistryStorage.Proofs.Ownership
import RegistryStorage.Proofs.Seclusion

/-!
What the record says about the storage is true.

Every operation ends by writing one condition, and there are many ways to its end. So the condition
is related to the provider here for each of them (`existence_is_truthful`). If the operation failed,
the condition says so and why, in the words of the fault. If it says that the storage is there, then
it is, under the names that the driver's configuration has by then. If it says that it is not there,
then it has no names, or what bears its names is gone. Nothing else that the record says about the
storage is touched.

A container exists in an account. When the account is gone there is no container, and that is how a
removal reads the answer that the account was not found: it takes the container to be deleted, and
asks no further.

A removal writes in between that the container, or the account, was deleted. When it fails after
that, the fault is written over it, and so the last word is about how it ended.
-/

set_option autoImplicit false

namespace RegistryStorage

/-! ## Writing one condition -/

/-- Writing a condition leaves all the others as they are. -/
theorem Conditions.eraseP_update {now : Moment} {kind reason message : String}
    {status : ConditionStatus} (l : List Condition) :
    (update now kind status reason message l).eraseP (·.kind == kind) =
      l.eraseP (·.kind == kind) := by
  induction l with
  | nil => simp [update]
  | cons c l ih =>
    by_cases hkind : c.kind = kind
    · simp [update, hkind]
    · rw [update, if_neg hkind, List.eraseP_cons_of_neg (by simpa using hkind),
        List.eraseP_cons_of_neg (by simpa using hkind), ih]

/-- All that the record says, but for the existence of the storage. -/
def StorageState.others (state : StorageState) : List Condition :=
  state.conditions.eraseP (·.kind == storageExistsKind)

theorem StorageState.others_report {state : StorageState} {now : Moment} {status : ConditionStatus}
    {reason : StorageReason} {message : String} :
    (state.report now status reason message).others = state.others :=
  Conditions.eraseP_update state.conditions

/-- How it stands with the storage, as the record says. -/
def StorageState.Says (status : ConditionStatus) (state : StorageState) : Prop :=
  ∃ reason message, state.existence = some (status, reason, message)

theorem StorageState.Says.unique {state : StorageState} {a b : ConditionStatus} (ha : state.Says a)
    (hb : state.Says b) : a = b := by
  obtain ⟨_, _, ha⟩ := ha
  obtain ⟨_, _, hb⟩ := hb
  rw [ha] at hb
  cases hb
  rfl

/-- The record says how it stands with the storage, and otherwise what it said before. -/
structure Told (status : ConditionStatus) (before after : StorageState) : Prop where
  existence : after.Says status
  others : after.others = before.others

/-- The record says that a fault left it open how it stands with the storage, and otherwise what it
said before. -/
structure Blamed (f : Fault) (before after : StorageState) : Prop where
  existence : ∃ reason doing, (reason = StorageReason.configError ∨ reason = .azureError) ∧
    after.existence = some (.unknown, reason.text, doing ++ f.message)
  others : after.others = before.others

theorem Blamed.says {f : Fault} {before after : StorageState} (h : Blamed f before after) :
    after.Says .unknown := by
  obtain ⟨reason, doing, -, hsaid⟩ := h.existence
  exact ⟨_, _, hsaid⟩

section Words

variable {before state : StorageState} {w : Work} {now : Moment} {reason : StorageReason}

theorem Told.report {status : ConditionStatus} {message : String}
    (h : state.others = before.others) :
    Told status before (state.report now status reason message) :=
  ⟨⟨reason.text, message, StorageState.existence_report⟩, StorageState.others_report.trans h⟩

theorem Blamed.azure {doing : String} {f : Fault} (h : w.state.others = before.others) :
    Blamed f before (w.blame now .azureError doing f).state :=
  ⟨⟨.azureError, doing, Or.inr rfl, StorageState.existence_report⟩,
    StorageState.others_report.trans h⟩

theorem Blamed.config {doing : String} {f : Fault} (h : w.state.others = before.others) :
    Blamed f before (w.blame now .configError doing f).state :=
  ⟨⟨.configError, doing, Or.inl rfl, StorageState.existence_report⟩,
    StorageState.others_report.trans h⟩

end Words

/-! ## Creating and looking -/

namespace Storage

variable {home : Scope} {P : Fault → Prop} {s : Scene Inventory} {w : Work} {now : Moment}
variable {settings : Settings} {credentials : ClusterCredentials} {infra : Infrastructure}
variable {fresh : Fresh}

/-- **What creating says.** The container was there or was created, and the only call after that is
about who may reach the account. -/
theorem create_tells (hc : settings.credentials = .ok (.cluster credentials)) :
    (create settings infra fresh now).Ensures (Inventory.refusable P home) w s
      (fun _ v t => Told .true w.state v.state ∧
        Stored v.config.account v.config.container t.provider)
      fun f v _ => Blamed f w.state v.state := by
  rw [create_ensures hc, provision_ensures]
  refine ⟨fun _ => .config rfl, fun _ => ⟨fun _ _ => .config rfl, fun _ => ⟨fun _ _ => .config rfl,
    fun environment _ => ?_⟩⟩⟩
  refine .of_forall (fun _ t => ?_) fun _ _ => .azure rfl
  rw [furnish_ensures]
  refine .of_forall (fun account t => ?_) fun _ _ => .azure rfl
  refine .of_forall (fun _ t => ?_) fun _ _ => .azure rfl
  refine Assure.container_stored.mono (fun container t ht => ?_) fun _ _ _ => .azure rfl
  exact (closePublicly_stored t ht).mono (fun _ _ hu => ⟨.report rfl, hu⟩) fun _ _ _ => .azure rfl

/-- **What looking says** is what is there. -/
theorem checkExists_tells (hc : settings.credentials = .ok (.cluster credentials)) :
    (checkExists settings now).Ensures (Inventory.refusable P home) w s
      (fun there v t => Told (if there then .true else .false) w.state v.state ∧
        v.config = w.config ∧
        (there = true → Stored w.config.account w.config.container t.provider) ∧
        (there = false → w.config.account = "" ∨ w.config.container = "" ∨
          t.provider.has (.container w.config.account w.config.container) = false))
      fun f v _ => Blamed f w.state v.state := by
  rw [checkExists_ensures]
  dsimp only
  split
  · rename_i hnames
    exact ⟨.report rfl, rfl, nofun, fun _ => or_assoc.1 (Or.inl hnames)⟩
  · rename_i hnames
    refine ⟨fun _ _ => .config rfl, fun _ hcluster => ⟨fun _ _ => .config rfl,
      fun environment _ => ?_⟩⟩
    rw [hc] at hcluster
    cases hcluster
    -- the key of an account is had only if the account is there
    have hkey : (accessKey environment w.config.account (.cluster credentials)).Ensures
        (Inventory.refusable P home) s
        (fun _ t => t.provider.has (.account w.config.account) = true) fun _ _ => True := by
      refine (Action.ensures_bind _).2 (.of_forall (fun _ t => ?_) fun _ _ => trivial)
      refine Probe.primaryKey_there.mono ?_ fun _ _ h => h
      rintro key u ⟨hsame, hthere⟩
      rwa [hsame]
    refine hkey.mono (fun key t hthere => ?_) fun _ _ _ => .azure rfl
    unfold Probe.containerExists
    rw [if_neg hnames]
    refine Inventory.ensures_refusable (fun there i hreply => ?_) fun _ _ => .azure rfl
    obtain ⟨hanswer, rfl⟩ := Prod.mk.inj hreply
    obtain rfl := Except.ok.inj hanswer
    refine ⟨?_, ?_, fun hfound => ⟨hthere, hfound⟩, fun hmissing => Or.inr (Or.inr hmissing)⟩
    · unfold found
      split <;> exact .report rfl
    · unfold found
      split <;> rfl

end Storage

/-! ## Removing -/

section Gone

variable {home : Scope} {P : Fault → Prop} {s : Scene Inventory} {d : Call} {r : Resource}

/-- What is gone does not come back with a call that creates nothing. -/
theorem Inventory.gone_keeps (hd : d.creation? = none) :
    Action.Keeps (Inventory.refusable P home) (fun s => s.provider.has r = false)
      (Action.perform d) := by
  intro s hs
  refine Inventory.ensures_refusable (fun x i hreply => ?_) fun _ _ => hs
  refine Bool.eq_false_iff.2 fun hback => ?_
  rw [Scene.after_provider, Inventory.reply_has hreply, hd] at hback
  rcases hback with hnew | ⟨-, hold⟩
  · cases hnew
  · rw [hs] at hold
    cases hold

/-- **After a deletion the resource is gone**: the provider has deleted it now, or says that there
was nothing to delete. -/
theorem Inventory.ensures_gone (hd : d.deletion? = some r) :
    (Action.perform d).Ensures (Inventory.honest home) s (fun _ t => t.provider.has r = false)
      fun f t => f.isNotFound = true → t.provider.has r = false := by
  refine Inventory.ensures_perform (fun x i hreply => ?_) fun f hf hnot => ?_
  · refine Bool.eq_false_iff.2 fun hback => ?_
    rw [Scene.after_provider, Inventory.reply_has hreply] at hback
    rcases hback with hnew | ⟨hkept, -⟩
    · have hnone : d.creation? = none := by
        cases d <;> first | rfl | cases hd
      rw [hnone] at hnew
      cases hnew
    · rw [Call.deletes, hd] at hkept
      dsimp only at hkept
      rw [Resource.within_self] at hkept
      cases hkept
  · obtain ⟨t, ht⟩ := hf hnot
    exact Inventory.reply_gone hd ht

end Gone

namespace Storage

section Words

variable {σ : Type} {R : Conduct σ} {s : σ} {w : Work} {now : Moment} {account : String}
variable {before : StorageState} {settings : Settings} {credentials : ClusterCredentials}

theorem removePrivateNetwork_tells (hw : w.state.others = before.others) :
    (removePrivateNetwork now account).Ensures R w s
      (fun _ v _ => v.state.others = before.others) fun f v _ => Blamed f before v.state := by
  rw [removePrivateNetwork_ensures]
  split
  · exact hw
  · refine .of_forall (fun _ t => ?_) fun _ _ => .azure hw
    exact .of_forall (fun _ _ => hw) fun _ _ => .azure hw

theorem removeAccount_tells (hw : w.state.others = before.others) :
    (removeAccount now account).Ensures R w s
      (fun _ v _ => Told .false before v.state) fun f v _ => Blamed f before v.state := by
  rw [removeAccount_ensures]
  exact .of_forall (fun _ _ => .report hw) fun _ _ => .azure hw

/-- **What removing says**: that nothing is left, or which fault stopped it. What it says in between
does not last. -/
theorem dismantle_tells (hw : w.state.others = before.others) :
    (dismantle now).Ensures R w s
      (fun _ v _ => Told .false before v.state) fun f v _ => Blamed f before v.state := by
  rw [dismantle_ensures]
  dsimp only
  split
  · refine (removePrivateNetwork_tells hw).mono (fun _ v t hv => ?_) fun _ _ _ h => h
    exact removeAccount_tells hv
  · refine .of_forall (fun key t => ?_) fun _ _ => .azure hw
    cases key with
    | ok key =>
      dsimp only
      rw [removeContainer_ensures]
      refine .of_forall (fun _ u => ?_) fun _ _ => .azure hw
      refine (removePrivateNetwork_tells (StorageState.others_report.trans hw)).mono
        (fun _ v t hv => ?_) fun _ _ _ h => h
      exact removeAccount_tells hv
    | error fault =>
      exact (removePrivateNetwork_tells hw).mono (fun _ v t hv => .report hv) fun _ _ _ h => h

theorem remove_tells (hc : settings.credentials = .ok (.cluster credentials))
    (hmanaged : w.state.isManaged = true) :
    (remove settings now).Ensures R w s
      (fun _ v _ => Told .false w.state v.state) fun f v _ => Blamed f w.state v.state := by
  rw [remove_ensures hc, if_neg (by rw [hmanaged]; exact Bool.false_ne_true.symm)]
  split
  · exact .report rfl
  · refine ⟨fun _ _ => .config rfl, fun environment _ => ?_⟩
    exact .of_forall (fun _ t => dismantle_tells rfl) fun _ _ => .azure rfl

end Words

variable {home : Scope} {s : Scene Inventory} {w : Work} {now : Moment} {account : String}
variable {settings : Settings} {credentials : ClusterCredentials} {r : Resource}

/-- Nothing comes back while storage is removed. -/
theorem gone_within {d : Call} (hd : d.OfRemoval account) :
    Action.Keeps (Inventory.honest home) (fun s => s.provider.has r = false) (Action.perform d) :=
  Inventory.gone_keeps (by cases d <;> first | rfl | exact hd.elim)

theorem removeAccount_gone :
    (removeAccount now account).Ensures (Inventory.honest home) w s
      (fun _ _ t => t.provider.has (.account account) = false) fun _ _ _ => True := by
  rw [removeAccount_ensures, Action.ensures_tolerant]
  refine (Inventory.ensures_gone rfl).mono (fun _ _ ht => ht) fun f t ht => ?_
  split
  · rename_i hnot
    exact ht hnot
  · trivial

/-- **A removal that goes through leaves neither the account nor the container.** It does not look
for the container when the account is not found. -/
theorem dismantle_gone :
    (dismantle now).Ensures (Inventory.honest home) w s
      (fun _ _ t => t.provider.has (.account w.config.account) = false ∧
        (w.config.container ≠ "" → s.provider.has (.account w.config.account) = true →
          t.provider.has (.container w.config.account w.config.container) = false))
      fun _ _ _ => True := by
  have hisolation : ∀ {r : Resource} (d : Call), d.OfIsolation w.config.account →
      Action.Keeps (Inventory.honest home) (fun s => s.provider.has r = false)
        (Action.perform d) := fun _ hd => gone_within hd.ofRemoval
  rw [dismantle_ensures]
  dsimp only
  split
  · rename_i hempty
    refine .of_forall (fun _ v t => ?_) fun _ _ _ => trivial
    exact removeAccount_gone.mono (fun _ _ _ ht => ⟨ht, fun hne => absurd hempty hne⟩)
      fun _ _ _ h => h
  · rw [keyUnlessGone_ensures]
    refine Probe.primaryKey_honest.mono (fun key t _ => ?_) fun f t ht => ?_
    · dsimp only
      rw [removeContainer_ensures, Action.ensures_tolerant]
      -- the rest of the removal, once the container is gone
      have hrest : ∀ {v : Work} {t : Scene Inventory},
          t.provider.has (.container w.config.account w.config.container) = false →
          (removePrivateNetwork now w.config.account).Ensures (Inventory.honest home) v t
            (fun _ v t => (removeAccount now w.config.account).Ensures (Inventory.honest home) v t
              (fun _ _ t => t.provider.has (.account w.config.account) = false ∧
                (w.config.container ≠ "" → s.provider.has (.account w.config.account) = true →
                  t.provider.has (.container w.config.account w.config.container) = false))
              fun _ _ _ => True)
            fun _ _ _ => True := by
        intro v t ht
        refine (removePrivateNetwork_within hisolation ht).mono (fun _ v t hv => ?_)
          fun _ _ _ _ => trivial
        refine (removeAccount_gone.and (removeAccount_within (fun _ => gone_within) hv.1)).mono
          ?_ fun _ _ _ _ => trivial
        rintro _ v t ⟨haccount, hcontainer, -⟩
        exact ⟨haccount, fun _ _ => hcontainer⟩
      refine (Inventory.ensures_gone rfl).mono (fun _ u hu => hrest hu) fun f u hu => ?_
      split
      · rename_i hnot
        exact hrest (hu hnot)
      · trivial
    · split
      · rename_i hnot
        have hgone := ht.2 hnot
        have hstill : t.provider.has (.account w.config.account) = false := by
          rw [ht.1]
          exact hgone
        refine (removePrivateNetwork_within hisolation hstill).mono (fun _ v u hu => ?_)
          fun _ _ _ _ => trivial
        refine ⟨hu.1, fun _ hthere => ?_⟩
        rw [hgone] at hthere
        cases hthere
      · trivial

theorem remove_gone (hc : settings.credentials = .ok (.cluster credentials))
    (hmanaged : w.state.isManaged = true) :
    (remove settings now).Ensures (Inventory.honest home) w s
      (fun _ _ t => w.config.account ≠ "" →
        t.provider.has (.account w.config.account) = false ∧
        (w.config.container ≠ "" → s.provider.has (.account w.config.account) = true →
          t.provider.has (.container w.config.account w.config.container) = false))
      fun _ _ _ => True := by
  rw [remove_ensures hc, if_neg (by rw [hmanaged]; exact Bool.false_ne_true.symm)]
  split
  · rename_i hempty
    exact fun hne => absurd hempty hne
  · refine ⟨fun _ _ => trivial, fun environment _ => ?_⟩
    refine Inventory.ensures_perform (fun _ i hreply => ?_) fun _ _ => trivial
    obtain rfl := (Prod.mk.inj hreply).2
    exact dismantle_gone.mono (fun _ _ _ ht _ => ht) fun _ _ _ h => h

end Storage

/-! ## Every end of every operation -/

/-- An operation on some work ended with a result, left other work, and a provider. What the record
says then about the storage is true. -/
structure Truthful {α : Type} (before : Work) (result : Except Fault α) (after : Work)
    (i : Inventory) : Prop where
  /-- A fault is the last thing that the record says. -/
  failed : ∀ f, result = .error f →
    ∃ reason doing, (reason = StorageReason.configError ∨ reason = .azureError) ∧
      after.state.existence = some (.unknown, reason.text, doing ++ f.message)
  ended : (∃ a, result = .ok a) ↔ ¬after.state.Says .unknown
  present : after.state.Says .true → Stored after.config.account after.config.container i
  absent : after.state.Says .false → before.config.account = "" ∨ before.config.container = "" ∨
    ¬Stored before.config.account before.config.container i
  others : after.state.others = before.state.others

namespace Truthful

variable {α : Type} {w v : Work} {i : Inventory}

theorem of_blamed {f : Fault} (h : Blamed f w.state v.state) :
    Truthful w (.error f : Except Fault α) v i := by
  refine ⟨?_, ?_, fun hsays => ?_, fun hsays => ?_, h.others⟩
  · rintro g ⟨⟩
    exact h.existence
  · constructor
    · rintro ⟨a, ⟨⟩⟩
    · exact fun hknown => absurd h.says hknown
  · exact nomatch hsays.unique h.says
  · exact nomatch hsays.unique h.says

theorem of_told {status : ConditionStatus} (h : Told status w.state v.state) (a : α)
    (hstatus : status ≠ .unknown)
    (hpresent : status = .true → Stored v.config.account v.config.container i)
    (habsent : status = .false → w.config.account = "" ∨ w.config.container = "" ∨
      ¬Stored w.config.account w.config.container i) : Truthful w (.ok a) v i := by
  refine ⟨?_, ?_, fun hsays => ?_, fun hsays => ?_, h.others⟩
  · rintro f ⟨⟩
  · exact ⟨fun _ hunknown => hstatus (h.existence.unique hunknown), fun _ => ⟨a, rfl⟩⟩
  · exact hpresent (h.existence.unique hsays)
  · exact habsent (h.existence.unique hsays)

end Truthful

/-- **What the record says about the storage is true**, after every operation on it and however the
operation ended, if nobody claims falsely that a resource does not exist. A look finds what the
record says, and after a removal that has nothing left to do the account is gone, and with it the
container. -/
theorem existence_is_truthful {settings : Settings} {credentials : ClusterCredentials}
    (hc : settings.credentials = .ok (.cluster credentials)) (home : Scope) (w : Work)
    (s : Scene Inventory) (now : Moment) (d : Disturbance) (hd : d.Honest) :
    (∀ infra fresh result v t, ((Storage.create settings infra fresh now).start w).attend
        (Inventory.reply home) d s = ((result, v), t) → Truthful w result v t.provider) ∧
    (∀ result v t, ((Storage.checkExists settings now).start w).attend
        (Inventory.reply home) d s = ((result, v), t) →
      Truthful w result v t.provider ∧
        ∀ b, result = .ok b ↔ v.state.Says (if b then .true else .false)) ∧
    (w.state.isManaged = true → ∀ result v t, ((Storage.remove settings now).start w).attend
        (Inventory.reply home) d s = ((result, v), t) →
      Truthful w result v t.provider ∧
        (v.state.Says .false → w.config.account ≠ "" →
          t.provider.has (.account w.config.account) = false ∧
          (w.config.container ≠ "" → s.provider.has (.account w.config.account) = true →
            t.provider.has (.container w.config.account w.config.container) = false))) := by
  refine ⟨fun infra fresh result v t hrun => ?_, fun result v t hrun => ?_,
    fun hmanaged result v t hrun => ?_⟩
  · obtain ⟨hok, hfailed⟩ := (Storage.create_tells hc).attend_refused hd hrun
    cases result with
    | ok a =>
      obtain ⟨htold, hstored⟩ := hok a rfl
      exact .of_told htold a nofun (fun _ => hstored) nofun
    | error f => exact .of_blamed (hfailed f rfl)
  · obtain ⟨hok, hfailed⟩ := (Storage.checkExists_tells hc).attend_refused hd hrun
    cases result with
    | ok there =>
      obtain ⟨htold, hconfig, hpresent, habsent⟩ := hok there rfl
      constructor
      · refine .of_told htold there (by cases there <;> nofun) (fun hstatus => ?_) fun hstatus => ?_
        · rw [hconfig]
          cases there with
          | true => exact hpresent rfl
          | false => cases hstatus
        · cases there with
          | true => cases hstatus
          | false => exact (habsent rfl).imp_right (Or.imp_right fun hgone hstored => by
              rw [hstored.container] at hgone
              cases hgone)
      · intro b
        constructor
        · rintro ⟨⟩
          exact htold.existence
        · intro hsays
          have hstatus := htold.existence.unique hsays
          cases there <;> cases b <;> first | rfl | cases hstatus
    | error f =>
      have hblamed := hfailed f rfl
      refine ⟨.of_blamed hblamed, fun b => ⟨nofun, fun hsays => ?_⟩⟩
      have hstatus := hsays.unique hblamed.says
      cases b <;> cases hstatus
  · obtain ⟨hok, hfailed⟩ := ((Storage.remove_tells hc hmanaged).and
      (Storage.remove_gone hc hmanaged)).attend_refused hd hrun
    cases result with
    | ok a =>
      obtain ⟨htold, hgone⟩ := hok a rfl
      refine ⟨.of_told htold a nofun nofun fun _ => ?_, fun _ => hgone⟩
      by_cases hname : w.config.account = ""
      · exact Or.inl hname
      · refine Or.inr (Or.inr fun hstored => ?_)
        have hthere := hstored.account
        rw [(hgone hname).1] at hthere
        cases hthere
    | error f =>
      obtain ⟨hblamed, -⟩ := hfailed f rfl
      exact ⟨.of_blamed hblamed, fun hsays => nomatch hsays.unique hblamed.says⟩

/-- A removal that is stopped at the account, after the container was deleted. -/
theorem stopped_removal_is_truthful :
    let inventory : Inventory :=
      { accounts := .ofList [("acct1", .named "acct1")]
        containers := .ofList [(("acct1", "images"), ())] }
    let state : StorageState :=
      { spec := { account := "acct1", container := "images" }, management := some .managed }
    let w : Work := ⟨state.spec, state⟩
    let fault : Fault := .authentication "the token has expired"
    let d : Disturbance := [none, none, none, some fault]
    d.Honest ∧ w.state.isManaged = true ∧
      ∃ v t, ((Storage.remove clusterSettings default).start w).attend
          (Inventory.reply clusterSettings.cluster.scope) d ⟨inventory, []⟩ =
            ((.error fault, v), t) ∧
        t.provider.has (.container "acct1" "images") = false ∧
        Truthful w (.error fault : Except Fault Unit) v t.provider := by
  intro inventory state w fault d
  have hhonest : d.Honest := by decide
  obtain ⟨outcome, hrun, hresult, hgone⟩ : ∃ outcome,
      ((Storage.remove clusterSettings default).start w).attend
        (Inventory.reply clusterSettings.cluster.scope) d ⟨inventory, []⟩ = outcome ∧
      outcome.1.1 = .error fault ∧
      outcome.2.provider.has (.container "acct1" "images") = false :=
    ⟨_, rfl, by decide +kernel, by decide +kernel⟩
  obtain ⟨⟨result, v⟩, t⟩ := outcome
  obtain rfl : result = .error fault := hresult
  have hremoves := (existence_is_truthful clusterSettings_credentials clusterSettings.cluster.scope w
    ⟨inventory, []⟩ default d hhonest).2.2 rfl
  exact ⟨hhonest, rfl, v, t, hrun, hgone, (hremoves _ v t hrun).1⟩

end RegistryStorage
