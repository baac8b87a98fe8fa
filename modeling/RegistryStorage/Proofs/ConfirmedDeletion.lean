import RegistryStorage.Lifecycle.Remove
import RegistryStorage.Proofs.LongOperations
import RegistryStorage.Provider.Remote

/-!
When a deletion counts as done.

Taking storage down tolerates that a resource is gone: a deletion whose fault says so counts as
done. The fault may come from the answer to the deletion, which is then confirmed, but also from a
poll of the operation that the deletion has started, which says nothing about the resource. Nor does
a fault that stands in place of a token, if it says so.
-/

set_option autoImplicit false

namespace RegistryStorage

open Http
open Json (Value)

namespace ResourceManager

/-! ## Answers that say that something is gone -/

/-- The codes of a resource that does not exist. -/
def GoneCode (code : String) : Prop := code = "ResourceNotFound" ∨ code = "NotFound"

/-- The text of a body, as far as it is of use to one who asks for the reason of a failure. -/
def reasonIn : Body → String
  | .complete text => text
  | .truncated => ""

/-- The code that an answer without success gives for it, if any. -/
def errorCode (r : Response) : String :=
  match (Value.read? (reasonIn r.body)).bind fun v => v.get? "error" with
  | some error => (error.textAt? ["code"]).getD ""
  | none => ""

/-- What became of the query says that something is gone. -/
def Outcome.SaysGone : Outcome → Prop
  | tokenless fault => fault.isNotFound = true
  | unanswered _ => False
  | answered r => ¬ r.Well ∧ (r.status = 404 ∨ GoneCode (errorCode r))

/-- By the answer, the operation has failed for something that is gone. -/
def Following.FailsAsGone : Following → Response → Prop
  | status _, r => (Says r "Failed" ∨ Says r "Canceled") ∧ ∃ v error, Holds r v ∧
      v.get? "error" = some error ∧ GoneCode ((error.textAt? ["code"]).getD "")
  | result _, _ => False

section Faults

variable {operation address : String} {o : Outcome} {r : Response} {way : Following} {fault : Fault}

theorem map_eq_error {α β : Type} {f : α → β} {e : Except Fault α} (h : f <$> e = .error fault) :
    e = .error fault := by
  cases e <;> cases h
  rfl

theorem isNotFound_response {status : Nat} {code message : String} :
    (Fault.response status code message).isNotFound = true ↔ status = 404 ∨ GoneCode code := by
  simp [Fault.isNotFound, GoneCode, or_assoc]

theorem isNotFound_unanswered (address : String) (fault : TransportFault) :
    (Fault.unanswered address fault).isNotFound = false := by
  unfold Fault.unanswered
  cases fault with
  | refused url =>
    dsimp only
    split <;> rfl
  | _ => rfl

theorem isNotFound_readBody (h : readBody r = .error fault) : fault.isNotFound = false := by
  unfold readBody at h
  split at h
  · cases h
    rfl
  · split at h
    · cases h
    · split at h <;> cases h
      rfl

/-- Without success, an answer is a fault with its status and its code. -/
theorem checkStatus_eq_error (h : checkStatus r = .error fault) :
    ¬ r.Well ∧ ∃ message, fault = .response r.status (errorCode r) message := by
  rw [← Response.isSuccess_iff]
  unfold checkStatus at h
  by_cases hsuccess : r.isSuccess = true
  · rw [if_pos hsuccess] at h
    cases h
  · rw [if_neg hsuccess] at h
    refine ⟨hsuccess, ?_⟩
    have hfault : fault = Fault.ofBody r.status (reasonIn r.body) := by
      cases hbody : r.body <;> rw [hbody] at h <;> cases h <;> rfl
    rw [hfault]
    unfold Fault.ofBody errorCode
    cases (Value.read? (reasonIn r.body)).bind fun v => v.get? "error" with
    | some error => exact ⟨_, rfl⟩
    | none => exact ⟨_, rfl⟩

/-- **What a fault says of a query** is what became of the query. -/
theorem isNotFound_check (h : o.check address = .error fault) :
    fault.isNotFound = true ↔ o.SaysGone := by
  cases o with
  | tokenless fault' =>
    cases h
    exact Iff.rfl
  | unanswered fault' =>
    cases h
    simp [Outcome.SaysGone, isNotFound_unanswered]
  | answered r =>
    obtain ⟨hfailure, message, rfl⟩ := checkStatus_eq_error h
    rw [isNotFound_response]
    exact ⟨fun hgone => ⟨hfailure, hgone⟩, And.right⟩

theorem Outcome.Finds.not_saysGone {right : Response → Prop} (h : o.Finds right) :
    ¬ o.SaysGone := by
  obtain ⟨r, rfl, hwell, -⟩ := h
  exact fun hgone => hgone.1 hwell

theorem Following.FailsAsGone.breaks (h : way.FailsAsGone r) : way.Breaks r := by
  cases way with
  | status address => exact Or.inr h.1
  | result address => exact h.elim

/-- A poll that does not break the operation off does not say that something is gone. -/
theorem Outcome.Finds.not_gone {right : Response → Prop} (h : o.Finds right)
    (hr : ∀ r, right r → ¬ way.Breaks r) : ¬ (o.SaysGone ∨ o.Finds way.FailsAsGone) := by
  rintro (hgone | hgone)
  · exact h.not_saysGone hgone
  · exact h.not_finds (fun r hright hfails => hr r hright hfails.breaks) hgone

/-- By its status an operation has failed, with an error or without one. -/
theorem operationStatus_eq_error {status : Nat} {v : Value}
    (h : operationStatus operation status v = .error fault) :
    let word := (v.textAt? ["status"]).getD "InProgress"
    (word = "Failed" ∨ word = "Canceled") ∧
      ((∃ error, v.get? "error" = some error ∧ fault = Fault.ofErrorMember status error) ∨
        v.get? "error" = none ∧
          fault = .operationFailed operation word "no error details returned") := by
  unfold operationStatus at h
  dsimp only at h
  split at h
  · cases h
  · split at h
    · rename_i hword
      refine ⟨hword, ?_⟩
      cases herror : v.get? "error" with
      | none =>
        rw [herror] at h
        exact Or.inr ⟨rfl, (Except.error.inj h).symm⟩
      | some error =>
        rw [herror] at h
        exact Or.inl ⟨error, rfl, (Except.error.inj h).symm⟩
    · cases h

theorem isNotFound_operationStatus {v : Value} (hholds : Holds r v)
    (hfound : r.status ≠ 404) (h : operationStatus operation r.status v = .error fault) :
    fault.isNotFound = true ↔ (Following.status address).FailsAsGone r := by
  obtain ⟨hword, hfault⟩ := operationStatus_eq_error h
  have hended : Says r "Failed" ∨ Says r "Canceled" :=
    hword.imp hholds.says_iff.2 hholds.says_iff.2
  -- the body is read once, so the error is the one that it holds
  have hgone : (Following.status address).FailsAsGone r ↔
      ∃ error, v.get? "error" = some error ∧ GoneCode ((error.textAt? ["code"]).getD "") := by
    constructor
    · rintro ⟨-, w, error, hw, hgone⟩
      cases hholds.unique hw
      exact ⟨error, hgone⟩
    · rintro ⟨error, hgone⟩
      exact ⟨hended, v, error, hholds, hgone⟩
  rw [hgone]
  rcases hfault with ⟨error, herror, rfl⟩ | ⟨hnone, rfl⟩
  · rw [Fault.ofErrorMember, isNotFound_response, or_iff_right hfound, herror]
    simp
  · rw [hnone]
    simp [Fault.isNotFound]

/-- What a fault says of an operation is what its status says. -/
theorem isNotFound_judge (hwell : r.Well)
    (h : way.judge operation r = .error fault) :
    fault.isNotFound = true ↔ way.FailsAsGone r := by
  have hfound : r.status ≠ 404 := by
    intro hstatus
    simp [Response.Well, hstatus] at hwell
  cases way with
  | status address =>
    replace h : judgeStatus operation r = .error fault := map_eq_error h
    unfold judgeStatus at h
    cases hread : readBody r with
    | error fault' =>
      rw [hread] at h
      cases h
      rw [isNotFound_readBody hread]
      refine iff_of_false Bool.false_ne_true ?_
      rintro ⟨-, v, -, hv, -⟩
      cases hread.symm.trans (readBody_eq_ok.2 hv)
    | ok v =>
      rw [hread] at h
      exact isNotFound_operationStatus (readBody_eq_ok.1 hread) hfound h
  | result address =>
    replace h : judgeResult r = .error fault := map_eq_error h
    unfold judgeResult at h
    split at h
    · cases h
    · rw [isNotFound_readBody (map_eq_error h)]
      exact iff_of_false Bool.false_ne_true id

/-- What a fault says of a poll. -/
theorem isNotFound_poll (h : o.check address >>= way.judge operation = .error fault) :
    fault.isNotFound = true ↔ o.SaysGone ∨ o.Finds way.FailsAsGone := by
  cases hcheck : o.check address with
  | error fault' =>
    rw [hcheck] at h
    cases h
    rw [isNotFound_check hcheck, or_iff_left (Outcome.not_finds hcheck)]
  | ok r =>
    rw [hcheck] at h
    have hfinds : o.Finds fun _ => True := Outcome.finds_of_check hcheck trivial
    rw [isNotFound_judge (Outcome.check_eq_ok.1 hcheck).2 h, Outcome.finds_iff hcheck,
      or_iff_right hfinds.not_saysGone]

end Faults

/-! ## Deletions -/

section Deletions

variable {m : ResourceManager} {operation : String}

/-- The deletion is confirmed: the answer to it says that the resource is gone, or it has come to
its end with success. -/
def Confirmed (first : Round) (polls : List Round) : Prop :=
  (∃ r, first.outcome = .answered r ∧ first.outcome.SaysGone) ∨ Succeeded first polls

/-- The last poll of an operation has failed for something that is gone. -/
def GoneAstray : Round → List Round → Prop :=
  Concluded (fun _ => False) fun way o => o.SaysGone ∨ o.Finds way.FailsAsGone

/-- The deletion is not confirmed, but something is said to be gone: by the fault that there was
instead of a token for it, or when its operation was polled last. -/
def Mistaken (first : Round) (polls : List Round) : Prop :=
  (∃ fault, first.outcome = .tokenless fault ∧ fault.isNotFound = true) ∨ GoneAstray first polls

theorem Outcome.saysGone_iff {o : Outcome} :
    o.SaysGone ↔ (∃ r, o = .answered r ∧ o.SaysGone) ∨
      ∃ fault, o = .tokenless fault ∧ fault.isNotFound = true := by
  cases o with
  | tokenless fault => simp [SaysGone]
  | unanswered fault => simp [SaysGone]
  | answered r => simp [SaysGone]

/-- A deletion counts as done if it is done, or if its fault says that something is gone. -/
theorem tolerated_eq_ok {result : Except Halt Unit} :
    (Halt.reply? result).map tolerateNotFound = some (.ok ()) ↔
      result = .ok () ∨ ∃ fault, result = .error (.fault fault) ∧ fault.isNotFound = true := by
  cases result with
  | ok _ => simp [Halt.reply?, tolerateNotFound]
  | error halt =>
    cases halt with
    | overflow => simp [Halt.reply?]
    | fault fault =>
      simp only [Halt.reply?, Option.map_some, tolerateNotFound]
      split <;> simp [*]

theorem not_goneAstray_nil (first : Round) : ¬ GoneAstray first [] := by
  unfold GoneAstray
  rw [concluded_nil]
  rintro ⟨r, -, -, -, hfalse⟩
  exact hfalse

/-- **Which faults of a deletion count as success.** -/
theorem Launched.tolerated {first : Round} {polls : List Round}
    {outcome : Except Halt (Option Value)} (h : Launched m operation first polls outcome) :
    (∃ fault, outcome = .error (.fault fault) ∧ fault.isNotFound = true) ↔
      first.outcome.SaysGone ∨ GoneAstray first polls := by
  have hlaunched := h
  cases h with
  | @refused fault hcheck =>
    rw [or_iff_left (not_goneAstray_nil first), ← isNotFound_check hcheck]
    simp
  | @settled r hcheck hfinal =>
    have hfinds : first.outcome.Finds Final := Outcome.finds_of_check hcheck hfinal
    rw [or_iff_left (not_goneAstray_nil first)]
    refine iff_of_false ?_ hfinds.not_saysGone
    rintro ⟨fault, hread, hgone⟩
    obtain ⟨_, hread, ⟨⟩⟩ := Halt.ofResult_eq_error.1 hread
    rw [isNotFound_readBody (map_eq_error hread)] at hgone
    cases hgone
  | @untimed r way hcheck haccepts hover =>
    have hfinds : first.outcome.Finds (Accepts · way) := Outcome.finds_of_check hcheck haccepts
    rw [or_iff_right hfinds.not_saysGone]
    exact iff_of_false (by simp) (not_goneAstray_nil first)
  | @accepted r way polls outcome hcheck haccepts hshown hpolls =>
    have hfinds : first.outcome.Finds (Accepts · way) := Outcome.finds_of_check hcheck haccepts
    -- the answer was a success, so what the fault says comes from the last poll
    obtain ⟨hover, -⟩ | ⟨-, before, last, rfl, -, -, hends⟩ := hlaunched.ends hfinds
    · exact absurd hover (Nat.not_lt.2 hshown)
    rw [or_iff_right hfinds.not_saysGone, GoneAstray, concluded_concat hfinds]
    cases hends with
    | late hlast _ =>
      refine iff_of_false ?_ (hlast.not_gone fun r => Following.GoesOn.not_breaks)
      rintro ⟨fault, hlate, hgone⟩
      rw [Halt.eq_timeout_of_late (Except.error.inj hlate)] at hgone
      cases hgone
    | succeeds hlast _ =>
      refine iff_of_false ?_ (hlast.not_gone fun r => Following.Succeeds.not_breaks)
      rintro ⟨fault, ⟨⟩, -⟩
    | breaks _ hfault =>
      rw [← isNotFound_poll hfault]
      simp

/-- What is known of a deletion that tolerates that the resource is gone: its rounds, and when it
counts as done. -/
theorem delete_tells (operation path version : String) :
    (m.delete operation path version).Tells m fun _ rounds result _ =>
      ∃ first polls, rounds = first :: polls ∧
        first.query = ⟨.delete, m.address path version, none⟩ ∧
        Course m operation false first polls [] result ∧
        ((Halt.reply? result).map tolerateNotFound = some (.ok ()) ↔
          Confirmed first polls ∨ Mistaken first polls) := by
  rw [delete_eq, bind_pure_comp]
  refine ((launch_tells operation _).map _).mono ?_
  rintro begun rounds _ ended ⟨outcome, ⟨first, polls, rfl, hquery, hlaunched⟩, rfl⟩
  refine ⟨first, polls, rfl, hquery, hlaunched.course ?_, ?_⟩
  · cases outcome with
    | ok x => exact .taken () nofun
    | error halt => exact .failed halt
  · have hok : (fun _ => ()) <$> outcome = .ok () ↔ Succeeded first polls := by
      rw [← hlaunched.ok_iff]
      cases outcome with
      | ok x => exact iff_of_true rfl ⟨x, rfl⟩
      | error halt => exact iff_of_false nofun nofun
    have herror : (∃ fault, (fun _ => ()) <$> outcome = .error (.fault fault) ∧
        fault.isNotFound = true) ↔ first.outcome.SaysGone ∨ GoneAstray first polls := by
      rw [← hlaunched.tolerated]
      cases outcome with
      | ok x => exact iff_of_false nofun nofun
      | error halt => simp [Functor.map, Except.map]
    rw [tolerated_eq_ok, hok, herror, Outcome.saysGone_iff, Confirmed, Mistaken, or_assoc,
      or_assoc, or_left_comm]

end Deletions

end ResourceManager

/-! ## Steps of taking storage down -/

theorem runFrail_perform {σ : Type} (replier : FrailReplier σ) (c : Call) (s : σ) :
    (Action.perform c).run.runFrail replier s = replier c s := by
  rw [Action.perform, ExceptT.run, Program.runFrail]
  rcases replier c s with ⟨_ | reply, t⟩ <;> rfl

theorem runFrail_tolerant {σ : Type} (replier : FrailReplier σ) (a : Action Unit) (s : σ) :
    a.tolerant.run.runFrail replier s =
      ((a.run.runFrail replier s).1.map tolerateNotFound, (a.run.runFrail replier s).2) := by
  show (a.run >>= fun e => pure (tolerateNotFound e)).runFrail replier s = _
  rw [Program.runFrail_bind]
  rcases a.run.runFrail replier s with ⟨_ | e, t⟩ <;> rfl

/-- What the resource manager deletes when storage is taken down. -/
inductive Deletion
  | account (name : String)
  | endpoint (name : String)
  | zoneGroup (endpointName group : String)
  | aRecord (zone name : String)
  | link (zone name : String)

namespace Deletion

open ResourceManager

variable (m : ResourceManager)

/-- The deletion, for which it counts as success that the resource is gone. -/
def step : Deletion → Action Unit
  | account name => .tolerant (.perform (.deleteAccount name))
  | endpoint name => .tolerant (.perform (.deleteEndpoint name))
  | zoneGroup e group => .tolerant (.perform (.deleteZoneGroup e group))
  | aRecord zone name => .tolerant (.perform (.deleteARecord zone name))
  | link zone name => .tolerant (.perform (.deleteLink zone name))

/-- What the operation is called. -/
def operation : Deletion → String
  | account _ => "delete storage account"
  | endpoint _ => "delete private endpoint"
  | zoneGroup .. => "delete private dns zone group"
  | aRecord .. => "delete record set"
  | link .. => "delete virtual network link"

/-- The path of what is deleted. -/
def path : Deletion → String
  | account name => m.accountPath name
  | endpoint name => m.endpointPath name
  | zoneGroup e group => m.zoneGroupPath e group
  | aRecord zone name => m.aRecordPath zone name
  | link zone name => m.linkPath zone name

/-- The version of the interface that deletes it. -/
def version : Deletion → String
  | account _ => storageVersion
  | endpoint _ | zoneGroup .. => networkVersion
  | aRecord .. | link .. => dnsVersion

/-- A step is one deletion. -/
theorem run_step (d : Deletion) (r : Remote) :
    d.step.run.runFrail Remote.reply { r with manager := some m } =
      let deleted := m.delete d.operation (d.path m) d.version r.session
      ((Halt.reply? deleted.1).map tolerateNotFound,
        { r with session := deleted.2, manager := some m }) := by
  cases d <;>
  · rw [step, runFrail_tolerant, runFrail_perform]
    rfl

end Deletion

/-- **When a deletion counts as done.** It is confirmed, or there was no token for it, or the last
poll of its operation has failed, for something that is gone, which confirms nothing. -/
theorem deletion_is_done_iff (d : Deletion) (m : ResourceManager) (r : Remote) :
    let after := d.step.run.runFrail Remote.reply { r with manager := some m }
    ∃ first polls result, first.query = ⟨.delete, m.address (d.path m) d.version, none⟩ ∧
      m.Talk r.session (first :: polls) after.2.session ∧
      m.Course d.operation false first polls [] result ∧
      after.1 = (Halt.reply? result).map tolerateNotFound ∧
      (after.1 = some (.ok ()) ↔
        ResourceManager.Confirmed first polls ∨ ResourceManager.Mistaken first polls) := by
  intro after
  obtain ⟨_, htalk, first, polls, rfl, hquery, hcourse, hdone⟩ :=
    ResourceManager.delete_tells d.operation (d.path m) d.version r.session
  have hafter : after = _ := d.run_step m r
  rw [hafter]
  exact ⟨first, polls, _, hquery, htalk, hcourse, rfl, hdone⟩

/-- **An operation that is lost takes the account with it.** The deletion of the account is
accepted, and its operation is not found when it is polled. Nobody says that the account is gone,
but the record forgets it. -/
theorem lost_operation_forgets_account :
    let cloud : CloudEndpoints :=
      { resourceManager := "http://management.test", activeDirectory := "http://login.test"
        tokenAudience := "http://management.test/", storageSuffix := "core.test" }
    let settings : Settings :=
      { subscription := "sub", tenant := "tenant", client := "client"
        clientSecret := some "secret", resourceGroup := "rg", region := "eastus"
        customCloud := some cloud }
    let config : StorageConfig := { account := "acct1", cloud := "AzureStackCloud" }
    let token : Response :=
      { status := 200, headers := []
        body := .complete (String.join ["\x7b\"access_token\":\"TT\",",
          "\"token_type\":\"Bearer\",\"expires_in\":3600\x7d"]) }
    let accepted : Response :=
      { status := 202, headers := [("azure-asyncoperation", "http://ops.test/op/1")]
        body := .complete "" }
    let lost : Response := { status := 404, headers := [], body := .complete "" }
    let remote : Remote :=
      { session := { server := { script := [.answer token, .answer accepted, .answer lost] } }
        poll := {} }
    let after := (Storage.remove settings .epoch
      ⟨config, { spec := config, management := some .managed }⟩).runFrail Remote.reply remote
    (after.1.map (fun ended => (ended.1.toOption, ended.2.state.spec.account)) =
        some (some (), "") ∧
      after.2.session.server.requests.reverse.map (fun q => (q.method, q.url)) =
        [(.post, "http://login.test/tenant/oauth2/v2.0/token"),
          (.delete, "http://management.test/subscriptions/sub/resourceGroups/rg/providers/" ++
            "Microsoft.Storage/storageAccounts/acct1?api-version=2023-01-01"),
          (.get, "http://ops.test/op/1")]) ∧
      ∀ deletion poll ended ended',
        ¬ ResourceManager.Confirmed ⟨deletion, .answered accepted, ended⟩
          [⟨poll, .answered lost, ended'⟩] := by
  intro cloud settings config token accepted lost remote after
  refine ⟨by decide +kernel, ?_⟩
  intro deletion poll ended ended'
  have haccepts : ResourceManager.Accepts accepted (.status "http://ops.test/op/1") :=
    ResourceManager.following?_eq_some.1 (by decide +kernel)
  have hfinds : (ResourceManager.Outcome.answered accepted).Finds
      (ResourceManager.Accepts · (.status "http://ops.test/op/1")) :=
    ⟨_, rfl, ⟨by decide, by decide⟩, haccepts⟩
  rintro (⟨_, -, hgone⟩ | hsucceeded)
  · exact hfinds.not_saysGone hgone
  · have hpolled : ResourceManager.Succeeded ⟨deletion, .answered accepted, ended⟩
        ([] ++ [⟨poll, .answered lost, ended'⟩]) := hsucceeded
    obtain ⟨_, ⟨⟩, hlost, -⟩ := (ResourceManager.concluded_concat hfinds).1 hpolled
    exact absurd hlost.2 (by decide)

end RegistryStorage
