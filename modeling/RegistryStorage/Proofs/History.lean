import RegistryStorage.Proofs.Journal
import RegistryStorage.Lifecycle.Create
import RegistryStorage.Lifecycle.Inspect
import RegistryStorage.Lifecycle.Remove
import RegistryStorage.Provider.Inventory

/-!
Histories.

A `World` is what stays between invocations: the record, and the provider with the journal of all
calls made to it. Each `Turn` is one invocation, by a driver that works on a copy of the record's
`spec`, together with the refusals it meets on its way; a history is a list of turns. The two
lemmas at the end are all that the theorems about histories need: what an invocation ensures
against honest conduct is true of every turn (`World.take_of_ensures`), and what every turn keeps
is true after every history (`World.after_keeps`).
-/

set_option autoImplicit false

namespace RegistryStorage

/-- What stays between invocations. -/
structure World where
  state : StorageState
  scene : Scene Inventory

/-- A world in which nothing has been called yet. -/
def World.initial (state : StorageState) (inventory : Inventory) : World := ⟨state, ⟨inventory, []⟩⟩

/-- What an invocation is asked to do. -/
inductive Order
  | create (infra : Infrastructure) (fresh : Fresh)
  | remove
  | checkExists

/-- The operation that an order stands for. -/
def Order.invocation (settings : Settings) (now : Moment) : Order → Invocation Unit
  | create infra fresh => Storage.create settings infra fresh now
  | remove => Storage.remove settings now
  | checkExists => do
    let _ ← Storage.checkExists settings now

/-- One invocation: what is asked for, when, and which calls are refused. -/
structure Turn where
  order : Order
  now : Moment
  disturbance : Disturbance := []

/-- No refusal in the turn claims that a resource does not exist. -/
def Turn.Honest (t : Turn) : Prop := t.disturbance.Honest

instance Turn.decidableHonest (t : Turn) : Decidable t.Honest :=
  inferInstanceAs (Decidable t.disturbance.Honest)

/-- Settings with the credentials of a cluster, to try things on. -/
def clusterSettings : Settings where
  subscription := "sub"
  tenant := "tenant"
  client := "client"
  clientSecret := some "secret"
  resourceGroup := "mycluster-rg"
  region := "eastus"

theorem clusterSettings_credentials :
    clusterSettings.credentials = .ok (.cluster clusterSettings.cluster) := rfl

namespace World

variable {settings : Settings} {home : Scope} {w : World} {t : Turn}

/-- Runs the invocation of a turn on a copy of the record's `spec`. -/
def outcome (settings : Settings) (home : Scope) (w : World) (t : Turn) :
    (Except Fault Unit × Work) × Scene Inventory :=
  ((t.order.invocation settings t.now).start ⟨w.state.spec, w.state⟩).attend
    (Inventory.reply home) t.disturbance w.scene

/-- Takes a turn: its result, and the world afterwards. -/
def take (settings : Settings) (home : Scope) (w : World) (t : Turn) : Except Fault Unit × World :=
  let outcome := w.outcome settings home t
  (outcome.1.1, ⟨outcome.1.2.state, outcome.2⟩)

/-- The world after a history. -/
def after (settings : Settings) (home : Scope) (w : World) (turns : List Turn) : World :=
  turns.foldl (fun w t => (w.take settings home t).2) w

@[simp] theorem after_nil : w.after settings home [] = w := rfl

@[simp] theorem after_cons (turns : List Turn) :
    w.after settings home (t :: turns) = (w.take settings home t).2.after settings home turns := rfl

/-- **What an invocation ensures against honest conduct is true of every turn.** -/
theorem take_of_ensures {Q : World → Prop} {E : Fault → World → Prop} (ht : t.Honest)
    (h : (t.order.invocation settings t.now).Ensures (Inventory.reply home).honest.journaled
      ⟨w.state.spec, w.state⟩ w.scene (fun _ v s => Q ⟨v.state, s⟩) fun f v s => E f ⟨v.state, s⟩) :
    match (w.take settings home t).1 with
    | .ok _ => Q (w.take settings home t).2
    | .error f => E f (w.take settings home t).2 := by
  have hrun := Program.Ensures.attend h ht
  unfold take outcome
  revert hrun
  generalize Program.attend _ _ _ _ = o
  obtain ⟨⟨_ | _, v⟩, s⟩ := o
  · exact id
  · exact id

/-- What an invocation ensures against the inventory itself is true of a turn without refusals. -/
theorem take_undisturbed {Q : World → Prop} {E : Fault → World → Prop} (ht : t.disturbance = [])
    (h : (t.order.invocation settings t.now).Ensures (Inventory.reply home).conduct.journaled
      ⟨w.state.spec, w.state⟩ w.scene (fun _ v s => Q ⟨v.state, s⟩) fun f v s => E f ⟨v.state, s⟩) :
    match (w.take settings home t).1 with
    | .ok _ => Q (w.take settings home t).2
    | .error f => E f (w.take settings home t).2 := by
  have hrun := Program.Ensures.attend_nil h
  unfold take outcome
  rw [ht]
  revert hrun
  generalize Program.attend _ _ _ _ = o
  obtain ⟨⟨_ | _, v⟩, s⟩ := o
  · exact id
  · exact id

/-- What an invocation ensures against an inventory that refuses calls, if it ends well, is true of
every turn that ends well with refusals of that sort. -/
theorem take_ended {P : Fault → Prop} {Q : World → Prop} {v : World}
    (hended : w.take settings home t = (.ok (), v)) (ht : ∀ f, some f ∈ t.disturbance → P f)
    (h : (t.order.invocation settings t.now).Ensures ((Inventory.reply home).refusable P).journaled
      ⟨w.state.spec, w.state⟩ w.scene (fun _ v s => Q ⟨v.state, s⟩) fun _ _ _ => True) : Q v := by
  obtain ⟨hresult, rfl⟩ := Prod.mk.inj hended
  exact (h.attend_refused ht rfl).1 () hresult

/-- What holds of the world however a turn ends. -/
theorem take_keeps {P : World → Prop} (ht : t.Honest)
    (h : (t.order.invocation settings t.now).Ensures (Inventory.reply home).honest.journaled
      ⟨w.state.spec, w.state⟩ w.scene (fun _ v s => P ⟨v.state, s⟩) fun _ v s => P ⟨v.state, s⟩) :
    P (w.take settings home t).2 := by
  have htake := take_of_ensures (Q := P) (E := fun _ => P) ht h
  split at htake <;> exact htake

/-- **What every turn keeps is true after every history.** -/
theorem after_keeps {P : World → Prop} {turns : List Turn}
    (hstep : ∀ w, P w → ∀ t ∈ turns, P (w.take settings home t).2) (hw : P w) :
    P (w.after settings home turns) := by
  -- on the turns; what is kept holds of the world that each of them starts from
  induction turns generalizing w with
  | nil =>
    rw [after_nil]
    exact hw
  | cons t turns ih =>
    rw [after_cons]
    refine ih (fun v hv u hu => hstep v hv u (List.mem_cons_of_mem _ hu)) ?_
    exact hstep w hw t List.mem_cons_self

end World

end RegistryStorage
