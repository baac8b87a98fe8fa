import RegistryStorage.Lifecycle.Invocation

/-!
What a program does whatever the provider does.

A `Conduct` says which replies a provider may give to a call, and in which state it may be left.
It may allow many, so one conduct stands for a whole family of providers: one that answers from
memory, one that also refuses calls when it likes, one that does anything at all. `Ensures` is
the weakest precondition of a program against a conduct, and the rules below take a program
apart along its own text: one rule for each way in which the library puts steps together. A
step that may fail has two postconditions, one for its value and one for its fault, so that no
rule has to look into a result.

The link to what runs is `Program.Ensures.run`: a replier that keeps to the conduct brings the
program to an end of which the postcondition holds.
-/

set_option autoImplicit false

namespace RegistryStorage

variable {σ α β : Type}

/-- What a provider may do: reply to a call made in one state, and go on in another. -/
abbrev Conduct (σ : Type) : Type := (c : Call) → σ → Reply c → σ → Prop

/-- The conduct of a single replier. -/
def Replier.conduct (r : Replier σ) : Conduct σ := fun c s reply t => r c s = (reply, t)

/-! ## Programs -/

namespace Program

/-- Whatever the provider does, the program ends with a value and in a state of which `Q` holds. -/
def Ensures (R : Conduct σ) : Program α → σ → (α → σ → Prop) → Prop
  | done a, s, Q => Q a s
  | call c next, s, Q => ∀ reply t, R c s reply t → (next reply).Ensures R t Q

variable {R R' : Conduct σ} {s : σ} {p : Program α} {Q Q' : α → σ → Prop}

@[simp] theorem ensures_pure (a : α) : (pure a : Program α).Ensures R s Q ↔ Q a s := Iff.rfl

/-- **Two programs in a row**: the first has to end where the second can take over. -/
@[simp] theorem ensures_bind (f : α → Program β) {Q : β → σ → Prop} :
    (p >>= f).Ensures R s Q ↔ p.Ensures R s fun a t => (f a).Ensures R t Q := by
  show (p.bind f).Ensures R s Q ↔ _
  induction p generalizing s with
  | done a => exact Iff.rfl
  | call c next ih =>
    constructor
    · intro h reply t ht
      exact (ih reply).1 (h reply t ht)
    · intro h reply t ht
      exact (ih reply).2 (h reply t ht)

theorem Ensures.mono (h : p.Ensures R s Q) (hQ : ∀ a t, Q a t → Q' a t) : p.Ensures R s Q' := by
  induction p generalizing s with
  | done a => exact hQ a s h
  | call c next ih => exact fun reply t ht => ih reply (h reply t ht)

theorem Ensures.and (h : p.Ensures R s Q) (h' : p.Ensures R s Q') :
    p.Ensures R s fun a t => Q a t ∧ Q' a t := by
  induction p generalizing s with
  | done a => exact ⟨h, h'⟩
  | call c next ih => exact fun reply t ht => ih reply (h reply t ht) (h' reply t ht)

/-- A provider that may do less does nothing new. -/
theorem Ensures.of_conduct (hR : ∀ c s reply t, R' c s reply t → R c s reply t)
    (h : p.Ensures R s Q) : p.Ensures R' s Q := by
  induction p generalizing s with
  | done a => exact h
  | call c next ih => exact fun reply t ht => ih reply (h reply t (hR c s reply t ht))

/-- **A property that every call keeps is kept by every program**: the induction over the calls
of a program, made once. -/
theorem Ensures.of_kept {I : σ → Prop} (hI : ∀ c s reply t, R c s reply t → I s → I t) (hs : I s) :
    p.Ensures R s fun _ t => I t := by
  induction p generalizing s with
  | done a => exact hs
  | call c next ih => exact fun reply t ht => ih reply (hI c s reply t ht hs)

/-- What is ensured against a replier's own conduct is true of the run. -/
theorem Ensures.run {r : Replier σ} (h : p.Ensures r.conduct s Q) :
    Q (p.run r s).1 (p.run r s).2 := by
  induction p generalizing s with
  | done a => exact h
  | call c next ih => exact ih _ (h _ _ rfl)

end Program

/-! ## Steps that may fail -/

namespace Action

/-- Whatever the provider does, the step ends with a value of which `Q` holds or with a fault of
which `E` holds. -/
def Ensures (R : Conduct σ) (a : Action α) (s : σ) (Q : α → σ → Prop) (E : Fault → σ → Prop) :
    Prop :=
  Program.Ensures R a.run s fun result t =>
    match result with
    | .ok x => Q x t
    | .error fault => E fault t

variable {R : Conduct σ} {s : σ} {a : Action α} {Q Q' : α → σ → Prop} {E E' : Fault → σ → Prop}

@[simp] theorem ensures_pure (x : α) : (pure x : Action α).Ensures R s Q E ↔ Q x s := Iff.rfl

@[simp] theorem ensures_throw (fault : Fault) :
    (throw fault : Action α).Ensures R s Q E ↔ E fault s := Iff.rfl

@[simp] theorem ensures_bind (f : α → Action β) {Q : β → σ → Prop} :
    (a >>= f).Ensures R s Q E ↔ a.Ensures R s (fun x t => (f x).Ensures R t Q E) E := by
  show Program.Ensures R (a.run >>= ExceptT.bindCont f) s _ ↔ _
  rw [Program.ensures_bind]
  constructor <;> intro h <;> refine h.mono fun result t ht => ?_
  · cases result <;> exact ht
  · cases result <;> exact ht

@[simp] theorem ensures_ofResult (e : Except Fault α) :
    (ofResult e).Ensures R s Q E ↔ (∀ x, e = .ok x → Q x s) ∧ ∀ f, e = .error f → E f s := by
  cases e with
  | ok x => exact ⟨fun h => ⟨by rintro _ ⟨⟩; exact h, by rintro _ ⟨⟩⟩, fun h => h.1 x rfl⟩
  | error f => exact ⟨fun h => ⟨by rintro _ ⟨⟩, by rintro _ ⟨⟩; exact h⟩, fun h => h.2 f rfl⟩

/-- A step made by looking at the result of another program. -/
theorem ensures_mk {γ : Type} (p : Program γ) (f : γ → Program (Except Fault α)) :
    Action.Ensures R (ExceptT.mk (p >>= f)) s Q E ↔
      p.Ensures R s fun x t => Action.Ensures R (ExceptT.mk (f x)) t Q E :=
  Program.ensures_bind f

@[simp] theorem ensures_mk_pure (e : Except Fault α) :
    Action.Ensures R (ExceptT.mk (pure e)) s Q E ↔
      (∀ x, e = .ok x → Q x s) ∧ ∀ f, e = .error f → E f s :=
  ensures_ofResult e

/-- The program under a step, for steps that look at its result themselves. -/
theorem ensures_run {Q : Except Fault α → σ → Prop} :
    Program.Ensures R a.run s Q ↔
      a.Ensures R s (fun x t => Q (.ok x) t) fun f t => Q (.error f) t := by
  constructor <;> intro h <;> refine h.mono fun result t ht => ?_
  · cases result <;> exact ht
  · cases result <;> exact ht

theorem Ensures.mono (h : a.Ensures R s Q E) (hQ : ∀ x t, Q x t → Q' x t)
    (hE : ∀ f t, E f t → E' f t) : a.Ensures R s Q' E' := by
  refine Program.Ensures.mono h fun result t ht => ?_
  cases result with
  | ok x => exact hQ x t ht
  | error f => exact hE f t ht

theorem ensures_congr (hQ : ∀ x t, Q x t ↔ Q' x t) (hE : ∀ f t, E f t ↔ E' f t) :
    a.Ensures R s Q E ↔ a.Ensures R s Q' E' :=
  ⟨fun h => h.mono (fun x t => (hQ x t).1) fun f t => (hE f t).1,
    fun h => h.mono (fun x t => (hQ x t).2) fun f t => (hE f t).2⟩

@[simp] theorem ensures_tolerant (a : Action Unit) {Q : Unit → σ → Prop} :
    (tolerant a).Ensures R s Q E ↔
      a.Ensures R s Q fun f t => if f.isNotFound then Q () t else E f t := by
  unfold tolerant
  rw [ensures_mk, ensures_run]
  refine ensures_congr (fun x t => Iff.rfl) fun f t => ?_
  by_cases hf : f.isNotFound = true
  · rw [tolerateNotFound, if_pos hf, if_pos hf]
    exact Iff.rfl
  · rw [tolerateNotFound, if_neg hf, if_neg hf]
    exact Iff.rfl

theorem Ensures.and (h : a.Ensures R s Q E) (h' : a.Ensures R s Q' E') :
    a.Ensures R s (fun x t => Q x t ∧ Q' x t) fun f t => E f t ∧ E' f t := by
  refine Program.Ensures.mono (Program.Ensures.and h h') fun result t ht => ?_
  cases result <;> exact ht

theorem Ensures.of_kept {I : σ → Prop} (hI : ∀ c s reply t, R c s reply t → I s → I t) (hs : I s) :
    a.Ensures R s (fun _ t => I t) fun _ t => I t := by
  refine (Program.Ensures.of_kept hI hs).mono fun result t ht => ?_
  cases result <;> exact ht

/-- What holds in any case needs no look at the step. -/
theorem Ensures.of_forall (hQ : ∀ x t, Q x t) (hE : ∀ f t, E f t) : a.Ensures R s Q E :=
  (Ensures.of_kept (I := fun _ => True) (fun _ _ _ _ _ h => h) trivial).mono (fun x t _ => hQ x t)
    fun f t _ => hE f t

@[simp] theorem ensures_ite {p : Prop} [Decidable p] (a b : Action α) :
    (if p then a else b).Ensures R s Q E ↔ if p then a.Ensures R s Q E else b.Ensures R s Q E := by
  split <;> exact Iff.rfl

/-- A program that cannot fail, as a step. -/
theorem ensures_lift (p : Program α) : (liftM p : Action α).Ensures R s Q E ↔ p.Ensures R s Q := by
  show Program.Ensures R (Except.ok <$> p) s _ ↔ _
  rw [map_eq_pure_bind, Program.ensures_bind]
  exact Iff.rfl

theorem ensures_perform (c : Call) {Q : c.Answer → σ → Prop} :
    (perform c).Ensures R s Q E ↔ ∀ reply t, R c s reply t →
      (∀ x, reply = .ok x → Q x t) ∧ ∀ f, reply = .error f → E f t := by
  constructor
  · intro h reply t ht
    exact (ensures_ofResult (R := R) reply).1 (h reply t ht)
  · intro h reply t ht
    exact (ensures_ofResult (R := R) reply).2 (h reply t ht)

/-! Steps that keep a property, whatever the provider does and however they end. -/

/-- The step ends in a state with the property if it starts in one. -/
def Keeps (R : Conduct σ) (I : σ → Prop) (a : Action α) : Prop :=
  ∀ s, I s → a.Ensures R s (fun _ t => I t) fun _ t => I t

variable {I : σ → Prop}

theorem keeps_pure (x : α) : Keeps R I (pure x : Action α) := fun _ hs => hs

theorem keeps_ofResult (e : Except Fault α) : Keeps R I (ofResult e) := fun _ hs =>
  (ensures_ofResult e).2 ⟨fun _ _ => hs, fun _ _ => hs⟩

theorem Keeps.tolerant {a : Action Unit} (ha : Keeps R I a) : Keeps R I (tolerant a) := fun s hs =>
  (ensures_tolerant a).2 ((ha s hs).mono (fun _ _ ht => ht) fun _ _ ht => by split <;> exact ht)

theorem Keeps.bind {f : α → Action β} (ha : Keeps R I a) (hf : ∀ x, Keeps R I (f x)) :
    Keeps R I (a >>= f) := fun s hs =>
  (ensures_bind f).2 ((ha s hs).mono (fun x t ht => hf x t ht) fun _ _ ht => ht)

end Action

/-! ## Invocations -/

/-- What an invocation leaves of its work when a step fails: the condition says what was being
done and why it failed. -/
def Work.blame (now : Moment) (reason : StorageReason) (doing : String) (fault : Fault) (w : Work) :
    Work :=
  { w with state := w.state.report now .unknown reason (doing ++ fault.message) }

/-- What an invocation leaves of its work when a step fails after names were chosen: the names,
and that storage which was created is the program's own. -/
def Work.save (created : Bool) (w : Work) : Work :=
  { w with state := { w.state with
    spec := w.config
    management :=
      if created && w.state.management.isNone then some .managed else w.state.management } }

/-- The work with a change made to all its configurations. -/
def Work.change (f : StorageConfig → StorageConfig) (w : Work) : Work :=
  { config := f w.config, state := w.state.mapConfigs f }

theorem Work.change_change (f g : StorageConfig → StorageConfig) (w : Work) :
    (w.change f).change g = w.change fun c => g (f c) := by
  simp only [Work.change, StorageState.mapConfigs, Option.map_map]
  rfl

namespace Invocation

/-- Whatever the provider does, the invocation ends with a value of which `Q` holds or with a
fault of which `E` holds, of the work as well as of the provider. -/
def Ensures (R : Conduct σ) (x : Invocation α) (w : Work) (s : σ) (Q : α → Work → σ → Prop)
    (E : Fault → Work → σ → Prop) : Prop :=
  Program.Ensures R (x.start w) s fun result t =>
    match result.1 with
    | .ok a => Q a result.2 t
    | .error fault => E fault result.2 t

variable {R : Conduct σ} {s : σ} {w : Work} {x : Invocation α}
variable {Q Q' : α → Work → σ → Prop} {E E' : Fault → Work → σ → Prop}

@[simp] theorem ensures_pure (a : α) : (pure a : Invocation α).Ensures R w s Q E ↔ Q a w s :=
  Iff.rfl

@[simp] theorem ensures_throw (fault : Fault) :
    (throw fault : Invocation α).Ensures R w s Q E ↔ E fault w s := Iff.rfl

@[simp] theorem ensures_bind (f : α → Invocation β) {Q : β → Work → σ → Prop} :
    (x >>= f).Ensures R w s Q E ↔
      x.Ensures R w s (fun a v t => (f a).Ensures R v t Q E) E := by
  show Program.Ensures R (x.start w >>= fun result => ExceptT.bindCont f result.1 result.2) s _ ↔ _
  rw [Program.ensures_bind]
  constructor <;> intro h <;> refine h.mono fun result t ht => ?_
  · obtain ⟨result, v⟩ := result
    cases result <;> exact ht
  · obtain ⟨result, v⟩ := result
    cases result <;> exact ht

@[simp] theorem ensures_get {Q : Work → Work → σ → Prop} :
    (get : Invocation Work).Ensures R w s Q E ↔ Q w w s := Iff.rfl

@[simp] theorem ensures_modify (f : Work → Work) {Q : PUnit → Work → σ → Prop} :
    (modify f : Invocation PUnit).Ensures R w s Q E ↔ Q ⟨⟩ (f w) s := Iff.rfl

@[simp] theorem ensures_modifyConfig (f : StorageConfig → StorageConfig)
    {Q : Unit → Work → σ → Prop} :
    (modifyConfig f).Ensures R w s Q E ↔ Q () { w with config := f w.config } s := Iff.rfl

@[simp] theorem ensures_modifyState (f : StorageState → StorageState)
    {Q : Unit → Work → σ → Prop} :
    (modifyState f).Ensures R w s Q E ↔ Q () { w with state := f w.state } s := Iff.rfl

@[simp] theorem ensures_report (now : Moment) (status : ConditionStatus) (reason : StorageReason)
    (message : String) {Q : Unit → Work → σ → Prop} :
    (report now status reason message).Ensures R w s Q E ↔
      Q () { w with state := w.state.report now status reason message } s := Iff.rfl

@[simp] theorem ensures_record (change : StorageConfig → StorageConfig)
    {Q : Unit → Work → σ → Prop} :
    (record change).Ensures R w s Q E ↔ Q () (w.change change) s := Iff.rfl

@[simp] theorem ensures_ofResult (e : Except Fault α) :
    (ofResult e).Ensures R w s Q E ↔
      (∀ a, e = .ok a → Q a w s) ∧ ∀ f, e = .error f → E f w s := by
  cases e with
  | ok a => exact ⟨fun h => ⟨by rintro _ ⟨⟩; exact h, by rintro _ ⟨⟩⟩, fun h => h.1 a rfl⟩
  | error f => exact ⟨fun h => ⟨by rintro _ ⟨⟩, by rintro _ ⟨⟩; exact h⟩, fun h => h.2 f rfl⟩

@[simp] theorem ensures_act (a : Action α) :
    (act a).Ensures R w s Q E ↔
      a.Ensures R s (fun x t => Q x w t) fun f t => E f w t := by
  show Program.Ensures R (a.run >>= fun result => pure (result, w)) s _ ↔ _
  rw [Program.ensures_bind]
  exact Iff.rfl

/-- What is done about a fault is done before the fault goes on. -/
theorem ensures_onFault (f : Fault → Invocation Unit) :
    (x.onFault f).Ensures R w s Q E ↔
      x.Ensures R w s Q fun fault v t => (f fault).Ensures R v t (fun _ => E fault) E := by
  -- a run that ends well is left as it is, so only the other one has something to do
  have hrun : (x.onFault f).start w = x.start w >>= fun result =>
      match result.1 with
      | .ok a => pure (.ok a, result.2)
      | .error fault => Invocation.start (do f fault; throw fault) result.2 := by
    refine congrArg (x.start w >>= ·) (funext fun result => ?_)
    obtain ⟨result, v⟩ := result
    cases result <;> rfl
  unfold Ensures
  rw [hrun, Program.ensures_bind]
  constructor <;> intro h <;> refine h.mono fun result t ht => ?_
  · obtain ⟨result, v⟩ := result
    cases result with
    | ok a => exact ht
    | error fault => exact (ensures_bind (x := f fault) _).1 ht
  · obtain ⟨result, v⟩ := result
    cases result with
    | ok a => exact ht
    | error fault => exact (ensures_bind (x := f fault) fun _ => throw fault).2 ht

@[simp] theorem ensures_blaming (now : Moment) (reason : StorageReason) (doing : String) :
    (blaming now reason doing x).Ensures R w s Q E ↔
      x.Ensures R w s Q fun fault v t => E fault (v.blame now reason doing fault) t :=
  ensures_onFault _

@[simp] theorem ensures_keeping (created : Bool) :
    (keeping created x).Ensures R w s Q E ↔
      x.Ensures R w s Q fun fault v t => E fault (v.save created) t :=
  ensures_onFault _

theorem Ensures.mono (h : x.Ensures R w s Q E) (hQ : ∀ a v t, Q a v t → Q' a v t)
    (hE : ∀ f v t, E f v t → E' f v t) : x.Ensures R w s Q' E' := by
  refine Program.Ensures.mono h fun result t ht => ?_
  obtain ⟨result, v⟩ := result
  cases result with
  | ok a => exact hQ a v t ht
  | error f => exact hE f v t ht

theorem Ensures.of_kept {I : σ → Prop} (hI : ∀ c s reply t, R c s reply t → I s → I t) (hs : I s) :
    x.Ensures R w s (fun _ _ t => I t) fun _ _ t => I t := by
  refine (Program.Ensures.of_kept hI hs).mono fun result t ht => ?_
  obtain ⟨result, v⟩ := result
  cases result <;> exact ht

/-- What holds in any case needs no look at the invocation. -/
theorem Ensures.of_forall (hQ : ∀ a v t, Q a v t) (hE : ∀ f v t, E f v t) : x.Ensures R w s Q E :=
  (Ensures.of_kept (I := fun _ => True) (fun _ _ _ _ _ h => h) trivial).mono
    (fun a v t _ => hQ a v t) fun f v t _ => hE f v t

theorem Ensures.and (h : x.Ensures R w s Q E) (h' : x.Ensures R w s Q' E') :
    x.Ensures R w s (fun a v t => Q a v t ∧ Q' a v t) fun f v t => E f v t ∧ E' f v t := by
  refine Program.Ensures.mono (Program.Ensures.and h h') fun result t ht => ?_
  obtain ⟨result, v⟩ := result
  cases result <;> exact ht

end Invocation

end RegistryStorage
