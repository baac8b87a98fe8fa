import RegistryStorage.Proofs.Conduct

/-!
Journals, and providers that refuse calls.

A `Scene` is a provider together with the journal of the calls made to it, and `journaled` keeps
that journal for a conduct as well as for a replier. `disturbed` runs a replier under a
`Disturbance`, which says of each call in turn whether it is refused; a refused call does not
reach the provider and so has no effect. A program knows nothing of its provider but the
replies, so these lists stand for every way of refusing calls, also one that depends on what
happened before.

`Replier.refusable` is the conduct that all those runs have in common, for refusals of some sort,
and `Replier.honest` is the one where no refusal claims that a resource does not exist. Main
statement: what is ensured against them is true of every disturbed run
(`Program.Ensures.attend_refused`, `Program.Ensures.attend`).
-/

set_option autoImplicit false

namespace RegistryStorage

variable {σ α : Type}

/-! ## Journals -/

/-- A call that was made, and the fault it was answered with, if any. -/
structure Entry where
  call : Call
  fault : Option Fault
deriving DecidableEq, Inhabited

/-- The calls that were made, the last one first. -/
abbrev Journal : Type := List Entry

/-- The fault of a result. -/
def faultOf : Except Fault α → Option Fault
  | .ok _ => none
  | .error fault => some fault

@[simp] theorem faultOf_ok (a : α) : faultOf (.ok a : Except Fault α) = none := rfl

/-- A provider, and the calls that were made to it. -/
structure Scene (σ : Type) where
  provider : σ
  journal : Journal := []

/-- The scene after a call. -/
def Scene.after (s : Scene σ) (c : Call) (fault : Option Fault) (t : σ) : Scene σ where
  provider := t
  journal := ⟨c, fault⟩ :: s.journal

@[simp] theorem Scene.after_provider (s : Scene σ) (c : Call) (fault : Option Fault) (t : σ) :
    (s.after c fault t).provider = t := rfl

@[simp] theorem Scene.after_journal (s : Scene σ) (c : Call) (fault : Option Fault) (t : σ) :
    (s.after c fault t).journal = ⟨c, fault⟩ :: s.journal := rfl

/-- A conduct with a journal of the calls. -/
def Conduct.journaled (R : Conduct σ) : Conduct (Scene σ) := fun c s reply t =>
  ∃ u, R c s.provider reply u ∧ t = s.after c (faultOf reply) u

/-- A replier that keeps a journal of the calls. -/
def Replier.journaled (r : Replier σ) : Replier (Scene σ) := fun c s =>
  let (reply, t) := r c s.provider
  (reply, s.after c (faultOf reply) t)

/-! ## The calls since -/

/-- What is true of the calls made since a journal was written. -/
def Scene.Since (j : Journal) (P : Journal → Prop) (s : Scene σ) : Prop :=
  ∃ new, s.journal = new ++ j ∧ P new

namespace Scene

variable {R : Conduct σ} {j : Journal} {P Q E : Journal → Prop} {s : Scene σ} {c : Call}

theorem since_refl (h : P []) : s.Since s.journal P := ⟨[], rfl, h⟩

theorem Since.mono (hs : s.Since j P) (h : ∀ new, P new → Q new) : s.Since j Q := by
  obtain ⟨new, hnew, hP⟩ := hs
  exact ⟨new, hnew, h new hP⟩

theorem Since.perform (hs : s.Since j P) (hQ : ∀ new, P new → Q (⟨c, none⟩ :: new))
    (hE : ∀ f new, P new → E (⟨c, some f⟩ :: new)) :
    (Action.perform c).Ensures R.journaled s (fun _ t => t.Since j Q) fun _ t => t.Since j E := by
  obtain ⟨new, hnew, hP⟩ := hs
  refine (Action.ensures_perform c).2 ?_
  rintro reply t ⟨u, -, rfl⟩
  constructor
  · rintro x rfl
    exact ⟨_ :: new, by rw [after_journal, hnew]; rfl, hQ new hP⟩
  · rintro f rfl
    exact ⟨_ :: new, by rw [after_journal, hnew]; rfl, hE f new hP⟩

theorem Since.keeps_perform (h : ∀ fault new, P new → P (⟨c, fault⟩ :: new)) :
    Action.Keeps R.journaled (Since j P) (Action.perform c) := fun _ hs =>
  hs.perform (h none) fun f => h (some f)

end Scene

/-! ## Refusals -/

/-- For each call in turn the fault it is refused with, or nothing if it is let through. Calls
past the end of the list are let through. -/
abbrev Disturbance : Type := List (Option Fault)

/-- No refusal claims that a resource does not exist. -/
def Disturbance.Honest (d : Disturbance) : Prop := ∀ f, some f ∈ d → f.isNotFound = false

instance Disturbance.decidableHonest (d : Disturbance) : Decidable d.Honest :=
  decidable_of_iff (∀ x ∈ d, ∀ f ∈ x.toList, f.isNotFound = false)
    ⟨fun h f hf => h _ hf f (by simp), fun h x hx f hf => h f (Option.mem_toList.1 hf ▸ hx)⟩

theorem Disturbance.honest_nil : Disturbance.Honest [] := fun _ h => nomatch h

/-- A replier of which some calls are refused. -/
def Replier.disturbed (r : Replier σ) : Replier (Disturbance × σ) := fun c s =>
  match s.1 with
  | some fault :: rest => (.error fault, (rest, s.2))
  | none :: rest => ((r c s.2).1, (rest, (r c s.2).2))
  | [] => ((r c s.2).1, ([], (r c s.2).2))

/-- A replier any of whose calls may be refused with no effect, with faults of a sort. -/
def Replier.refusable (P : Fault → Prop) (r : Replier σ) : Conduct σ := fun c s reply t =>
  r c s = (reply, t) ∨ ∃ f, P f ∧ reply = .error f ∧ t = s

/-- A replier any of whose calls may be refused, with no effect and without the claim that a
resource does not exist. -/
def Replier.honest (r : Replier σ) : Conduct σ := fun c s reply t =>
  r c s = (reply, t) ∨ ∃ f, f.isNotFound = false ∧ reply = .error f ∧ t = s

/-! ## Disturbed runs -/

namespace Program

/-- Runs a program against a disturbed provider, and keeps the journal. -/
def attend (p : Program α) (r : Replier σ) (d : Disturbance) (s : Scene σ) : α × Scene σ :=
  let (a, t) := p.run r.disturbed.journaled ⟨(d, s.provider), s.journal⟩
  (a, ⟨t.provider.2, t.journal⟩)

theorem attend_call (c : Call) (next : Reply c → Program α) (r : Replier σ) (d : Disturbance)
    (s : Scene σ) :
    (call c next).attend r d s =
      match d with
      | some fault :: rest =>
        (next (.error fault)).attend r rest (s.after c (some fault) s.provider)
      | none :: rest =>
        (next (r c s.provider).1).attend r rest
          (s.after c (faultOf (r c s.provider).1) (r c s.provider).2)
      | [] =>
        (next (r c s.provider).1).attend r []
          (s.after c (faultOf (r c s.provider).1) (r c s.provider).2) := by
  match d with
  | some fault :: rest => rfl
  | none :: rest => rfl
  | [] => rfl

variable {r : Replier σ} {p : Program α} {s : Scene σ} {Q : α → Scene σ → Prop}

/-- **What is ensured against a provider that refuses calls is true of every disturbed run** with
refusals of that sort. The induction is on the program; each refusal it meets is one that the
conduct allows. -/
theorem Ensures.attend_refused {P : Fault → Prop} {d : Disturbance}
    (h : p.Ensures (r.refusable P).journaled s Q) (hd : ∀ f, some f ∈ d → P f) :
    Q (p.attend r d s).1 (p.attend r d s).2 := by
  induction p generalizing s d with
  | done a => exact h
  | call c next ih =>
    -- let through, the call is answered as the conduct allows; refused, it allows that too
    have hanswer := h _ _ ⟨_, Or.inl rfl, rfl⟩
    rw [attend_call]
    match d with
    | some fault :: rest =>
      have hfault := hd fault List.mem_cons_self
      refine ih _ (h _ _ ⟨_, Or.inr ⟨fault, hfault, rfl, rfl⟩, rfl⟩) fun f hf => ?_
      exact hd f (List.mem_cons_of_mem _ hf)
    | none :: rest => exact ih _ hanswer fun f hf => hd f (List.mem_cons_of_mem _ hf)
    | [] => exact ih _ hanswer hd

/-- **What is ensured against an honest provider is true of every honestly disturbed run.** -/
theorem Ensures.attend {d : Disturbance} (h : p.Ensures r.honest.journaled s Q) (hd : d.Honest) :
    Q (p.attend r d s).1 (p.attend r d s).2 :=
  Ensures.attend_refused (P := fun f => f.isNotFound = false) h hd

/-- What is ensured against the conduct of a replier is true of its runs, journal included. -/
theorem Ensures.run_journaled (h : p.Ensures r.conduct.journaled s Q) :
    Q (p.run r.journaled s).1 (p.run r.journaled s).2 := by
  induction p generalizing s with
  | done a => exact h
  | call c next ih => exact ih _ (h _ _ ⟨_, rfl, rfl⟩)

/-- What is ensured against the provider itself is true of the run without refusals. -/
theorem Ensures.attend_nil (h : p.Ensures r.conduct.journaled s Q) :
    Q (p.attend r [] s).1 (p.attend r [] s).2 := by
  induction p generalizing s with
  | done a => exact h
  | call c next ih =>
    rw [attend_call]
    exact ih _ (h _ _ ⟨_, rfl, rfl⟩)

end Program

/-! ## Runs of invocations -/

namespace Invocation

variable {r : Replier σ} {x : Invocation α} {w v : Work} {s t : Scene σ}
variable {Q : α → Work → Scene σ → Prop} {E : Fault → Work → Scene σ → Prop}
variable {result : Except Fault α}

theorem ends_of {outcome : (Except Fault α × Work) × Scene σ}
    (h : match outcome.1.1 with
      | .ok a => Q a outcome.1.2 outcome.2
      | .error f => E f outcome.1.2 outcome.2) (houtcome : outcome = ((result, v), t)) :
    (∀ a, result = .ok a → Q a v t) ∧ ∀ f, result = .error f → E f v t := by
  rw [houtcome] at h
  constructor
  · rintro a rfl
    exact h
  · rintro f rfl
    exact h

/-- What is ensured of an invocation against a provider that refuses calls is true of what it ends
with in a disturbed run. -/
theorem Ensures.attend_refused {P : Fault → Prop} {d : Disturbance}
    (h : x.Ensures (r.refusable P).journaled w s Q E) (hd : ∀ f, some f ∈ d → P f)
    (hrun : (x.start w).attend r d s = ((result, v), t)) :
    (∀ a, result = .ok a → Q a v t) ∧ ∀ f, result = .error f → E f v t :=
  ends_of (Program.Ensures.attend_refused h hd) hrun

/-- The same for a run against a replier itself. -/
theorem Ensures.run_journaled (h : x.Ensures r.conduct.journaled w s Q E)
    (hrun : (x.start w).run r.journaled s = ((result, v), t)) :
    (∀ a, result = .ok a → Q a v t) ∧ ∀ f, result = .error f → E f v t :=
  ends_of (Program.Ensures.run_journaled h) hrun

end Invocation

end RegistryStorage
