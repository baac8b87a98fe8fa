import RegistryStorage.Proofs.Journal

/-!
Transcripts.

A `Transcript` holds the calls of a run together with the replies, whoever gave them. To ensure
something of transcripts against a provider that may reply whatever it likes is to prove it of every
run against every provider (`Program.Ensures.of_transcript`). A journal says less, and says it the
other way round: it has the calls of the transcript, the last one first
(`Program.journal_calls`).
-/

set_option autoImplicit false

namespace RegistryStorage

variable {σ α : Type}

/-- A call and the reply to it. -/
structure Exchange where
  call : Call
  reply : Reply call

/-- The calls that were made and the replies to them, the first one first. -/
abbrev Transcript : Type := List Exchange

/-- The transcript of a run. -/
def Program.transcript (r : Replier σ) : Program α → σ → Transcript
  | done _, _ => []
  | call c next, s => ⟨c, (r c s).1⟩ :: (next (r c s).1).transcript r (r c s).2

/-- A provider that may reply whatever it likes. Only the transcript remembers what it did. -/
def unruly : Conduct Transcript := fun c h reply t => t = h ++ [⟨c, reply⟩]

/-- **What is ensured whatever is replied is true of every transcript.** -/
theorem Program.Ensures.of_transcript {p : Program α} {r : Replier σ} {h : Transcript}
    {Q : α → Transcript → Prop} (hp : p.Ensures unruly h Q) (s : σ) :
    Q (p.run r s).1 (h ++ p.transcript r s) := by
  induction p generalizing h s with
  | done a =>
    rw [Program.transcript, List.append_nil]
    exact hp
  | call c next ih =>
    rw [Program.transcript, List.append_cons]
    exact ih _ (hp _ _ rfl) _

/-- **What is ensured of a transcript is ensured of what is added to another one.** -/
theorem Program.Ensures.added {p : Program α} {g : Transcript} {Q : α → Transcript → Prop}
    (hp : p.Ensures unruly g Q) (h : Transcript) :
    p.Ensures unruly (h ++ g) fun a t => ∃ new, t = h ++ new ∧ Q a new := by
  induction p generalizing g with
  | done a => exact ⟨g, rfl, hp⟩
  | call c next ih =>
    rintro reply _ rfl
    rw [List.append_assoc]
    exact ih reply (hp reply _ rfl)

/-- The same for what an invocation ensures however it ends. -/
theorem Invocation.Ensures.of_transcript {x : Invocation α} {w : Work} {r : Replier σ}
    {P : Transcript → Prop} (hx : x.Ensures unruly w [] (fun _ _ t => P t) fun _ _ t => P t)
    (s : σ) : P ((x.start w).transcript r s) := by
  have hrun := Program.Ensures.of_transcript (r := r) hx s
  rw [List.nil_append] at hrun
  split at hrun <;> exact hrun

/-- What it takes for a call to end as wished when nothing is known of the provider. -/
theorem Action.ensures_unruly {c : Call} {h : Transcript} {Q : c.Answer → Transcript → Prop}
    {E : Fault → Transcript → Prop} (hQ : ∀ x, Q x (h ++ [⟨c, .ok x⟩]))
    (hE : ∀ f, E f (h ++ [⟨c, .error f⟩])) : (perform c).Ensures unruly h Q E := by
  refine (ensures_perform c).2 fun reply t ht => ⟨?_, ?_⟩
  · rintro x rfl
    rw [ht]
    exact hQ x
  · rintro f rfl
    rw [ht]
    exact hE f

/-! ## The calls of a run -/

/-- The calls of a run, the first one first. -/
def Program.calls (r : Replier σ) (p : Program α) (s : σ) : List Call :=
  (p.transcript r s).map Exchange.call

@[simp] theorem Program.calls_done (r : Replier σ) (a : α) (s : σ) : (done a).calls r s = [] := rfl

@[simp] theorem Program.calls_call (r : Replier σ) (c : Call) (next : Reply c → Program α) (s : σ) :
    (call c next).calls r s = c :: (next (r c s).1).calls r (r c s).2 := rfl

/-- **The journal of a run is its calls**, the last one first, before what was written earlier. -/
theorem Program.journal_calls (r : Replier σ) (p : Program α) (s : Scene σ) :
    (p.run r.journaled s).2.journal.map Entry.call =
      (p.calls r s.provider).reverse ++ s.journal.map Entry.call := by
  induction p generalizing s with
  | done a => rfl
  | call c next ih =>
    rw [calls_call, List.reverse_cons, List.append_assoc]
    exact ih _ _

/-- What is ensured of the journal, however an invocation ends, is true of the calls of its runs. -/
theorem Invocation.Ensures.of_calls {x : Invocation α} {w : Work} {r : Replier σ}
    {P : List Call → Prop} {s : σ}
    (hx : x.Ensures r.conduct.journaled w ⟨s, []⟩
      (fun _ _ t => P (t.journal.map Entry.call).reverse)
      fun _ _ t => P (t.journal.map Entry.call).reverse) :
    P ((x.start w).calls r s) := by
  have hrun := Program.Ensures.run_journaled hx
  have hcalls := Program.journal_calls r (x.start w) ⟨s, []⟩
  rw [List.map_nil, List.append_nil] at hcalls
  rw [← List.reverse_reverse ((x.start w).calls r s), ← hcalls]
  split at hrun <;> exact hrun

end RegistryStorage
