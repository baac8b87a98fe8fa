import RegistryStorage.Proofs.Transcript

/-!
Two programs on one provider.

`Program.weave` runs two programs against the same provider, one call at a time, in the order that a
schedule says; a schedule that ends early leaves the rest of the first program and then the rest of
the second. Neither program knows of the other. What keeps them apart is a `Frame`: a view of the
provider's state that one of them has to itself. A call of its own is answered by the view, and a
call of the other leaves the view as it is. Which calls these are may depend on the state in which
a program alone makes them (`Program.visits`). Main statement: if each of two programs has a view, then
whatever the schedule, each ends as it does alone, and the provider is left as it leaves it alone,
seen through its view (`Program.weave_apart`).
-/

set_option autoImplicit false

namespace RegistryStorage

variable {σ α β : Type}

/-- Runs two programs at once: the schedule says for each step in turn whether it is the first's.
A step of a program that is done is lost. -/
def Program.weave (r : Replier σ) :
    List Bool → Program α → Program β → σ → (α × β) × σ
  | true :: l, call c next, q, s => weave r l (next (r c s).1) q (r c s).2
  | true :: l, done a, q, s => weave r l (done a) q s
  | false :: l, p, call c next, s => weave r l p (next (r c s).1) (r c s).2
  | false :: l, p, done b, s => weave r l p (done b) s
  | [], p, q, s =>
    let (a, t) := p.run r s
    let (b, u) := q.run r t
    ((a, b), u)

/-- The calls of a run, each with the state of the provider that it is made in. -/
def Program.visits (r : Replier σ) : Program α → σ → List (Call × σ)
  | done _, _ => []
  | call c next, s => (c, s) :: (next (r c s).1).visits r (r c s).2

theorem Program.map_fst_visits (r : Replier σ) (p : Program α) (s : σ) :
    (p.visits r s).map Prod.fst = p.calls r s := by
  induction p generalizing s with
  | done a => rfl
  | call c next ih => exact congrArg (c :: ·) (ih _ _)

/-- **A view of the provider's state that some calls do not leave**: two states that look alike in
the view answer `own` calls alike, and look alike afterwards. The `other` calls do not show. A call
is one or the other by the state in which its program would make it alone. -/
structure Frame (r : Replier σ) (own other : Call → σ → Prop) (A : σ → σ → Prop) : Prop where
  step : ∀ {c s t}, own c t → A s t → (r c s).1 = (r c t).1 ∧ A (r c s).2 (r c t).2
  skip : ∀ {c s t u}, other c u → A s t → A (r c s).2 t

namespace Frame

variable {r : Replier σ} {P Q : Call → σ → Prop} {A B : σ → σ → Prop} {p : Program α} {s t u : σ}

/-- A program that runs to its end while the other one waits: it ends as it does alone, and the
other one sees nothing of it. -/
theorem run (hA : Frame r P Q A) (hB : Frame r Q P B) (hp : ∀ v ∈ p.visits r t, P v.1 v.2)
    (hst : A s t) (hsu : B s u) :
    (p.run r s).1 = (p.run r t).1 ∧ A (p.run r s).2 (p.run r t).2 ∧ B (p.run r s).2 u := by
  induction p generalizing s t with
  | done a => exact ⟨rfl, hst, hsu⟩
  | call c next ih =>
    rw [Program.visits, List.forall_mem_cons] at hp
    obtain ⟨hreply, hafter⟩ := hA.step hp.1 hst
    simp only [Program.run]
    rw [hreply]
    exact ih _ hp.2 hafter (hB.skip hp.1 hsu)

end Frame

namespace Program

variable {r : Replier σ} {P Q : Call → σ → Prop} {A B : σ → σ → Prop} {s t u : σ}

/-- **Programs with a view each do not disturb each other.** The induction is on the schedule. At
every moment the state looks to the first program as it would if it had been alone so far, and the
same is true of the second. -/
theorem weave_apart (hA : Frame r P Q A) (hB : Frame r Q P B) (schedule : List Bool)
    {p : Program α} {q : Program β} (hp : ∀ v ∈ p.visits r t, P v.1 v.2)
    (hq : ∀ v ∈ q.visits r u, Q v.1 v.2)
    (hst : A s t) (hsu : B s u) :
    (weave r schedule p q s).1 = ((p.run r t).1, (q.run r u).1) ∧
      A (weave r schedule p q s).2 (p.run r t).2 ∧
      B (weave r schedule p q s).2 (q.run r u).2 := by
  induction schedule generalizing p q s t u with
  | nil =>
    obtain ⟨hresult, hleft, hright⟩ := hA.run hB hp hst hsu
    obtain ⟨hresult', hright', hleft'⟩ := hB.run hA hq hright hleft
    exact ⟨Prod.ext hresult hresult', hleft', hright'⟩
  | cons first schedule ih =>
    cases first with
    | true =>
      cases p with
      | done a => exact ih hp hq hst hsu
      | call c next =>
        rw [visits, List.forall_mem_cons] at hp
        obtain ⟨hreply, hafter⟩ := hA.step hp.1 hst
        simp only [weave, run]
        rw [hreply]
        exact ih hp.2 hq hafter (hB.skip hp.1 hsu)
    | false =>
      cases q with
      | done b => exact ih hp hq hst hsu
      | call c next =>
        rw [visits, List.forall_mem_cons] at hq
        obtain ⟨hreply, hafter⟩ := hB.step hq.1 hsu
        simp only [weave, run]
        rw [hreply]
        exact ih hp hq.2 (hA.skip hq.1 hst) hafter

end Program

end RegistryStorage
