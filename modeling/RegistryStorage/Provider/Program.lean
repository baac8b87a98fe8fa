import RegistryStorage.Provider.Call

/-!
Programs over the provider.

A `Program` is a value: it is done, or it makes a call and goes on with whatever reply comes.
The operations of the library are such values, and so say nothing about who replies. `run`
lets a replier answer the calls of a program one after the other, carrying the replier's state
along; since a program is a well-founded tree, every run ends. A replier that is frail may break
down over a call, and then the program ends there without a value (`runFrail`).
-/

set_option autoImplicit false

namespace RegistryStorage

/-- A program that calls the provider and ends with a value. -/
inductive Program (α : Type) : Type
  | done (a : α)
  | call (c : Call) (next : Reply c → Program α)

namespace Program

variable {α β σ : Type}

/-- Goes on with another program. -/
def bind : Program α → (α → Program β) → Program β
  | done a, f => f a
  | call c next, f => call c fun reply => (next reply).bind f

instance : Monad Program where
  pure := done
  bind := bind

theorem id_map_eq (p : Program α) : id <$> p = p := by
  show p.bind (fun a => done (id a)) = p
  induction p with
  | done a => rfl
  | call c next ih => exact congrArg (call c) (funext ih)

theorem bind_assoc_eq {γ : Type} (p : Program α) (f : α → Program β) (g : β → Program γ) :
    p >>= f >>= g = p >>= fun a => f a >>= g := by
  show (p.bind f).bind g = p.bind fun a => (f a).bind g
  induction p with
  | done a => rfl
  | call c next ih => exact congrArg (call c) (funext ih)

instance : LawfulMonad Program :=
  LawfulMonad.mk' _ id_map_eq (fun _ _ => rfl) bind_assoc_eq

instance [Inhabited α] : Inhabited (Program α) := ⟨done default⟩

end Program

/-- Something that replies to calls, with a state of its own. -/
abbrev Replier (σ : Type) : Type := (c : Call) → σ → Reply c × σ

namespace Program

variable {α β σ : Type}

/-- Runs a program against a replier. -/
def run (r : Replier σ) : Program α → σ → α × σ
  | done a, s => (a, s)
  | call c next, s => (next (r c s).1).run r (r c s).2

@[simp] theorem run_pure (r : Replier σ) (a : α) (s : σ) : (pure a : Program α).run r s = (a, s) :=
  rfl

@[simp] theorem run_bind (r : Replier σ) (p : Program α) (f : α → Program β) (s : σ) :
    (p >>= f).run r s = (f (p.run r s).1).run r (p.run r s).2 := by
  show (p.bind f).run r s = _
  induction p generalizing s with
  | done a => rfl
  | call c next ih => exact ih _ _

end Program

/-- Something that replies to calls for as long as it lasts. -/
abbrev FrailReplier (σ : Type) : Type := (c : Call) → σ → Option (Reply c) × σ

namespace Program

variable {α β σ : Type}

/-- Runs a program against a replier that may break down, and the program with it. -/
def runFrail (r : FrailReplier σ) : Program α → σ → Option α × σ
  | done a, s => (some a, s)
  | call c next, s =>
    match r c s with
    | (some reply, t) => (next reply).runFrail r t
    | (none, t) => (none, t)

theorem runFrail_bind (r : FrailReplier σ) (p : Program α) (f : α → Program β) (s : σ) :
    (p >>= f).runFrail r s =
      match p.runFrail r s with
      | (some a, t) => (f a).runFrail r t
      | (none, t) => (none, t) := by
  show (p.bind f).runFrail r s = _
  induction p generalizing s with
  | done a => rfl
  | call c next ih =>
    rw [bind, runFrail, runFrail]
    rcases r c s with ⟨_ | reply, t⟩
    · rfl
    · exact ih reply t

end Program

/-! ## Steps that may fail -/

/-- A program that ends with a value or a fault. -/
abbrev Action : Type → Type := ExceptT Fault Program

namespace Action

variable {α : Type}

/-- Makes a call. -/
def perform (c : Call) : Action c.Answer := Program.call c .done

/-- Takes over a result. -/
def ofResult (e : Except Fault α) : Action α := Program.done e

/-- Makes a call and counts a fault that says the resource is gone as success. -/
def tolerant (a : Action Unit) : Action Unit :=
  ExceptT.mk do return tolerateNotFound (← a.run)

end Action

end RegistryStorage
