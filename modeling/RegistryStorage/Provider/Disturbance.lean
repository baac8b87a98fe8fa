import RegistryStorage.Provider.Program

/-!
Watching and disturbing a provider.

`logged` keeps the calls that were made, the last one first. `refusing` answers some calls
with a fault in place of the provider, which then does not see them at all: a refused call has
no effect.
-/

set_option autoImplicit false

namespace RegistryStorage

variable {σ : Type}

/-- Keeps every call that is made. -/
def Replier.logged (r : Replier σ) : Replier (List Call × σ) := fun c s =>
  let (reply, t) := r c s.2
  (reply, (c :: s.1, t))

/-- A fault that waits for the uses of a call: for some of them, or for all. -/
structure Refusal where
  fault : Fault
  times : Option Nat
deriving DecidableEq, Repr, Inhabited

/-- The refusals that wait, by the name of the call. -/
abbrev Refusals : Type := Dict String Refusal

/-- The refusal of a call, if one waits for it, and what waits afterwards. -/
def Refusals.next? (w : Refusals) (c : Call) : Option (Fault × Refusals) :=
  match w.get? c.name with
  | none => none
  | some ⟨fault, none⟩ => some (fault, w)
  | some ⟨_, some 0⟩ => none
  | some ⟨fault, some (n + 1)⟩ => some (fault, w.insert c.name ⟨fault, some n⟩)

/-- Refuses the calls for which a refusal waits. -/
def Replier.refusing (r : Replier σ) : Replier (Refusals × σ) := fun c s =>
  match s.1.next? c with
  | some (fault, w) => (.error fault, (w, s.2))
  | none =>
    let (reply, t) := r c s.2
    (reply, (s.1, t))

end RegistryStorage
