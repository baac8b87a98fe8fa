import RegistryStorage.Provider.Program
import RegistryStorage.Record.State

/-!
Invocations.

An invocation works on a configuration of its own, normally a copy of the record's `spec`, and
on the record. It may end with a fault, and what it had written until then stays written. It
reads the clock once. `blaming` is how every fault reaches the record: the condition says what
was being done and why it failed, and the fault goes on to the caller.
-/

set_option autoImplicit false

namespace RegistryStorage

/-- What an invocation works on. -/
structure Work where
  config : StorageConfig
  state : StorageState
deriving DecidableEq, Repr, Inhabited

/-- Steps that call the provider, may fail, and keep what they wrote when they fail. -/
abbrev Invocation : Type → Type := ExceptT Fault (StateT Work Program)

namespace Invocation

variable {α : Type}

/-- Takes a step that writes nothing. -/
def act (a : Action α) : Invocation α := fun w => do return (← a.run, w)

/-- Takes over a result. -/
def ofResult (e : Except Fault α) : Invocation α := fun w => pure (e, w)

/-- Changes the working configuration. -/
def modifyConfig (f : StorageConfig → StorageConfig) : Invocation Unit :=
  modify fun w => { w with config := f w.config }

/-- Changes the record. -/
def modifyState (f : StorageState → StorageState) : Invocation Unit :=
  modify fun w => { w with state := f w.state }

/-- Writes the condition on the existence of the storage. -/
def report (now : Moment) (status : ConditionStatus) (reason : StorageReason)
    (message : String) : Invocation Unit :=
  modifyState fun s => s.report now status reason message

/-- Takes a step; if it fails, does something before the fault goes on. -/
def onFault (x : Invocation α) (f : Fault → Invocation Unit) : Invocation α :=
  tryCatch x fun fault => do
    f fault
    throw fault

/-- Takes a step; if it fails, reports what was being done. -/
def blaming (now : Moment) (reason : StorageReason) (doing : String) (x : Invocation α) :
    Invocation α :=
  x.onFault fun fault => report now .unknown reason (doing ++ fault.message)

/-- Keeps the names chosen so far in the record, and the ownership of what was created. -/
def saveProgress (created : Bool) : Invocation Unit :=
  modify fun w => { w with state := { w.state with
    spec := w.config
    management :=
      if created && w.state.management.isNone then some .managed else w.state.management } }

/-- Takes a step; if it fails, keeps the progress made before it. -/
def keeping (created : Bool) (x : Invocation α) : Invocation α :=
  x.onFault fun _ => saveProgress created

/-- Changes the working configuration and the record's configurations in the same way. -/
def record (change : StorageConfig → StorageConfig) : Invocation Unit :=
  modify fun w => { config := change w.config, state := w.state.mapConfigs change }

/-- Runs an invocation on what it works on. -/
def start (x : Invocation α) (w : Work) : Program (Except Fault α × Work) := x w

end Invocation

end RegistryStorage
