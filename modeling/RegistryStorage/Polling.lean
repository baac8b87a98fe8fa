import RegistryStorage.Fault

/-!
Waiting for long-running operations.

An operation is asked about until it is settled or has taken too long. Between two questions
an interval passes; the next question is asked only if its time does not lie beyond the
deadline. What a question comes to may depend on the state of the world, and every question
that is answered with "not yet" uses the world up a little: that is what `Waiting.size`
measures, and why waiting ends. `Script` is the plainest such world, a list of answers still
to come.

Times are nanoseconds on a clock that cannot show every time. The deadline and the time of the
next question are computed before they are compared, and the program breaks down if the clock
could not show them (`Halt.overflow`), which is no fault that is reported.
-/

set_option autoImplicit false

namespace RegistryStorage

/-- The nanoseconds of a second. -/
def second : Nat := 1000000000

/-- How long to wait between two questions and altogether, in nanoseconds. -/
structure PollOptions where
  interval : Nat := 10 * second
  timeout : Nat := 180 * second
deriving DecidableEq, Repr, Inhabited

/-- The last time that a clock can show: its seconds are a signed number of 64 bits. -/
def lastInstant : Nat := Nat.pow 2 63 * second - 1

/-- Why something came to no value. -/
inductive Halt
  /-- It failed, and the failure is reported. -/
  | fault (f : Fault)
  /-- The program broke down, because a time was to be computed that no clock can show. -/
  | overflow
deriving DecidableEq, Repr, Inhabited

/-- A result that may be a fault. -/
def Halt.ofResult {α : Type} (e : Except Fault α) : Except Halt α := e.mapError fault

/-- What is reported of a result; nothing if the program broke down. -/
def Halt.reply? {α : Type} : Except Halt α → Option (Except Fault α)
  | .ok a => some (.ok a)
  | .error (fault f) => some (.error f)
  | .error overflow => none

/-- A world in which one can wait: it has a clock and a size, and sleeping moves only the
clock. -/
structure Waiting (σ : Type) where
  /-- Nanoseconds on the clock. -/
  clock : σ → Nat
  /-- What is left of the world. -/
  size : σ → Nat
  /-- Lets some nanoseconds pass. -/
  sleep : Nat → σ → σ
  size_sleep : ∀ d s, size (sleep d s) = size s

/-- What one question comes to: the operation goes on and the world has become smaller, or the
operation is settled. -/
inductive Polled {σ : Type} (size : σ → Nat) (s : σ) (α : Type) : Type
  | pending (t : σ) (smaller : size t < size s)
  | settled (result : Except Fault α) (t : σ)

section

variable {σ α : Type} (w : Waiting σ) (operation : String)

/-- Asks until the operation is settled, or until the next question would come after the
deadline. -/
def pollUntil (interval deadline : Nat) (poll : (s : σ) → Polled w.size s α) (s : σ) :
    Except Halt α × σ :=
  match poll s with
  | .settled result t => (Halt.ofResult result, t)
  | .pending t _ =>
    let next := w.clock t + interval
    if lastInstant < next then (.error .overflow, t)
    else if next ≤ deadline then pollUntil interval deadline poll (w.sleep interval t)
    else (.error (.fault (.timeout operation)), t)
termination_by w.size s
decreasing_by
  rw [w.size_sleep]
  assumption

/-- Asks until the operation is settled or the time is up, which is counted from now. -/
def pollUntilDone (options : PollOptions) (poll : (s : σ) → Polled w.size s α) (s : σ) :
    Except Halt α × σ :=
  let deadline := w.clock s + options.timeout
  if lastInstant < deadline then (.error .overflow, s)
  else pollUntil w operation options.interval deadline poll s

end

/-! ## Scripts of answers -/

/-- What a question is answered with. -/
inductive PollStatus (α : Type) : Type
  | pending
  | done (a : α)
deriving DecidableEq, Repr

/-- An answer to come, and the nanoseconds it takes. -/
structure TimedAnswer (α : Type) where
  takes : Nat
  answer : Except Fault (PollStatus α)

/-- Answers to come, the time on the clock, and the number of questions asked. -/
structure Script (α : Type) where
  left : List (TimedAnswer α)
  elapsed : Nat := 0
  asked : Nat := 0

namespace Script

variable {α : Type}

/-- Waiting for the answers of a script. -/
def waiting : Waiting (Script α) where
  clock s := s.elapsed
  size s := s.left.length
  sleep d s := { s with elapsed := s.elapsed + d }
  size_sleep _ _ := rfl

/-- Takes the next answer. Nothing is known once all have been given. -/
def poll : (s : Script α) → Polled waiting.size s α
  | ⟨[], elapsed, asked⟩ => .settled (.error (.api "script exhausted")) ⟨[], elapsed, asked + 1⟩
  | ⟨next :: rest, elapsed, asked⟩ =>
    let t : Script α := ⟨rest, elapsed + next.takes, asked + 1⟩
    match next.answer with
    | .ok .pending => .pending t (Nat.lt_succ_self _)
    | .ok (.done a) => .settled (.ok a) t
    | .error fault => .settled (.error fault) t

/-- Asks a script until it is settled. -/
def run (operation : String) (options : PollOptions) (s : Script α) : Except Halt α × Script α :=
  pollUntilDone waiting operation options poll s

end Script

end RegistryStorage
