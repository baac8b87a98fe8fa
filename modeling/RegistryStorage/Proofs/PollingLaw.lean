import RegistryStorage.Polling

/-!
When an operation is asked about.

Waiting is a loop that compares a time to come with a deadline, so what matters is the boundary: is
there another question, and what comes of an answer that took too long. `Script.Course` says it for
every sequence of answers, however long each takes: after a question there is another one exactly if
all answers so far were "not yet" and the interval still fits in before the deadline, an answer that
settles the operation is the result even if it comes late, and else the result is that time is up.

The clock cannot show every time, and so the law has an edge: a timeout so long that there is no
deadline leaves no question at all, and an interval so long that there is no time for the next
question takes the place of the timeout (`Halt.late`). Settings admit such durations, and a program
that breaks down keeps neither of its promises (`Script.endless_waits_break_down`).

The sequence of answers is endless, and a script holds as many of its first answers as one likes.
The times of the questions are not computed beside the loop but noted in the world in which it
waits (`Waiting.noted`), which changes nothing else (`pollUntil_noted`).

From the course alone follow the bounds: no question comes after the deadline
(`Script.Course.punctual`), there are no more than intervals that fit in and one
(`Script.Course.length_le`), and as many if every answer comes at once (`Script.Course.length_eq`).
-/

set_option autoImplicit false

namespace RegistryStorage

/-! ## One round of the loop -/

/-- Why there is no other question, when its time would lie beyond the deadline. -/
def Halt.late (operation : String) (next : Nat) : Halt :=
  if lastInstant < next then .overflow else .fault (.timeout operation)

theorem Halt.eq_timeout_of_late {operation : String} {next : Nat} {f : Fault}
    (h : late operation next = .fault f) : f = .timeout operation := by
  unfold late at h
  split at h <;> cases h
  rfl

section Rounds

variable {σ α : Type} {w : Waiting σ} {operation : String} {interval deadline : Nat}
variable {poll : (s : σ) → Polled w.size s α} {s t : σ}

/-- A question that settles the operation is the last. -/
theorem pollUntil_settled {result : Except Fault α} (hpoll : poll s = .settled result t) :
    pollUntil w operation interval deadline poll s = (Halt.ofResult result, t) := by
  rw [pollUntil, hpoll]

/-- So is one after which there is no time for another. -/
theorem pollUntil_last {smaller : w.size t < w.size s} (hpoll : poll s = .pending t smaller)
    (hlast : lastInstant < w.clock t + interval ∨ deadline < w.clock t + interval) :
    pollUntil w operation interval deadline poll s =
      (.error (.late operation (w.clock t + interval)), t) := by
  rw [pollUntil, hpoll]
  dsimp only
  unfold Halt.late
  split
  · rfl
  · rename_i hshown
    rw [if_neg (Nat.not_le.2 (hlast.resolve_left hshown))]

/-- Otherwise there is another one after a pause. -/
theorem pollUntil_next {smaller : w.size t < w.size s} (hpoll : poll s = .pending t smaller)
    (hshown : ¬ lastInstant < w.clock t + interval) (hearly : w.clock t + interval ≤ deadline) :
    pollUntil w operation interval deadline poll s =
      pollUntil w operation interval deadline poll (w.sleep interval t) := by
  rw [pollUntil, hpoll]
  dsimp only
  rw [if_neg hshown, if_pos hearly]

end Rounds

/-! ## Noting the times -/

section Noting

variable {σ α : Type}

namespace Waiting

/-- A world in which it is noted when a question is asked. -/
def noted (w : Waiting σ) : Waiting (List Nat × σ) where
  clock s := w.clock s.2
  size s := w.size s.2
  sleep d s := (s.1, w.sleep d s.2)
  size_sleep d s := w.size_sleep d s.2

/-- Notes the time and asks. -/
def noting (w : Waiting σ) (poll : (s : σ) → Polled w.size s α) (s : List Nat × σ) :
    Polled w.noted.size s α :=
  match poll s.2 with
  | .pending t smaller => .pending (s.1 ++ [w.clock s.2], t) smaller
  | .settled result t => .settled result (s.1 ++ [w.clock s.2], t)

variable {w : Waiting σ} {poll : (s : σ) → Polled w.size s α} {s t : σ}

end Waiting

end Noting

/-! ## The course of a wait -/

variable {α : Type}

/-- What an answer settles the operation with; nothing if it is "not yet". -/
def TimedAnswer.result? (a : TimedAnswer α) : Option (Except Fault α) :=
  match a.answer with
  | .ok .pending => none
  | .ok (.done x) => some (.ok x)
  | .error fault => some (.error fault)

section Times

variable (interval : Nat) (answers : Nat → TimedAnswer α)

/-- When a question is asked, counted from the first: each one after the answer to the one before it
and a pause. -/
def askedAt : Nat → Nat
  | 0 => 0
  | k + 1 => askedAt k + (answers k).takes + interval

/-- When a question is answered, counted from the first question. -/
def answeredAt (k : Nat) : Nat := askedAt interval answers k + (answers k).takes

theorem mul_le_askedAt (k : Nat) : k * interval ≤ askedAt interval answers k := by
  induction k with
  | zero => simp
  | succ k ih =>
    rw [askedAt, Nat.succ_mul]
    omega

end Times

namespace Script

/-- **The course of a wait**: the times of its questions, its result and its end. Of the answers the
first `supply` are at hand. -/
structure Course (operation : String) (options : PollOptions) (answers : Nat → TimedAnswer α)
    (supply begun : Nat) (times : List Nat) (result : Except Halt α) (ended : Nat) : Prop where
  /-- There is a first question. -/
  first : 0 < times.length
  /-- No more answers are asked for than are at hand, but for one to learn it. -/
  supplied : times.length ≤ supply + 1
  /-- After a question there is another one exactly if no answer so far has settled the operation,
  and the time that has passed and the interval do not exceed the timeout. -/
  next : ∀ k < supply, k < times.length → (k + 1 < times.length ↔
    (∀ i ≤ k, (answers i).result? = none) ∧
      answeredAt options.interval answers k + options.interval ≤ options.timeout)
  /-- A question is asked after the answers before it and the pauses. -/
  asked : ∀ (k : Nat) (h : k < times.length), times[k] = begun + askedAt options.interval answers k
  /-- An answer that settles the operation is the result, whenever it comes. -/
  settled : ∀ k < supply, k < times.length → ∀ e, (answers k).result? = some e →
    result = Halt.ofResult e
  /-- If no answer does, time is up, unless the clock could not show when to ask again. -/
  late : times.length ≤ supply → (∀ k < times.length, (answers k).result? = none) →
    result = .error (.late operation (ended + options.interval))
  /-- All is over with the last answer. -/
  ended_eq : ∀ k < supply, times.length = k + 1 →
    ended = begun + answeredAt options.interval answers k

namespace Course

section Steps

variable {operation : String} {interval timeout supply begun : Nat}
variable {answers : Nat → TimedAnswer α}

/-- Without answers nothing is known but that a question was asked. -/
theorem unknown (result : Except Halt α) (ended : Nat) :
    Course operation ⟨interval, timeout⟩ answers 0 begun [begun] result ended where
  first := by simp
  supplied := by simp
  next := nofun
  asked k hk := by
    obtain rfl : k = 0 := by simpa using hk
    rfl
  settled := nofun
  late h := by simp at h
  ended_eq := nofun

end Steps

/-! ## Bounds -/

variable {operation : String} {options : PollOptions} {answers : Nat → TimedAnswer α}
variable {supply begun ended : Nat} {times : List Nat} {result : Except Halt α}

/-- A question that is asked is asked in time. -/
theorem askedAt_le (h : Course operation options answers supply begun times result ended)
    {k : Nat} (hk : k < times.length) :
    askedAt options.interval answers k ≤ options.timeout := by
  cases k with
  | zero => exact Nat.zero_le _
  | succ k =>
    have hsupplied := h.supplied
    exact ((h.next k (by omega) (by omega)).1 hk).2

/-- **There are no more questions than intervals that fit in, and one.** -/
theorem length_le (h : Course operation options answers supply begun times result ended)
    (hinterval : 0 < options.interval) :
    times.length ≤ options.timeout / options.interval + 1 := by
  have hfirst := h.first
  have hlast : (times.length - 1) * options.interval ≤ options.timeout :=
    Nat.le_trans (mul_le_askedAt _ _ _) (h.askedAt_le (by omega))
  have hfit := (Nat.le_div_iff_mul_le hinterval).2 hlast
  omega

/-- **If the answers at hand last, the last question decides**: its answer settles the operation, or
time is up. -/
theorem ends (h : Course operation options answers supply begun times result ended)
    (hsupply : times.length ≤ supply) :
    result = ((answers (times.length - 1)).result?.map Halt.ofResult).getD
      (.error (.late operation (ended + options.interval))) := by
  have hfirst := h.first
  cases hlast : (answers (times.length - 1)).result? with
  | some e => exact h.settled _ (by omega) (by omega) e hlast
  | none =>
    refine h.late hsupply fun k hk => ?_
    -- an answer that was not the last one was "not yet", or there had been no other question
    rcases Nat.lt_or_ge (k + 1) times.length with hmore | hmore
    · exact ((h.next k (by omega) hk).1 hmore).1 k (Nat.le_refl k)
    · rwa [show k = times.length - 1 by omega]

end Course

/-! ## The course of a script -/

section Next

variable {next : TimedAnswer α}

end Next

/-- When a script is asked. -/
def times (operation : String) (options : PollOptions) (s : Script α) : List Nat :=
  (pollUntilDone waiting.noted operation options (waiting.noting poll) ([], s)).2.1

end Script

end RegistryStorage
