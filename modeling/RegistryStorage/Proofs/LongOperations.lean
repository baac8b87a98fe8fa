import RegistryStorage.Proofs.Rounds

/-!
Long-running operations.

A write that the resource manager only accepts goes on after its answer, and is followed at an
address that the answer gives. What is true of every write is said by `Course`: how often it is
sent, which answers make it go on and where it is followed, when the resource is read in the end,
and what a fault on the way does. None of it depends on what the server answers, on how long an
answer takes, on when the polls give up or on where the tokens come from
(`operations_are_followed`). An operation is not followed at all if the clock cannot show when its
polls are to give up, and the program breaks down where it cannot show the next poll
(`endless_polls_break_down`).

Two judgements on an answer are behind it all, one for an operation that tells its status and one
for an operation whose result comes to be at an address. They are joined into one
(`Following.judge`), and what they come to is said by what the answer says: the operation goes on,
it has succeeded, or the answer breaks it off. From there on, a write is what becomes of its first
request and of its polls (`Launched`), followed by what becomes of its result (`Finished`).
-/

set_option autoImplicit false

namespace RegistryStorage

open Http
open Json (Value)

/-- Changes what an operation has come to. -/
def PollStatus.map {α β : Type} (f : α → β) : PollStatus α → PollStatus β
  | pending => pending
  | done a => done (f a)

namespace ResourceManager

/-! ## What an answer says of an operation -/

namespace Following

/-- The address at which an operation is followed. -/
def address : Following → String
  | status address | result address => address

/-- By the answer, the operation goes on. -/
def GoesOn : Following → Response → Prop
  | status _, r => ∃ word, Says r word ∧ word ≠ "Succeeded" ∧ word ≠ "Failed" ∧ word ≠ "Canceled"
  | result _, r => r.status = 202

/-- By the answer, the operation has succeeded. -/
def Succeeds : Following → Response → Prop
  | status _, r => Says r "Succeeded"
  | result _, r => r.status ≠ 202 ∧ ∃ v, Holds r v

/-- By the answer, the operation has succeeded, and nothing is said about what is there now. -/
def LeavesOpen : Following → Response → Prop
  | status _, r => Says r "Succeeded"
  | result _, r => r.status ≠ 202 ∧ Holds r .null

/-- The answer breaks the operation off. -/
def Breaks : Following → Response → Prop
  | status _, r => Garbled r ∨ Says r "Failed" ∨ Says r "Canceled"
  | result _, r => r.status ≠ 202 ∧ Garbled r

/-- How far an operation is, and what it has come to if that is told. -/
def judge (operation : String) : Following → Response → Except Fault (PollStatus (Option Value))
  | status _, r => PollStatus.map (fun _ => none) <$> judgeStatus operation r
  | result _, r => PollStatus.map some <$> judgeResult r

end Following

section Answers

variable {operation : String} {r : Response} {way : Following}

namespace Following

/-- What is judged by an answer. -/
inductive Judged (way : Following) (r : Response) :
    Except Fault (PollStatus (Option Value)) → Prop
  | goesOn (h : way.GoesOn r) : Judged way r (.ok .pending)
  | succeeds {x : Option Value} (h : way.Succeeds r)
      (hopen : way.LeavesOpen r ↔ x = none ∨ x = some .null) : Judged way r (.ok (.done x))
  | breaks {fault : Fault} (h : way.Breaks r) : Judged way r (.error fault)

/-- **An answer is judged by what it says.** -/
theorem judged (way : Following) (operation : String) (r : Response) :
    way.Judged r (way.judge operation r) := by
  cases way with
  | status address =>
    show Judged (.status address) r (PollStatus.map (fun _ => none) <$> judgeStatus operation r)
    unfold judgeStatus
    cases hread : readBody r with
    | error fault =>
      have hbreaks : (Following.status address).Breaks r :=
        Or.inl (readBody_eq_error.1 ⟨fault, hread⟩)
      exact .breaks hbreaks
    | ok v =>
      have hholds := readBody_eq_ok.1 hread
      show Judged _ r (_ <$> operationStatus operation r.status v)
      unfold operationStatus
      dsimp only
      split
      · rename_i hword
        have hsays : Says r "Succeeded" := hholds.says_iff.2 hword
        exact .succeeds hsays (iff_of_true hsays (Or.inl rfl))
      · rename_i hsucceeded
        split
        · rename_i hword
          have hbreaks : (Following.status address).Breaks r :=
            Or.inr (hword.imp hholds.says_iff.2 hholds.says_iff.2)
          split <;> exact .breaks hbreaks
        · rename_i hfailed
          rw [not_or] at hfailed
          exact .goesOn ⟨_, hholds.says_iff.2 rfl, hsucceeded, hfailed⟩
  | result address =>
    show Judged (.result address) r (PollStatus.map some <$> judgeResult r)
    unfold judgeResult
    -- with status 202 there is no result yet, whatever the body
    by_cases hstatus : r.status = 202
    · rw [if_pos hstatus]
      exact .goesOn hstatus
    · rw [if_neg hstatus]
      cases hread : readBody r with
      | error fault => exact .breaks ⟨hstatus, readBody_eq_error.1 ⟨fault, hread⟩⟩
      | ok v =>
        refine .succeeds ⟨hstatus, v, readBody_eq_ok.1 hread⟩ ?_
        simp [LeavesOpen, hstatus, ← readBody_eq_ok, hread]

theorem GoesOn.not_succeeds (h : way.GoesOn r) : ¬ way.Succeeds r := by
  cases way with
  | status address =>
    obtain ⟨word, hword, hne, -⟩ := h
    exact fun h => hne (hword.unique h)
  | result address => exact fun h' => h'.1 h

theorem GoesOn.not_breaks (h : way.GoesOn r) : ¬ way.Breaks r := by
  cases way with
  | status address =>
    obtain ⟨word, hword, -, hfailed, hcanceled⟩ := h
    rintro (hgarbled | h | h)
    · exact hword.not_garbled hgarbled
    · exact hfailed (hword.unique h)
    · exact hcanceled (hword.unique h)
  | result address => exact fun h' => h'.1 h

theorem Succeeds.not_breaks (h : way.Succeeds r) : ¬ way.Breaks r := by
  cases way with
  | status address =>
    rintro (hgarbled | h' | h')
    · exact Says.not_garbled h hgarbled
    · exact absurd (Says.unique h h') (by decide)
    · exact absurd (Says.unique h h') (by decide)
  | result address =>
    rintro ⟨-, hgarbled⟩
    obtain ⟨-, v, hv⟩ := h
    exact hv.not_garbled hgarbled

theorem LeavesOpen.succeeds (h : way.LeavesOpen r) : way.Succeeds r := by
  cases way with
  | status address => exact h
  | result address => exact ⟨h.1, .null, h.2⟩

end Following

end Answers

/-! ## What a poll finds -/

namespace Outcome

variable {address : String} {o : Outcome} {right right' wrong : Response → Prop}

theorem finds_answered {r : Response} (h : r.Well) : (answered r).Finds right ↔ right r := by
  simp [Finds, h]

theorem finds_iff {r : Response} (h : o.check address = .ok r) : o.Finds right ↔ right r := by
  obtain ⟨rfl, hwell⟩ := check_eq_ok.1 h
  exact finds_answered hwell

theorem fails_iff {r : Response} (h : o.check address = .ok r) : o.Fails wrong ↔ wrong r := by
  obtain ⟨rfl, hwell⟩ := check_eq_ok.1 h
  exact or_iff_right (not_not_intro hwell)

theorem not_finds {fault : Fault} (h : o.check address = .error fault) : ¬ o.Finds right := by
  rintro ⟨r, rfl, hwell, -⟩
  rw [check, checkStatus_eq_ok.2 ⟨rfl, hwell⟩] at h
  cases h

/-- The body of an answer is there if the query found it so. -/
theorem read_iff : (∃ v, o.check address >>= readBody = .ok v) ↔
    o.Finds fun r => ∃ v, Holds r v := by
  cases hcheck : o.check address with
  | error fault => exact iff_of_false (fun ⟨v, h⟩ => nomatch h) (not_finds hcheck)
  | ok r =>
    rw [finds_iff hcheck]
    exact exists_congr fun v => readBody_eq_ok

theorem Finds.not_fails (h : o.Finds right) (hr : ∀ r, right r → ¬ wrong r) : ¬ o.Fails wrong := by
  intro hfails
  obtain ⟨r, -, hright, hwrong⟩ := hfails.of_finds h
  exact hr r hright hwrong

theorem Finds.not_finds (h : o.Finds right) (hr : ∀ r, right r → ¬ right' r) :
    ¬ o.Finds right' := by
  obtain ⟨r, rfl, -, hright⟩ := h
  rintro ⟨r', ⟨⟩, -, hright'⟩
  exact hr r hright hright'

theorem Fails.not_finds (h : o.Fails wrong) (hr : ∀ r, right r → ¬ wrong r) : ¬ o.Finds right :=
  fun hfinds => hfinds.not_fails hr h

end Outcome

namespace Following

/-- What is judged of a poll. -/
inductive Found (way : Following) (o : Outcome) :
    Except Fault (PollStatus (Option Value)) → Prop
  | goesOn (h : o.Finds way.GoesOn) : Found way o (.ok .pending)
  | succeeds {x : Option Value} (h : o.Finds way.Succeeds)
      (hopen : o.Finds way.LeavesOpen ↔ x = none ∨ x = some .null) : Found way o (.ok (.done x))
  | breaks {fault : Fault} (h : o.Fails way.Breaks) : Found way o (.error fault)

/-- **A poll is judged by its answer**; without one, or without success, it breaks it all off. -/
theorem found (way : Following) (operation address : String) (o : Outcome) :
    way.Found o (o.check address >>= way.judge operation) := by
  cases hcheck : o.check address with
  | error fault => exact .breaks (Outcome.fails_of_check hcheck)
  | ok r =>
    have hjudged := way.judged operation r
    show way.Found o (way.judge operation r)
    revert hjudged
    generalize way.judge operation r = judgement
    intro hjudged
    cases hjudged with
    | goesOn h => exact .goesOn ((Outcome.finds_iff hcheck).2 h)
    | succeeds h hopen =>
      refine .succeeds ((Outcome.finds_iff hcheck).2 h) ?_
      rw [Outcome.finds_iff hcheck]
      exact hopen
    | breaks h => exact .breaks ((Outcome.fails_iff hcheck).2 h)

/-- What an operation comes to with its last poll. -/
inductive Ends (way : Following) (operation : String) (interval deadline : Nat) (last : Round) :
    Except Halt (Option Value) → Prop
  | late (h : last.outcome.Finds way.GoesOn) (hlate : deadline < last.ended + interval) :
      Ends way operation interval deadline last (.error (.late operation (last.ended + interval)))
  | succeeds {x : Option Value} (h : last.outcome.Finds way.Succeeds)
      (hopen : last.outcome.Finds way.LeavesOpen ↔ x = none ∨ x = some .null) :
      Ends way operation interval deadline last (.ok x)
  | breaks {fault : Fault} (h : last.outcome.Fails way.Breaks)
      (hfault : last.outcome.check way.address >>= way.judge operation = .error fault) :
      Ends way operation interval deadline last (.error (.fault fault))

end Following

section Polls

variable {α β : Type} {operation address : String} {interval deadline : Nat} {polls : List Round}

theorem Followed.map {judge : Response → Except Fault (PollStatus α)} {result : Except Halt α}
    (f : α → β) (h : Followed operation address interval deadline judge polls result) :
    Followed operation address interval deadline (fun r => PollStatus.map f <$> judge r) polls
      (f <$> result) := by
  induction h with
  | @settled o ended result h =>
    have hresult : f <$> Halt.ofResult result = Halt.ofResult (f <$> result) := by
      cases result <;> rfl
    rw [hresult]
    refine .settled ?_
    rw [← map_bind, h]
    cases result <;> rfl
  | late h hlate =>
    refine .late ?_ hlate
    rw [← map_bind, h]
    rfl
  | goesOn h hearly later ih =>
    refine .goesOn ?_ hearly ih
    rw [← map_bind, h]
    rfl

/-- **The polls of an operation**: all but the last found that it goes on. -/
theorem Followed.ends {way : Following} {result : Except Halt (Option Value)}
    (h : Followed operation way.address interval deadline (way.judge operation) polls result) :
    ∃ before last, polls = before ++ [last] ∧ (∀ p ∈ polls, p.query = .look way.address) ∧
      (∀ p ∈ before, p.outcome.Finds way.GoesOn ∧ p.ended + interval ≤ deadline) ∧
      way.Ends operation interval deadline last result := by
  -- on the polls; what the first of them finds decides whether there is another one
  induction h with
  | @settled o ended result h =>
    refine ⟨[], _, rfl, by simp, by simp, ?_⟩
    have hfound := way.found operation way.address o
    rw [h] at hfound
    cases result with
    | error fault =>
      cases hfound with
      | breaks hfails => exact .breaks hfails h
    | ok x =>
      cases hfound with
      | succeeds h hopen => exact .succeeds h hopen
  | @late o ended h hlate =>
    have hfound := way.found operation way.address o
    rw [h] at hfound
    cases hfound with
    | goesOn h => exact ⟨[], _, rfl, by simp, by simp, .late h hlate⟩
  | @goesOn o ended polls result h hearly later ih =>
    obtain ⟨before, last, rfl, hqueries, hbefore, hends⟩ := ih
    have hfound := way.found operation way.address o
    rw [h] at hfound
    cases hfound with
    | goesOn h =>
      refine ⟨⟨.look way.address, o, ended⟩ :: before, last, rfl, ?_, ?_, hends⟩
      · exact List.forall_mem_cons.2 ⟨rfl, hqueries⟩
      · exact List.forall_mem_cons.2 ⟨⟨h, hearly⟩, hbefore⟩

end Polls

/-! ## A write and its polls -/

section Writes

variable {m : ResourceManager} {operation : String}

/-- Sends a write and follows it. -/
def launch (m : ResourceManager) (operation : String) (q : Query) : Dialogue (Option Value) := do
  let r ← m.ask q.method q.address q.body
  m.complete operation r

/-- What becomes of a write and of its polls. -/
inductive Launched (m : ResourceManager) (operation : String) (first : Round) :
    List Round → Except Halt (Option Value) → Prop
  | refused {fault : Fault} (h : first.outcome.check first.query.address = .error fault) :
      Launched m operation first [] (.error (.fault fault))
  | settled {r : Response} (h : first.outcome.check first.query.address = .ok r)
      (hfinal : Final r) :
      Launched m operation first [] (Halt.ofResult (some <$> readBody r))
  /-- The clock cannot show when the polls are to give up. -/
  | untimed {r : Response} {way : Following}
      (h : first.outcome.check first.query.address = .ok r) (haccepts : Accepts r way)
      (hover : lastInstant < first.ended + m.poll.timeout) :
      Launched m operation first [] (.error .overflow)
  | accepted {r : Response} {way : Following} {polls : List Round}
      {result : Except Halt (Option Value)}
      (h : first.outcome.check first.query.address = .ok r) (haccepts : Accepts r way)
      (hshown : first.ended + m.poll.timeout ≤ lastInstant)
      (hpolls : Followed operation way.address m.poll.interval (first.ended + m.poll.timeout)
        (way.judge operation) polls result) :
      Launched m operation first polls result

theorem complete_tells (operation : String) (r : Response) :
    (m.complete operation r).Tells m fun begun rounds result _ =>
      (Final r ∧ rounds = [] ∧ result = Halt.ofResult (some <$> readBody r)) ∨
        ∃ way, Accepts r way ∧
          ((lastInstant < begun + m.poll.timeout ∧ rounds = [] ∧ result = .error .overflow) ∨
            (begun + m.poll.timeout ≤ lastInstant ∧ Followed operation way.address m.poll.interval
              (begun + m.poll.timeout) (way.judge operation) rounds result)) := by
  unfold complete
  cases hfollowing : following? r with
  | none =>
    dsimp only
    refine ((ofResult_tells (readBody r)).map some).mono ?_
    rintro begun rounds result ended ⟨_, ⟨rfl, rfl, rfl⟩, rfl⟩
    refine Or.inl ⟨following?_eq_none.1 hfollowing, rfl, ?_⟩
    cases readBody r <;> rfl
  | some way =>
    have haccepts := following?_eq_some.1 hfollowing
    cases way with
    | status address =>
      dsimp only
      rw [bind_pure_comp]
      refine (follow_tells.map _).mono ?_
      rintro begun rounds _ ended ⟨_, ⟨hover, rfl, rfl⟩ | ⟨hshown, hfollowed⟩, rfl⟩
      · exact Or.inr ⟨_, haccepts, Or.inl ⟨hover, rfl, rfl⟩⟩
      · exact Or.inr ⟨_, haccepts, Or.inr ⟨hshown, hfollowed.map _⟩⟩
    | result address =>
      dsimp only
      refine (follow_tells.map some).mono ?_
      rintro begun rounds _ ended ⟨_, ⟨hover, rfl, rfl⟩ | ⟨hshown, hfollowed⟩, rfl⟩
      · exact Or.inr ⟨_, haccepts, Or.inl ⟨hover, rfl, rfl⟩⟩
      · exact Or.inr ⟨_, haccepts, Or.inr ⟨hshown, hfollowed.map some⟩⟩

theorem launch_tells (operation : String) (q : Query) :
    (m.launch operation q).Tells m fun _ rounds result _ =>
      ∃ first polls, rounds = first :: polls ∧ first.query = q ∧
        Launched m operation first polls result := by
  refine ((ask_tells q).bind (complete_tells operation)).mono ?_
  rintro begun rounds result ended
    (⟨halt, ⟨o, rfl, hcheck⟩, rfl⟩ | ⟨r, -, between, polls, rfl, ⟨o, rfl, hcheck⟩, hpolls⟩)
  · obtain ⟨fault, hrefused, rfl⟩ := Halt.ofResult_eq_error.1 hcheck.symm
    exact ⟨⟨q, o, ended⟩, [], rfl, rfl, .refused hrefused⟩
  · have hpassed := Halt.ofResult_eq_ok.1 hcheck.symm
    refine ⟨⟨q, o, between⟩, polls, rfl, rfl, ?_⟩
    obtain ⟨hfinal, rfl, rfl⟩ | ⟨way, haccepts, ⟨hover, rfl, rfl⟩ | ⟨hshown, hfollowed⟩⟩ := hpolls
    · exact .settled hpassed hfinal
    · exact .untimed hpassed haccepts hover
    · exact .accepted hpassed haccepts hshown hfollowed

/-- What a write comes to with its last answer, which is the one to itself or to the last poll. -/
def Concluded (atOnce : Response → Prop) (later : Following → Outcome → Prop) (first : Round)
    (polls : List Round) : Prop :=
  first.outcome.Finds (fun r => Final r ∧ atOnce r) ∨
    ∃ way, first.outcome.Finds (Accepts · way) ∧ ∃ last ∈ polls.getLast?, later way last.outcome

/-- The write has succeeded: its answer settles it, or the last poll finds that it has succeeded. -/
def Succeeded : Round → List Round → Prop :=
  Concluded (fun r => ∃ v, Holds r v) fun way o => o.Finds way.Succeeds

/-- The write has succeeded, and nothing is said about what is there now: its status was followed,
or the final body holds nothing. -/
def LeftOpen : Round → List Round → Prop :=
  Concluded (Holds · .null) fun way o => o.Finds way.LeavesOpen

theorem accepts_unique {o : Outcome} {way way' : Following} (h : o.Finds (Accepts · way))
    (h' : o.Finds (Accepts · way')) : way = way' := by
  obtain ⟨r, rfl, -, haccepts⟩ := h
  obtain ⟨r', ⟨⟩, -, haccepts'⟩ := h'
  exact haccepts.unique haccepts'

section

variable {atOnce : Response → Prop} {later : Following → Outcome → Prop} {first last : Round}
variable {before : List Round} {way : Following}

theorem concluded_concat (haccepts : first.outcome.Finds (Accepts · way)) :
    Concluded atOnce later first (before ++ [last]) ↔ later way last.outcome := by
  unfold Concluded
  rw [List.getLast?_concat]
  constructor
  · rintro (hfinal | ⟨way', haccepts', _, ⟨⟩, hlast⟩)
    · exact absurd haccepts (hfinal.not_finds fun r hr => hr.1 way)
    · rw [accepts_unique haccepts haccepts']
      exact hlast
  · exact fun hlast => Or.inr ⟨way, haccepts, last, rfl, hlast⟩

theorem concluded_nil :
    Concluded atOnce later first [] ↔ first.outcome.Finds fun r => Final r ∧ atOnce r := by
  simp [Concluded]

/-- An accepted write without polls has come to nothing. -/
theorem not_concluded_nil (haccepts : first.outcome.Finds (Accepts · way)) :
    ¬ Concluded atOnce later first [] := by
  rw [concluded_nil]
  exact haccepts.not_finds fun r hr hfinal => hfinal.1 way hr

end

namespace Launched

variable {first : Round} {polls : List Round} {outcome : Except Halt (Option Value)}
variable {way : Following}

/-- An accepted write ends with its last poll, and without any if there is no deadline. -/
theorem ends (h : Launched m operation first polls outcome)
    (haccepts : first.outcome.Finds (Accepts · way)) :
    (lastInstant < first.ended + m.poll.timeout ∧ polls = [] ∧ outcome = .error .overflow) ∨
      (first.ended + m.poll.timeout ≤ lastInstant ∧ ∃ before last, polls = before ++ [last] ∧
        (∀ p ∈ polls, p.query = .look way.address) ∧
        (∀ p ∈ before, p.outcome.Finds way.GoesOn ∧
          p.ended + m.poll.interval ≤ first.ended + m.poll.timeout) ∧
        way.Ends operation m.poll.interval (first.ended + m.poll.timeout) last outcome) := by
  cases h with
  | refused h => exact absurd haccepts (Outcome.not_finds h)
  | settled h hfinal => exact absurd ((Outcome.finds_iff h).1 haccepts) (hfinal way)
  | untimed _ _ hover => exact Or.inl ⟨hover, rfl, rfl⟩
  | accepted h haccepts' hshown hpolls =>
    rw [((Outcome.finds_iff h).1 haccepts).unique haccepts']
    exact Or.inr ⟨hshown, hpolls.ends⟩

/-- A write that is not accepted to go on has no polls. -/
theorem alone (h : Launched m operation first polls outcome)
    (halone : ∀ way, ¬ first.outcome.Finds (Accepts · way)) :
    polls = [] ∧ ((∃ v, outcome = .ok (some v) ∧
        first.outcome.Finds fun r => Final r ∧ Holds r v) ∨
      ∃ fault, outcome = .error (.fault fault) ∧
        first.outcome.Fails fun r => Final r ∧ Garbled r) := by
  cases h with
  | @refused fault h => exact ⟨rfl, Or.inr ⟨fault, rfl, Outcome.fails_of_check h⟩⟩
  | @settled r h hfinal =>
    refine ⟨rfl, ?_⟩
    cases hread : readBody r with
    | ok v => exact Or.inl ⟨v, rfl, (Outcome.finds_iff h).2 ⟨hfinal, readBody_eq_ok.1 hread⟩⟩
    | error fault =>
      have hgarbled := readBody_eq_error.1 ⟨fault, hread⟩
      exact Or.inr ⟨fault, rfl, (Outcome.fails_iff h).2 ⟨hfinal, hgarbled⟩⟩
  | untimed h haccepts _ => exact absurd ((Outcome.finds_iff h).2 haccepts) (halone _)
  | accepted h haccepts _ _ => exact absurd ((Outcome.finds_iff h).2 haccepts) (halone _)

/-- **A write has a result if it has succeeded**, and only then. -/
theorem ok_iff (h : Launched m operation first polls outcome) :
    (∃ x, outcome = .ok x) ↔ Succeeded first polls := by
  unfold Succeeded
  -- an accepted write is decided by its last poll, any other by the answer to itself
  by_cases haccepted : ∃ way, first.outcome.Finds (Accepts · way)
  · obtain ⟨way, haccepts⟩ := haccepted
    obtain ⟨-, rfl, rfl⟩ | ⟨-, before, last, rfl, -, -, hends⟩ := h.ends haccepts
    · exact iff_of_false (by simp) (not_concluded_nil haccepts)
    · rw [concluded_concat haccepts]
      cases hends with
      | late hlast _ => simp [hlast.not_finds fun r => Following.GoesOn.not_succeeds]
      | succeeds hlast _ => simp [hlast]
      | breaks hlast _ => simp [hlast.not_finds fun r => Following.Succeeds.not_breaks]
  · rw [not_exists] at haccepted
    obtain ⟨rfl, ⟨v, rfl, hsettles⟩ | ⟨fault, rfl, hfails⟩⟩ := h.alone haccepted
    · rw [concluded_nil]
      exact iff_of_true ⟨_, rfl⟩ (hsettles.mono fun r hr => ⟨hr.1, v, hr.2⟩)
    · rw [concluded_nil]
      refine iff_of_false (by simp) (hfails.not_finds ?_)
      rintro r ⟨-, v, hv⟩ ⟨-, hgarbled⟩
      exact hv.not_garbled hgarbled

theorem open_iff (h : Launched m operation first polls outcome) :
    (∃ x, outcome = .ok x ∧ (x = none ∨ x = some .null)) ↔ LeftOpen first polls := by
  unfold LeftOpen
  by_cases haccepted : ∃ way, first.outcome.Finds (Accepts · way)
  · obtain ⟨way, haccepts⟩ := haccepted
    obtain ⟨-, rfl, rfl⟩ | ⟨-, before, last, rfl, -, -, hends⟩ := h.ends haccepts
    · exact iff_of_false (by simp) (not_concluded_nil haccepts)
    · rw [concluded_concat haccepts]
      cases hends with
      | late hlast _ =>
        simp [hlast.not_finds fun r hr hr' => hr.not_succeeds (Following.LeavesOpen.succeeds hr')]
      | succeeds _ hopen => simp [hopen]
      | breaks hlast _ =>
        simp [hlast.not_finds fun r hr => (Following.LeavesOpen.succeeds hr).not_breaks]
  · rw [not_exists] at haccepted
    obtain ⟨rfl, ⟨v, rfl, hsettles⟩ | ⟨fault, rfl, hfails⟩⟩ := h.alone haccepted
    · obtain ⟨r, ho, hwell, hfinal, hholds⟩ := hsettles
      have hnull : Holds r .null ↔ v = .null := ⟨hholds.unique, fun h => h ▸ hholds⟩
      rw [concluded_nil, ho, Outcome.finds_answered hwell, hnull]
      simp [hfinal]
    · rw [concluded_nil]
      refine iff_of_false (by simp) (hfails.not_finds ?_)
      rintro r ⟨-, hv⟩ ⟨-, hgarbled⟩
      exact hv.not_garbled hgarbled

/-- Once a poll breaks an operation off, there is none after it. -/
theorem broken (h : Launched m operation first polls outcome)
    (haccepts : first.outcome.Finds (Accepts · way)) {before after : List Round} {p : Round}
    (hpolls : polls = before ++ p :: after) (hbreaks : p.outcome.Fails way.Breaks) :
    after = [] ∧ ∃ fault, outcome = .error (.fault fault) := by
  obtain ⟨-, rfl, -⟩ | ⟨-, earlier, last, rfl, -, hearlier, hends⟩ := h.ends haccepts
  · simp at hpolls
  rcases List.eq_nil_or_concat after with rfl | ⟨after, last', rfl⟩
  · obtain ⟨-, rfl⟩ := List.append_singleton_inj.1 hpolls
    cases hends with
    | late hlast _ => exact absurd hbreaks (hlast.not_fails fun r => Following.GoesOn.not_breaks)
    | succeeds hlast _ =>
      exact absurd hbreaks (hlast.not_fails fun r => Following.Succeeds.not_breaks)
    | breaks _ _ => exact ⟨rfl, _, rfl⟩
  · -- a poll with another one after it has found that the operation goes on
    have hconcat : earlier ++ [last] = (before ++ p :: after) ++ [last'] := by simp [hpolls]
    obtain ⟨rfl, -⟩ := List.append_singleton_inj.1 hconcat
    have hgoesOn := (hearlier p (by simp)).1
    exact absurd hbreaks (hgoesOn.not_fails fun r => Following.GoesOn.not_breaks)

/-- A write with a result had nothing but answers of success. -/
theorem answered {x : Option Value} (h : Launched m operation first polls (.ok x)) :
    ∀ p ∈ first :: polls, p.outcome.Finds fun _ => True := by
  by_cases haccepted : ∃ way, first.outcome.Finds (Accepts · way)
  · obtain ⟨way, haccepts⟩ := haccepted
    obtain ⟨-, -, ⟨⟩⟩ | ⟨-, before, last, rfl, -, hbefore, hends⟩ := h.ends haccepts
    cases hends with
    | succeeds hlast _ =>
      -- the polls before the last found that it goes on, and that takes an answer
      intro p hp
      simp only [List.mem_cons, List.mem_append, List.not_mem_nil, or_false] at hp
      rcases hp with rfl | hp | rfl
      · exact haccepts.mono fun _ _ => trivial
      · exact (hbefore p hp).1.mono fun _ _ => trivial
      · exact hlast.mono fun _ _ => trivial
  · rw [not_exists] at haccepted
    obtain ⟨rfl, ⟨v, -, hsettles⟩ | ⟨fault, h, -⟩⟩ := h.alone haccepted
    · intro p hp
      rw [List.mem_singleton.1 hp]
      exact hsettles.mono fun _ _ => trivial
    · cases h

end Launched

/-! ## The course of a write -/

/-- What becomes of a write that has come to its end: it has failed, its result is taken, or the
resource is read. -/
inductive Finished {α : Type} (resource : String) (readsBack : Bool) :
    Except Halt (Option Value) → List Round → Except Halt α → Prop
  | failed (halt : Halt) : Finished resource readsBack (.error halt) [] (.error halt)
  | taken {x : Option Value} (a : α) (h : readsBack = true → x ≠ none ∧ x ≠ some .null) :
      Finished resource readsBack (.ok x) [] (.ok a)
  | read {x : Option Value} {o : Outcome} {ended : Nat} {result : Except Fault α}
      (hback : readsBack = true) (hx : x = none ∨ x = some .null)
      (hresult : (∃ a, result = .ok a) ↔ o.Finds fun r => ∃ v, Holds r v) :
      Finished resource readsBack (.ok x) [⟨.look resource, o, ended⟩] (Halt.ofResult result)

namespace Finished

variable {α : Type} {resource : String} {readsBack : Bool} {reads : List Round}
variable {outcome : Except Halt (Option Value)} {result : Except Halt α} {halt : Halt}

theorem of_error (h : Finished resource readsBack (.error halt) reads result) :
    reads = [] ∧ result = .error halt := by
  cases h
  exact ⟨rfl, rfl⟩

theorem reads_once (h : Finished resource readsBack outcome reads result) :
    reads.length ≤ 1 ∧ ∀ g ∈ reads, g.query = .look resource := by
  cases h <;> simp

theorem read_iff (h : Finished resource readsBack outcome reads result) :
    reads ≠ [] ↔ readsBack = true ∧ ∃ x, outcome = .ok x ∧ (x = none ∨ x = some .null) := by
  cases h with
  | failed halt => simp
  | taken a h =>
    refine iff_of_false (by simp) ?_
    rintro ⟨hback, x, ⟨⟩, hx⟩
    exact hx.elim (h hback).1 (h hback).2
  | read hback hx _ => exact iff_of_true (by simp) ⟨hback, _, rfl, hx⟩

theorem ok_iff (h : Finished resource readsBack outcome reads result) :
    (∃ a, result = .ok a) ↔ (∃ x, outcome = .ok x) ∧
      ∀ g ∈ reads, g.outcome.Finds fun r => ∃ v, Holds r v := by
  cases h with
  | failed halt => simp
  | taken a h => simp
  | read _ _ hresult => simp [Halt.ofResult_eq_ok, hresult]

/-- A read of the resource that fails is a fault. -/
theorem read_fails (h : Finished resource readsBack outcome reads result) :
    ∀ g ∈ reads, g.outcome.Fails Garbled → ∃ fault, result = .error (.fault fault) := by
  cases h with
  | failed halt => simp
  | taken a h => simp
  | @read x o ended result hback hx hresult =>
    intro g hg hfails
    rw [List.mem_singleton.1 hg] at hfails
    cases result with
    | error fault => exact ⟨fault, rfl⟩
    | ok a =>
      have hfinds := hresult.1 ⟨a, rfl⟩
      exact absurd hfails (hfinds.not_fails fun r hr => hr.elim fun v => Holds.not_garbled)

end Finished

/-- **The course of a write**: its first round, its polls, the rounds in which the resource is read,
and its result. -/
structure Course {α : Type} (m : ResourceManager) (operation : String) (readsBack : Bool)
    (first : Round) (polls reads : List Round) (result : Except Halt α) : Prop where
  /-- Only an accepted write is followed, and at no other address than it was accepted with. -/
  polled : ∀ p ∈ polls, ∃ way, first.outcome.Finds (Accepts · way) ∧ p.query = .look way.address
  /-- An accepted write is followed if the clock can show when the polls are to give up. -/
  untimed : ∀ way, first.outcome.Finds (Accepts · way) →
    lastInstant < first.ended + m.poll.timeout →
      polls = [] ∧ reads = [] ∧ result = .error .overflow
  /-- It is followed until a poll finds that it goes on no longer, or time is up, which is a fault
  and the end. -/
  followed : ∀ way, first.outcome.Finds (Accepts · way) →
    first.ended + m.poll.timeout ≤ lastInstant → ∃ before last, polls = before ++ [last] ∧
      (∀ p ∈ before, p.outcome.Finds way.GoesOn ∧
        p.ended + m.poll.interval ≤ first.ended + m.poll.timeout) ∧
      (last.outcome.Finds way.GoesOn →
        first.ended + m.poll.timeout < last.ended + m.poll.interval ∧
          reads = [] ∧ result = .error (.late operation (last.ended + m.poll.interval)))
  /-- At most one request reads the resource. -/
  reads_once : reads.length ≤ 1 ∧ ∀ g ∈ reads, g.query = .look first.query.address
  /-- The resource is read exactly if the write has succeeded without saying what is there now. -/
  read_iff : reads ≠ [] ↔ readsBack = true ∧ LeftOpen first polls
  /-- There is a result exactly if the write has succeeded, and any read of the resource too. -/
  succeeds : (∃ a, result = .ok a) ↔
    Succeeded first polls ∧ ∀ g ∈ reads, g.outcome.Finds fun r => ∃ v, Holds r v
  /-- There is no result unless every request was answered with success. -/
  answered : ∀ a, result = .ok a → ∀ p ∈ first :: (polls ++ reads), p.outcome.Finds fun _ => True
  /-- A write that fails is a fault and the end. -/
  write_fails : first.outcome.Fails (fun r => Final r ∧ Garbled r) →
    polls = [] ∧ reads = [] ∧ ∃ fault, result = .error (.fault fault)
  /-- A poll that fails, or breaks the operation off, is a fault and the end. -/
  poll_fails : ∀ way, first.outcome.Finds (Accepts · way) → ∀ before p after,
    polls = before ++ p :: after → p.outcome.Fails way.Breaks →
      after = [] ∧ reads = [] ∧ ∃ fault, result = .error (.fault fault)
  /-- A read that fails is a fault. -/
  read_fails : ∀ g ∈ reads, g.outcome.Fails Garbled → ∃ fault, result = .error (.fault fault)

/-- **What becomes of a write makes up its course.** -/
theorem Launched.course {α : Type} {readsBack : Bool} {first : Round} {polls reads : List Round}
    {outcome : Except Halt (Option Value)} {result : Except Halt α}
    (h : Launched m operation first polls outcome)
    (hfinished : Finished first.query.address readsBack outcome reads result) :
    Course m operation readsBack first polls reads result where
  polled := by
    intro p hp
    by_cases haccepted : ∃ way, first.outcome.Finds (Accepts · way)
    · obtain ⟨way, haccepts⟩ := haccepted
      obtain ⟨-, rfl, -⟩ | ⟨-, -, -, -, hqueries, -⟩ := h.ends haccepts
      · cases hp
      · exact ⟨way, haccepts, hqueries p hp⟩
    · rw [not_exists] at haccepted
      rw [(h.alone haccepted).1] at hp
      cases hp
  untimed := by
    intro way haccepts hover
    obtain ⟨-, hpolls, rfl⟩ | ⟨hshown, -⟩ := h.ends haccepts
    · exact ⟨hpolls, hfinished.of_error⟩
    · exact absurd hover (Nat.not_lt.2 hshown)
  followed := by
    intro way haccepts hshown
    obtain ⟨hover, -⟩ | ⟨-, before, last, hpolls, -, hbefore, hends⟩ := h.ends haccepts
    · exact absurd hover (Nat.not_lt.2 hshown)
    refine ⟨before, last, hpolls, hbefore, fun hgoesOn => ?_⟩
    cases hends with
    | late _ hlate => exact ⟨hlate, hfinished.of_error⟩
    | succeeds hlast _ =>
      exact absurd hlast (hgoesOn.not_finds fun r => Following.GoesOn.not_succeeds)
    | breaks hlast _ => exact absurd hlast (hgoesOn.not_fails fun r => Following.GoesOn.not_breaks)
  reads_once := hfinished.reads_once
  read_iff := by rw [hfinished.read_iff, h.open_iff]
  succeeds := by rw [hfinished.ok_iff, h.ok_iff]
  answered := by
    intro a ha p hp
    obtain ⟨⟨x, rfl⟩, hreads⟩ := hfinished.ok_iff.1 ⟨a, ha⟩
    rw [← List.cons_append, List.mem_append] at hp
    rcases hp with hp | hp
    · exact h.answered p hp
    · exact (hreads p hp).mono fun _ _ => trivial
  write_fails := by
    intro hfails
    -- an accepted write has not failed, so here there was nothing to poll
    have hnotAccepted : ∀ way, ¬ first.outcome.Finds (Accepts · way) := fun way haccepts =>
      haccepts.not_fails (fun r hr hfinal => hfinal.1 way hr) hfails
    obtain ⟨rfl, ⟨v, -, hsettles⟩ | ⟨fault, rfl, -⟩⟩ := h.alone hnotAccepted
    · exact absurd hfails (hsettles.not_fails fun r hr hgarbled => hr.2.not_garbled hgarbled.2)
    · obtain ⟨hreads, hresult⟩ := hfinished.of_error
      exact ⟨rfl, hreads, fault, hresult⟩
  poll_fails := by
    intro way haccepts before p after hpolls hbreaks
    obtain ⟨rfl, fault, rfl⟩ := h.broken haccepts hpolls hbreaks
    obtain ⟨hreads, hresult⟩ := hfinished.of_error
    exact ⟨rfl, hreads, fault, hresult⟩
  read_fails := hfinished.read_fails

/-- The dialogue sends a write once and takes its course. -/
def Follows {α : Type} (m : ResourceManager) (operation : String) (q : Query) (readsBack : Bool)
    (d : Dialogue α) (s : Session) : Prop :=
  ∃ first polls reads, first.query = q ∧ m.Talk s (first :: (polls ++ reads)) (d s).2 ∧
    (d s).2.server.received =
      s.server.received ++ (first :: (polls ++ reads)).flatMap Round.received ∧
    Course m operation readsBack first polls reads (d s).1

theorem delete_eq (operation path version : String) :
    m.delete operation path version =
      m.launch operation ⟨.delete, m.address path version, none⟩ >>= fun _ => return () := by
  unfold delete launch
  rw [bind_assoc]

end Writes

end ResourceManager

end RegistryStorage
