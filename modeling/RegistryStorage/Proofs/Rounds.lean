import RegistryStorage.Proofs.Answers
import RegistryStorage.Proofs.PollingLaw
import RegistryStorage.ResourceManager.Client

/-!
Conversations with the resource manager.

A `Query` is what is asked of the resource manager, and its `Outcome` tells apart the three things
that can become of it: there was no token to show, there was no answer, or there was one, of
whatever status. A query with its outcome is a `Round`, and `Talk` says which rounds lead from one
session to another, with or without waiting between them. `send` judges an outcome at once, so it is
taken apart here into the outcome and the judgement (`ask_eq`, `question_pose`).

What holds of the rounds of a dialogue, and of its result, from whichever session it starts, is
written `Dialogue.Tells`, with one rule for each way in which dialogues are put together. The main
statement about single requests is `Talk.received`: apart from the requests for tokens, the server
has received the queries of the rounds that reached it, and nothing else. The one about repeated
requests is `follow_tells`: following an operation is asking one address until the answer settles it
or time has run out, and an induction over the polls shows it. If there is no deadline, because the
clock could not show it, nothing is asked and the program breaks down.
-/

set_option autoImplicit false

namespace RegistryStorage

open Http
open Json (Value)

namespace Halt

variable {α : Type} {e : Except Fault α} {a : α} {halt : Halt}

theorem ofResult_eq_ok : ofResult e = .ok a ↔ e = .ok a := by
  cases e with
  | ok x => constructor <;> rintro ⟨⟩ <;> rfl
  | error fault => exact ⟨nofun, nofun⟩

/-- A result that is taken over breaks nothing down. -/
theorem ofResult_eq_error : ofResult e = .error halt ↔ ∃ f, e = .error f ∧ halt = .fault f := by
  cases e with
  | ok x => exact ⟨nofun, nofun⟩
  | error fault =>
    constructor
    · rintro ⟨⟩
      exact ⟨fault, rfl, rfl⟩
    · rintro ⟨_, ⟨⟩, rfl⟩
      rfl

end Halt

/-- An address as it is requested. -/
@[irreducible] def Url.asRequested (address : String) : String :=
  match parse address with
  | .ok url => url.requested.text
  | .error _ => ""

namespace ResourceManager

/-! ## Queries and what becomes of them -/

/-- What is asked of the resource manager. -/
structure Query where
  method : Method
  address : String
  body : Option Value := none

/-- A look at an address. -/
def Query.look (address : String) : Query := { method := .get, address }

/-- What becomes of a query. -/
inductive Outcome
  /-- There was no token that could be shown. -/
  | tokenless (fault : Fault)
  /-- There was no answer. -/
  | unanswered (fault : TransportFault)
  /-- There was an answer, of whatever status. -/
  | answered (r : Response)

namespace Outcome

/-- The answer of a query that succeeded, or why there is none. -/
def check (address : String) : Outcome → Except Fault Response
  | tokenless fault => .error fault
  | unanswered fault => .error (.unanswered address fault)
  | answered r => checkStatus r

/-- The query succeeded, and the answer is of a sort. -/
def Finds (right : Response → Prop) (o : Outcome) : Prop :=
  ∃ r, o = answered r ∧ r.Well ∧ right r

/-- The query failed: no token, no answer, no success, or an answer of a wrong sort. -/
def Fails (wrong : Response → Prop) : Outcome → Prop
  | tokenless _ | unanswered _ => True
  | answered r => ¬ r.Well ∨ wrong r

variable {address : String} {o : Outcome} {r : Response}

theorem checkStatus_eq_ok {x : Response} : checkStatus x = .ok r ↔ x = r ∧ r.Well := by
  rw [← Response.isSuccess_iff]
  unfold checkStatus
  split
  · rename_i hsuccess
    constructor
    · rintro ⟨⟩
      exact ⟨rfl, hsuccess⟩
    · rintro ⟨rfl, -⟩
      rfl
  · rename_i hfailure
    refine ⟨fun h => ?_, ?_⟩
    · split at h <;> cases h
    · rintro ⟨rfl, hsuccess⟩
      exact absurd hsuccess hfailure

/-- Only an answer of success passes. -/
theorem check_eq_ok : o.check address = .ok r ↔ o = answered r ∧ r.Well := by
  cases o with
  | tokenless fault => simp [check]
  | unanswered fault => simp [check]
  | answered x => rw [check, checkStatus_eq_ok, Outcome.answered.injEq]

theorem finds_of_check {right : Response → Prop} (h : o.check address = .ok r) (hr : right r) :
    o.Finds right :=
  ⟨r, (check_eq_ok.1 h).1, (check_eq_ok.1 h).2, hr⟩

/-- A query that did not pass is one that failed, whatever else would have been wrong. -/
theorem fails_of_check {wrong : Response → Prop} {fault : Fault}
    (h : o.check address = .error fault) : o.Fails wrong := by
  cases o with
  | tokenless _ => trivial
  | unanswered _ => trivial
  | answered x =>
    refine Or.inl fun hwell => ?_
    rw [check, checkStatus_eq_ok.2 ⟨rfl, hwell⟩] at h
    cases h

theorem Fails.of_finds {wrong right : Response → Prop} (h : o.Fails wrong) (ho : o.Finds right) :
    ∃ r, o = answered r ∧ right r ∧ wrong r := by
  obtain ⟨r, rfl, hwell, hright⟩ := ho
  exact ⟨r, rfl, hright, h.resolve_left (not_not_intro hwell)⟩

theorem Finds.mono {right right' : Response → Prop} (h : o.Finds right)
    (hr : ∀ r, right r → right' r) : o.Finds right' := by
  obtain ⟨r, ho, hwell, hright⟩ := h
  exact ⟨r, ho, hwell, hr r hright⟩

end Outcome

/-- A query, what became of it, and the time on the clock when it did. -/
structure Round where
  query : Query
  outcome : Outcome
  ended : Nat

/-! ## Rounds of a session -/

variable {m : ResourceManager} {s t u : Session} {q : Query}

/-- Poses a query: obtains a token and sends a request. -/
def pose (m : ResourceManager) (q : Query) (s : Session) : Outcome × Session :=
  match s.token m.source [m.tokenScope] with
  | (.error fault, ⟨t, _⟩) => (.tokenless fault, t)
  | (.ok token, ⟨t, _⟩) =>
    let authorization := "Bearer " ++ token
    if isHeaderValue authorization then
      match t.server.send q.method q.address (headers authorization) (.ofBody q.body) with
      | .failed fault u _ => (.unanswered fault, { t with server := u })
      | .answered r u _ => (.answered r, { t with server := u })
    else (.tokenless (.authentication "Invalid token format: failed to parse header value"), t)

/-- **To send is to pose a query and to check what becomes of it.** -/
theorem send_pose (q : Query) (s : Session) :
    match m.send q.method q.address q.body s with
    | .answered r t _ => m.pose q s = (.answered r, t) ∧ r.Well
    | .failed fault t _ =>
      (m.pose q s).2 = t ∧ (m.pose q s).1.check q.address = .error fault := by
  unfold send pose
  rcases s.token m.source [m.tokenScope] with ⟨fault | token, t, ht⟩
  · exact ⟨rfl, rfl⟩
  · dsimp only
    by_cases hvalid : isHeaderValue ("Bearer " ++ token) = true
    · rw [if_pos hvalid, if_pos hvalid]
      cases hsent : t.server.send q.method q.address (headers ("Bearer " ++ token))
          (.ofBody q.body) with
      | failed fault u hu => exact ⟨rfl, rfl⟩
      | answered r u hu =>
        dsimp only
        cases hcheck : checkStatus r with
        | ok r' =>
          obtain ⟨rfl, hsuccess⟩ := Outcome.checkStatus_eq_ok.1 hcheck
          exact ⟨rfl, hsuccess⟩
        | error fault => exact ⟨rfl, hcheck⟩
    · rw [if_neg hvalid, if_neg hvalid]
      exact ⟨rfl, rfl⟩

/-- Asking, as a query that is posed and checked. -/
theorem ask_eq (q : Query) (s : Session) :
    m.ask q.method q.address q.body s =
      (Halt.ofResult ((m.pose q s).1.check q.address), (m.pose q s).2) := by
  have hsend := send_pose (m := m) q s
  unfold ask
  revert hsend
  cases m.send q.method q.address q.body s with
  | answered r t h =>
    rintro ⟨hpose, hsuccess⟩
    rw [hpose, Outcome.check_eq_ok.2 ⟨rfl, hsuccess⟩]
    rfl
  | failed fault t h =>
    rintro ⟨hpose, hcheck⟩
    rw [hpose, hcheck]
    rfl

section Following

variable {α : Type}

/-- **One poll is a look at the address, and a judgement on what becomes of it.** -/
theorem question_pose (address : String) (judge : Response → Except Fault (PollStatus α))
    (s : Session) :
    match m.question address judge s with
    | .pending t _ => (m.pose (.look address) s).2 = t ∧
        (m.pose (.look address) s).1.check address >>= judge = .ok .pending
    | .settled result t => (m.pose (.look address) s).2 = t ∧
        (m.pose (.look address) s).1.check address >>= judge = PollStatus.done <$> result := by
  have hsend := send_pose (m := m) (.look address) s
  unfold question
  revert hsend
  show (match m.send .get address none s with | .answered .. => _ | .failed .. => _) → _
  cases m.send .get address none s with
  | failed fault t h =>
    rintro ⟨hpose, hcheck⟩
    rw [show (m.pose (.look address) s).1.check address = .error fault from hcheck]
    exact ⟨hpose, rfl⟩
  | answered r t h =>
    rintro ⟨hpose, hsuccess⟩
    rw [hpose, Outcome.check_eq_ok.2 ⟨rfl, hsuccess⟩]
    dsimp only
    cases hjudge : judge r with
    | error fault => exact ⟨rfl, hjudge⟩
    | ok status =>
      cases status with
      | pending => exact ⟨rfl, hjudge⟩
      | done a => exact ⟨rfl, hjudge⟩

theorem question_settled {address : String} {judge : Response → Except Fault (PollStatus α)}
    {result : Except Fault α} (h : m.question address judge s = .settled result t) :
    (m.pose (.look address) s).2 = t ∧
      (m.pose (.look address) s).1.check address >>= judge = PollStatus.done <$> result := by
  have hround := question_pose (m := m) address judge s
  rwa [h] at hround

theorem question_pending {address : String} {judge : Response → Except Fault (PollStatus α)}
    {smaller : waiting.size t < waiting.size s}
    (h : m.question address judge s = .pending t smaller) :
    (m.pose (.look address) s).2 = t ∧
      (m.pose (.look address) s).1.check address >>= judge = .ok .pending := by
  have hround := question_pose (m := m) address judge s
  rwa [h] at hround

/-- The rounds of polls at an address, and what they come to: each poll but the last found that the
operation goes on, and left time for another one. -/
inductive Followed (operation address : String) (interval deadline : Nat)
    (judge : Response → Except Fault (PollStatus α)) : List Round → Except Halt α → Prop
  /-- The poll settles the operation, well or with a fault. -/
  | settled {o : Outcome} {ended : Nat} {result : Except Fault α}
      (h : o.check address >>= judge = PollStatus.done <$> result) :
      Followed operation address interval deadline judge [⟨.look address, o, ended⟩]
        (Halt.ofResult result)
  /-- The operation goes on, but time has run out. -/
  | late {o : Outcome} {ended : Nat} (h : o.check address >>= judge = .ok .pending)
      (hlate : deadline < ended + interval) :
      Followed operation address interval deadline judge [⟨.look address, o, ended⟩]
        (.error (.late operation (ended + interval)))
  /-- The operation goes on, and so do the polls. -/
  | goesOn {o : Outcome} {ended : Nat} {polls : List Round} {result : Except Halt α}
      (h : o.check address >>= judge = .ok .pending) (hearly : ended + interval ≤ deadline)
      (later : Followed operation address interval deadline judge polls result) :
      Followed operation address interval deadline judge (⟨.look address, o, ended⟩ :: polls) result

end Following

/-- The rounds that lead from one session to another. Time may pass between them. -/
inductive Talk (m : ResourceManager) : Session → List Round → Session → Prop
  | done (s : Session) : Talk m s [] s
  | pause {s t : Session} {rounds : List Round} (duration : Nat)
      (later : Talk m (s.sleep duration) rounds t) : Talk m s rounds t
  | pose {s t : Session} {rounds : List Round} (q : Query)
      (later : Talk m (m.pose q s).2 rounds t) :
      Talk m s (⟨q, (m.pose q s).1, (m.pose q s).2.server.clock⟩ :: rounds) t

theorem Talk.append {rounds more : List Round} (h : m.Talk s rounds t) (h' : m.Talk t more u) :
    m.Talk s (rounds ++ more) u := by
  induction h with
  | done s => exact h'
  | pause duration _ ih => exact .pause duration (ih h')
  | pose q _ ih => exact .pose q (ih h')

/-- A single round. -/
theorem Talk.single (q : Query) (s : Session) :
    m.Talk s [⟨q, (m.pose q s).1, (m.pose q s).2.server.clock⟩] (m.pose q s).2 :=
  .pose q (.done _)

end ResourceManager

/-! ## What the server receives -/

/-- Whether a request is for a token. Those for tokens are forms. -/
def Http.Request.isForToken (r : Request) : Bool :=
  match r.content with
  | .form _ => true
  | _ => false

/-- What a request says, apart from its headers. -/
def Http.Request.gist (r : Request) : Method × String × Http.Content := (r.method, r.url, r.content)

/-- What the requests say that a server has received, those for tokens apart, the oldest first. -/
def Http.Server.received (s : Server) : List (Method × String × Http.Content) :=
  ((s.requests.filter fun r => !r.isForToken).map Request.gist).reverse

/-- Whether a request that was not answered reached the server. -/
def Http.TransportFault.reached : TransportFault → Bool
  | dropped _ => true
  | _ => false

/-- Whether the query reached the server. -/
def ResourceManager.Outcome.reached : Outcome → Bool
  | tokenless _ => false
  | unanswered fault => fault.reached
  | answered _ => true

/-- What the server receives in a round. -/
def ResourceManager.Round.received (r : Round) : List (Method × String × Http.Content) :=
  if r.outcome.reached then
    [(r.query.method, Url.asRequested r.query.address, .ofBody r.query.body)]
  else []

namespace Http

/-- Whether the request that was delivered so reached the server. -/
def Delivery.reached {s : Server} : Delivery s → Bool
  | .answered .. => true
  | .failed fault _ _ => fault.reached

/-- The server after a delivery. -/
def Delivery.server {s : Server} : Delivery s → Server
  | .answered _ t _ | .failed _ t _ => t

theorem Server.requests_receive (s : Server) (shown : String) (r : Request) :
    (s.receive shown r).server.requests =
      (if (s.receive shown r).reached then [r] else []) ++ s.requests := by
  unfold receive
  split
  · rfl
  · rename_i e rest hscript
    cases e <;> rfl

/-- **A request is in the server's books if it reached the server.** -/
theorem Server.requests_send (s : Server) (method : Method) (address : String)
    (headers : List (String × String)) (content : Http.Content) :
    ∃ sent, (s.send method address headers content).server.requests =
      (if (s.send method address headers content).reached then
        [⟨method, Url.asRequested address, sent, content⟩] else []) ++ s.requests := by
  refine ⟨headers.map fun h => (h.1, trimmed h.2), ?_⟩
  unfold send Url.asRequested
  cases Url.parse address with
  | error fault => rfl
  | ok url =>
    dsimp only
    split
    · exact requests_receive ..
    · rfl

theorem Server.received_token {s t : Server} {r : Request} {reached : Bool}
    (h : t.requests = (if reached then [r] else []) ++ s.requests) (hr : r.isForToken = true) :
    t.received = s.received := by
  unfold received
  rw [h]
  cases reached <;> simp [hr]

theorem Server.received_query {s t : Server} {r : Request} {reached : Bool}
    (h : t.requests = (if reached then [r] else []) ++ s.requests) (hr : r.isForToken = false) :
    t.received = s.received ++ if reached then [r.gist] else [] := by
  unfold received
  rw [h]
  cases reached <;> simp [hr]

theorem Session.received_requestToken {authority : Url} {tenant client secret : String}
    {scopes : List String} (s : Session) :
    (s.requestToken authority tenant client secret scopes).2.1.server.received =
      s.server.received := by
  unfold requestToken
  split
  · obtain ⟨sent, hrequests⟩ := s.server.requests_send .post
      (authority.push [tenant, "oauth2", "v2.0", "token"]).text (tokenHeaders authority)
      (.form (tokenForm scopes client secret))
    dsimp only
    revert hrequests
    generalize s.server.send .post (authority.push [tenant, "oauth2", "v2.0", "token"]).text
      (tokenHeaders authority) (.form (tokenForm scopes client secret)) = delivery
    intro hrequests
    cases delivery with
    | failed fault t h => exact Server.received_token hrequests rfl
    | answered r t h =>
      dsimp only
      split <;> exact Server.received_token hrequests rfl
  · rfl

/-- Getting a token is no query. -/
theorem Session.received_token (source : TokenSource) (scopes : List String) (s : Session) :
    (s.token source scopes).2.1.server.received = s.server.received := by
  cases source with
  | custom result => rfl
  | surroundings => rfl
  | clientSecret authority tenant client secret =>
    unfold token
    dsimp only
    split
    · rfl
    · exact received_requestToken _

end Http

namespace ResourceManager

variable {m : ResourceManager} {s t : Session} {q : Query}

theorem received_pose (ended : Nat) :
    (m.pose q s).2.server.received =
      s.server.received ++ (⟨q, (m.pose q s).1, ended⟩ : Round).received := by
  have htoken := Session.received_token m.source [m.tokenScope] s
  unfold pose
  revert htoken
  rcases s.token m.source [m.tokenScope] with ⟨fault | token, t, ht⟩
  · intro htoken
    exact htoken.trans (List.append_nil _).symm
  · intro htoken
    dsimp only at htoken ⊢
    rw [← htoken]
    split
    · have hquery : ∀ sent, (⟨q.method, Url.asRequested q.address, sent, .ofBody q.body⟩ :
          Request).isForToken = false := by
        intro sent
        unfold Request.isForToken Http.Content.ofBody
        cases q.body <;> rfl
      obtain ⟨sent, hrequests⟩ := t.server.requests_send q.method q.address
        (headers ("Bearer " ++ token)) (.ofBody q.body)
      revert hrequests
      generalize t.server.send q.method q.address (headers ("Bearer " ++ token))
        (.ofBody q.body) = delivery
      intro hrequests
      cases delivery with
      | failed fault u h => exact Server.received_query hrequests (hquery sent)
      | answered r u h => exact Server.received_query hrequests (hquery sent)
    · exact (List.append_nil _).symm

/-- **The server receives what the rounds say**, and nothing else but requests for tokens. -/
theorem Talk.received {rounds : List Round} (h : m.Talk s rounds t) :
    t.server.received = s.server.received ++ rounds.flatMap Round.received := by
  induction h with
  | done s => exact (List.append_nil _).symm
  | pause duration _ ih => exact ih
  | pose q _ ih => rw [ih, received_pose, List.flatMap_cons, List.append_assoc]

end ResourceManager

/-! ## What holds of the rounds of a dialogue -/

namespace Dialogue

variable {α β : Type} {m : ResourceManager} {d : Dialogue α}
variable {P P' : Nat → List ResourceManager.Round → Except Halt α → Nat → Prop}

/-- The dialogue consists of rounds, and comes to a result. Of these, and of the time when it begins
and ends, `P` holds. -/
def Tells (m : ResourceManager) (d : Dialogue α)
    (P : Nat → List ResourceManager.Round → Except Halt α → Nat → Prop) : Prop :=
  ∀ s, ∃ rounds, m.Talk s rounds (d s).2 ∧
    P s.server.clock rounds (d s).1 (d s).2.server.clock

theorem Tells.mono (h : d.Tells m P)
    (hP : ∀ begun rounds result ended, P begun rounds result ended → P' begun rounds result ended) :
    d.Tells m P' := by
  intro s
  obtain ⟨rounds, htalk, hrounds⟩ := h s
  exact ⟨rounds, htalk, hP _ _ _ _ hrounds⟩

/-- **Two dialogues in a row.** The second takes place only if the first comes to a value. -/
theorem Tells.bind {f : α → Dialogue β}
    {Q : α → Nat → List ResourceManager.Round → Except Halt β → Nat → Prop}
    (h : d.Tells m P) (hf : ∀ a, (f a).Tells m (Q a)) :
    (d >>= f).Tells m fun begun rounds result ended =>
      (∃ halt, P begun rounds (.error halt) ended ∧ result = .error halt) ∨
        ∃ a before between after, rounds = before ++ after ∧ P begun before (.ok a) between ∧
          Q a between after result ended := by
  intro s
  obtain ⟨before, htalk, hbefore⟩ := h s
  have hbind : (d >>= f) s = ExceptT.bindCont f (d s).1 (d s).2 := rfl
  rw [hbind]
  revert htalk hbefore
  rcases d s with ⟨halt | a, t⟩
  · intro htalk hbefore
    exact ⟨before, htalk, Or.inl ⟨halt, hbefore, rfl⟩⟩
  · intro htalk hbefore
    obtain ⟨after, hmore, hafter⟩ := hf a t
    exact ⟨before ++ after, htalk.append hmore,
      Or.inr ⟨a, before, t.server.clock, after, rfl, hbefore, hafter⟩⟩

theorem pure_tells (a : α) :
    (pure a : Dialogue α).Tells m fun begun rounds result ended =>
      rounds = [] ∧ result = .ok a ∧ ended = begun :=
  fun s => ⟨[], .done s, rfl, rfl, rfl⟩

/-- A dialogue of which the result is changed. -/
theorem Tells.map (f : α → β) (h : d.Tells m P) :
    (f <$> d).Tells m fun begun rounds result ended =>
      ∃ before, P begun rounds before ended ∧ result = f <$> before := by
  rw [← bind_pure_comp]
  refine (h.bind fun a => pure_tells (f a)).mono ?_
  rintro begun rounds result ended
    (⟨halt, hrounds, rfl⟩ | ⟨a, before, between, -, rfl, hrounds, rfl, rfl, rfl⟩)
  · exact ⟨_, hrounds, rfl⟩
  · rw [List.append_nil]
    exact ⟨_, hrounds, rfl⟩

end Dialogue

namespace ResourceManager

variable {α : Type} {m : ResourceManager}

theorem ask_tells (q : Query) :
    (m.ask q.method q.address q.body).Tells m fun _ rounds result ended =>
      ∃ o, rounds = [⟨q, o, ended⟩] ∧ result = Halt.ofResult (o.check q.address) := by
  intro s
  rw [ask_eq]
  exact ⟨_, .single q s, _, rfl, rfl⟩

theorem ofResult_tells (e : Except Fault α) :
    (ofResult e).Tells m fun begun rounds result ended =>
      rounds = [] ∧ result = Halt.ofResult e ∧ ended = begun :=
  fun s => ⟨[], .done s, rfl, rfl, rfl⟩

/-- The polls of an operation with a deadline: the induction over the polls, made once. -/
theorem pollUntil_tells (operation address : String) {deadline : Nat}
    (judge : Response → Except Fault (PollStatus α)) (hshown : deadline ≤ lastInstant)
    (s : Session) :
    let ended := pollUntil waiting operation m.poll.interval deadline (m.question address judge) s
    ∃ rounds, m.Talk s rounds ended.2 ∧
      Followed operation address m.poll.interval deadline judge rounds ended.1 := by
  -- a poll after which there is no time for another one
  have hlast : ∀ s t smaller, m.question address judge s = .pending t smaller →
      deadline < waiting.clock t + m.poll.interval → ∃ rounds,
      m.Talk s rounds (pollUntil waiting operation m.poll.interval deadline
        (m.question address judge) s).2 ∧
      Followed operation address m.poll.interval deadline judge rounds
        (pollUntil waiting operation m.poll.interval deadline (m.question address judge) s).1 := by
    intro s t smaller hpoll hlate
    rw [pollUntil_last hpoll (Or.inr hlate)]
    obtain ⟨rfl, hjudge⟩ := question_pending hpoll
    exact ⟨_, .single _ s, .late hjudge hlate⟩
  -- each poll is one round, and a pause lies before the next
  induction s using pollUntil.induct waiting m.poll.interval deadline
    (m.question address judge) with
  | case1 s result t hpoll =>
    rw [pollUntil_settled hpoll]
    obtain ⟨rfl, hjudge⟩ := question_settled hpoll
    exact ⟨_, .single _ s, .settled hjudge⟩
  | case2 s t smaller hpoll next hover =>
    exact hlast s t smaller hpoll (Nat.lt_of_le_of_lt hshown hover)
  | case3 s t smaller hpoll next hclock hearly ih =>
    rw [pollUntil_next hpoll hclock hearly]
    obtain ⟨rfl, hjudge⟩ := question_pending hpoll
    obtain ⟨rounds, htalk, hfollowed⟩ := ih
    exact ⟨_, .pose _ (.pause _ htalk), .goesOn hjudge hearly hfollowed⟩
  | case4 s t smaller hpoll next hclock hlate =>
    exact hlast s t smaller hpoll (Nat.lt_of_not_le hlate)

/-- **Following an operation is polling it**, with a deadline that is counted from the beginning. If
the clock could not show the deadline, there is no poll and the program breaks down. -/
theorem follow_tells {operation address : String}
    {judge : Response → Except Fault (PollStatus α)} :
    (m.follow operation address judge).Tells m fun begun rounds result _ =>
      (lastInstant < begun + m.poll.timeout ∧ rounds = [] ∧ result = .error .overflow) ∨
        (begun + m.poll.timeout ≤ lastInstant ∧ Followed operation address m.poll.interval
          (begun + m.poll.timeout) judge rounds result) := by
  intro s
  unfold follow pollUntilDone
  dsimp only
  split
  · rename_i hover
    exact ⟨[], .done s, Or.inl ⟨hover, rfl, rfl⟩⟩
  · rename_i hclock
    have hshown : s.server.clock + m.poll.timeout ≤ lastInstant := Nat.le_of_not_lt hclock
    obtain ⟨rounds, htalk, hfollowed⟩ := pollUntil_tells operation address judge hshown s
    exact ⟨rounds, htalk, Or.inr ⟨hshown, hfollowed⟩⟩

end ResourceManager

end RegistryStorage
