import RegistryStorage.Proofs.Rereading
import RegistryStorage.ResourceManager.Client

/-!
What error bodies say.

A failure is told in one of two ways: by an answer that is no success, whose body is read by
`Fault.ofBody`, or by an answer that is one and tells that an operation failed, whose value is read
by `operationStatus`. Both end in `Fault.ofErrorMember`, but the first begins with a text and the
second with a value; that they say the same comes down to what is read again from the text of a
value (`Fault.ofBody_text`). Only the texts of two keys are asked for there, and these come back as
they were written, whatever stands beside them.

A body without an error member is itself the message (`Fault.ofBody_of_forall`). That holds of texts
that are no JSON and of those that lie too deep as well.
-/

set_option autoImplicit false

namespace RegistryStorage

open Http (Response)
open Json (Value)
open ResourceManager (checkStatus readBody operationStatus judgeStatus)

namespace Fault

variable {status : ℕ} {body : String} {v e e' : Value}

/-! ## Error members -/

/-- What an error member says does not change when it is read again. -/
theorem ofErrorMember_reread (he : e.Held) (h : e.reread = some e') :
    ofErrorMember status e' = ofErrorMember status e := by
  unfold ofErrorMember
  rw [he.textAt?_reread h, he.textAt?_reread h]

/-- An error member says its code and its message. -/
theorem ofErrorMember_of_texts {code message : String} (hcode : e.get? "code" = some (.text code))
    (hmessage : e.get? "message" = some (.text message)) :
    ofErrorMember status e = .response status code message := by
  have htext : ∀ {key text : String}, e.get? key = some (.text text) →
      e.textAt? [key] = some text := by
    intro key text h
    unfold Value.textAt? Value.at? Value.at?
    rw [h]
    rfl
  unfold ofErrorMember
  rw [htext hcode, htext hmessage]
  rfl

/-! ## Bodies -/

theorem ofBody_of_read? (h : Value.read? body = some v) (he : v.get? "error" = some e) :
    ofBody status body = ofErrorMember status e := by
  unfold ofBody
  rw [h, Option.bind_some, he]

/-- **A body that tells no error is itself the message.** -/
theorem ofBody_of_forall (h : ∀ v, Value.read? body = some v → v.get? "error" = none) :
    ofBody status body = .response status "" body := by
  have hnone : ((Value.read? body).bind fun v => v.get? "error") = none :=
    Option.bind_eq_none_iff.2 h
  unfold ofBody
  rw [hnone]

/-- **The text of a value says what its error member says.** -/
theorem ofBody_text (hv : v.Held) (hdeep : v.tree.nesting < 128) (he : v.get? "error" = some e)
    (hbody : body ∈ [v.compact, v.pretty]) : ofBody status body = ofErrorMember status e := by
  obtain ⟨w, hw⟩ := hv.exists_reread
  obtain ⟨e', he'⟩ := (hv.get? he).exists_reread
  have hread : Value.read? body = some w := (hv.read?_text hdeep hbody).trans hw
  have hmember : w.get? "error" = some e' := by
    rw [hv.get?_reread hw, he, Option.bind_some, he']
  rw [ofBody_of_read? hread hmember, ofErrorMember_reread (hv.get? he) he']

/-! ## Classes of faults -/

/-- The status and the code with which the provider refused something. -/
def refusal? : Fault → Option (ℕ × String)
  | response status code _ => some (status, code)
  | _ => none

/-- A body always tells of a refusal. -/
theorem exists_refusal_ofBody (status : ℕ) (body : String) :
    ∃ refusal, (ofBody status body).refusal? = some refusal := by
  unfold ofBody
  split
  · exact ⟨_, rfl⟩
  · exact ⟨_, rfl⟩

/-- What the provider refused is classified by status and code alone. -/
theorem classified_of_refusal? {f g : Fault} {refusal : ℕ × String} (hf : f.refusal? = some refusal)
    (hg : g.refusal? = some refusal) :
    f.isNotFound = g.isNotFound ∧ f.isConflict = g.isConflict := by
  have hform : ∀ {f : Fault}, f.refusal? = some refusal →
      ∃ message, f = .response refusal.1 refusal.2 message := by
    intro f hf
    cases f with
    | response status code message =>
      cases hf
      exact ⟨message, rfl⟩
    | _ => cases hf
  obtain ⟨m, rfl⟩ := hform hf
  obtain ⟨n, rfl⟩ := hform hg
  exact ⟨rfl, rfl⟩

end Fault

namespace ResourceManager

variable {r : Response} {v e : Value}

/-- A value with members was read from the whole body. -/
theorem exists_body_of_readBody {key : String} (h : readBody r = .ok v)
    (he : v.get? key = some e) :
    ∃ body, r.body = .complete body ∧ Value.read? body = some v := by
  unfold readBody at h
  split at h
  · cases h
  · rename_i body hbody
    refine ⟨body, hbody, ?_⟩
    split at h
    · cases h
      cases he
    · split at h
      · rename_i hread
        cases h
        exact hread
      · cases h

/-- An operation that failed is told by its error member. -/
theorem judgeStatus_of_error (operation : String) (h : readBody r = .ok v)
    (he : v.get? "error" = some e)
    (hword : v.textAt? ["status"] ∈ [some "Failed", some "Canceled"]) :
    judgeStatus operation r = .error (Fault.ofErrorMember r.status e) := by
  have hjudged : judgeStatus operation r = operationStatus operation r.status v := by
    unfold judgeStatus
    rw [h]
    rfl
  rw [hjudged]
  unfold operationStatus
  rcases List.mem_pair.1 hword with hfailed | hcanceled
  · rw [hfailed, he]
    rfl
  · rw [hcanceled, he]
    rfl

end ResourceManager

/-! ## Both ways -/

/-- **Error bodies are decoded faithfully, and alike on both ways.** The text of an object whose
error member has a code and a message says these, with any status and beside any other members; a
body that is no value or has no error member is itself the message. Where an operation is told to
have failed, the fault is the one that the body would have meant in an answer that is no success,
also if the value is written again; so what is missing and what conflicts is recognized on both
ways by the same statuses and codes. -/
theorem error_bodies_are_decoded :
    (∀ (status : ℕ) (code message : String) (v e : Value), v.Held → v.tree.nesting < 128 →
      v.get? "error" = some e → e.get? "code" = some (.text code) →
      e.get? "message" = some (.text message) → ∀ body ∈ [v.compact, v.pretty],
        Fault.ofBody status body = .response status code message) ∧
    (∀ (status : ℕ) (body : String), (∀ v, Value.read? body = some v → v.get? "error" = none) →
      Fault.ofBody status body = .response status "" body) ∧
    (∀ (operation : String) (r : Response) (v e : Value), readBody r = .ok v →
      v.get? "error" = some e → v.textAt? ["status"] ∈ [some "Failed", some "Canceled"] →
      ∀ body, r.body = .complete body ∨ body ∈ [v.compact, v.pretty] →
        judgeStatus operation r = .error (Fault.ofBody r.status body)) ∧
    (∀ (status : ℕ) (body operation : String) (r : Response) (fault : Fault),
      judgeStatus operation r = .error fault →
      fault.refusal? = (Fault.ofBody status body).refusal? →
      fault.isNotFound = (Fault.ofBody status body).isNotFound ∧
        fault.isConflict = (Fault.ofBody status body).isConflict) := by
  refine ⟨?_, ?_, ?_, ?_⟩
  · intro status code message v e hv hdeep he hcode hmessage body hbody
    rw [Fault.ofBody_text hv hdeep he hbody, Fault.ofErrorMember_of_texts hcode hmessage]
  · intro status body h
    exact Fault.ofBody_of_forall h
  · intro operation r v e hr he hword body hbody
    obtain ⟨text, htext, hread⟩ := ResourceManager.exists_body_of_readBody hr he
    obtain ⟨hv, hdeep⟩ := Value.held_of_read? hread
    rw [ResourceManager.judgeStatus_of_error operation hr he hword]
    rcases hbody with hbody | hbody
    · obtain rfl : text = body := Http.Body.complete.inj (htext.symm.trans hbody)
      rw [Fault.ofBody_of_read? hread he]
    · rw [Fault.ofBody_text hv hdeep he hbody]
  · intro status body operation r fault _ halike
    obtain ⟨refusal, hbody⟩ := Fault.exists_refusal_ofBody status body
    exact Fault.classified_of_refusal? (halike.trans hbody) hbody

/-- The status of an operation that failed, with quotes and a line break in its message. -/
def failedLink : Value :=
  .object [("error", .object [("code", .text "NotFound"), ("message", .text "no \"net\"\n")]),
    ("status", .text "Failed")]

/-- A network that is missing is recognized, whether it was asked for or an operation needed it. -/
theorem missing_network_is_recognized :
    Fault.ofBody 404 failedLink.pretty = .response 404 "NotFound" "no \"net\"\n" ∧
    Fault.ofBody 502 "<html>" = .response 502 "" "<html>" ∧
    ∃ fault, judgeStatus "link the zone" ⟨200, [], .complete failedLink.compact⟩ = .error fault ∧
      fault = Fault.ofBody 200 failedLink.pretty ∧
      fault.isNotFound = (Fault.ofBody 200 failedLink.compact).isNotFound ∧
      fault.isConflict = (Fault.ofBody 200 failedLink.compact).isConflict := by
  have hheld : failedLink.Held := by
    have htexts : ∀ m ∈ [("code", Value.text "NotFound"), ("message", .text "no \"net\"\n")],
        m.2.Held := by
      simp [Value.Held.text]
    exact .object (by decide) (by simp [Value.Held.text, Value.Held.object (by decide) htexts])
  have hread : Value.read? failedLink.compact = some failedLink :=
    hheld.read?_text (by decide) List.mem_cons_self
  have hbody : readBody ⟨200, [], .complete failedLink.compact⟩ = .ok failedLink := by
    have hshown : Text.isAllBlank failedLink.compact = false := by cbv
    simp only [readBody, hshown, hread, Bool.false_eq_true, if_false]
  have hrejected : ∀ v, Value.read? "<html>" = some v → v.get? "error" = none := by
    intro v hv
    have hnone : Value.read? "<html>" = none := by cbv
    rw [hnone] at hv
    cases hv
  obtain ⟨hfaithful, hwhole, halike, hclassified⟩ := error_bodies_are_decoded
  have hdecoded : ∀ status, ∀ body ∈ [failedLink.compact, failedLink.pretty],
      Fault.ofBody status body = .response status "NotFound" "no \"net\"\n" := fun status =>
    hfaithful status _ _ failedLink _ hheld (by decide) rfl rfl rfl
  have hfailed : judgeStatus "link the zone" ⟨200, [], .complete failedLink.compact⟩ =
      .error (Fault.ofBody 200 failedLink.pretty) :=
    halike _ _ failedLink _ hbody rfl (by decide) _ (by simp)
  refine ⟨hdecoded 404 _ (by simp), hwhole 502 _ hrejected, _, hfailed, rfl, ?_⟩
  exact hclassified 200 failedLink.compact _ _ _ hfailed
    (by rw [hdecoded 200 _ (by simp), hdecoded 200 _ (by simp)])

end RegistryStorage
