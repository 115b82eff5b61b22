import KeycloakExtensions.UsernamePasswordExits

/-! # The captcha over a run of submissions

A rejection through `clearForm` marks the captcha as required, but the mark is written on a
page only. Whether a later submission is checked depends on the key it chooses to send. -/
namespace UsernamePasswordCaptcha

open KeycloakModel LibraryEffects UsernamePasswordForm UsernamePasswordExits

structure Submission where
  env : Collaborators
  state : LoginState

def Submission.Returns (sub : Submission) (b : Bool) (t : LoginState) : Prop :=
  exec (validateForm sub.env) sub.state = (.ok b, t)

/-- Rejected through `clearForm`, which calls `createCaptcha`. -/
def RaisesCaptcha (sub : Submission) : Prop :=
  ∃ t, sub.Returns false t ∧ CalledDuring sub.state t .createCaptcha

def TokenAccepted (sub : Submission) (t : LoginState) : Prop :=
  ∃ captcha, getFirst sub.state.formData gRecaptchaResponse = some captcha ∧
    CalledDuring sub.state t (.validateRecaptcha captcha) ∧
    recaptchaAccepts sub.env captcha = true

/-- Once a submission of the run has raised the captcha, no later one is accepted without an
accepted token. -/
def CaptchaEnforced (run : List Submission) : Prop :=
  ∀ pre sub post, run = pre ++ sub :: post → (∃ earlier ∈ pre, RaisesCaptcha earlier) →
    ∀ t, sub.Returns true t → TokenAccepted sub t

def Bypasses (sub : Submission) : Prop :=
  gRecaptchaResponse ∉ sub.state.formData ∧ ∃ e, CredentialsPass sub.env sub.state e

/-- A submission that takes an exit through `clearForm`. -/
def ClearsForm (sub : Submission) : Prop :=
  ∃ e, Ends sub.env sub.state e ∧ ∀ o, .createCaptcha ∈ e.reaction o

theorem raisesCaptcha_iff (sub : Submission) : RaisesCaptcha sub ↔ ClearsForm sub := by
  constructor
  · rintro ⟨t, hret, hcalled⟩
    obtain ⟨e, he, hv, rfl⟩ := returned_ends hret
    obtain ⟨o, hcalls, _⟩ := finalState_reacts sub.env sub.state e
    rw [calledDuring_iff hcalls, List.mem_append] at hcalled
    refine ⟨e, he, fun o' => ?_⟩
    have hasked : .createCaptcha ∉ e.asked sub.state := by
      cases e <;> simp [Exit.asked, gateCalls] <;> split <;> simp
    have hreaction := hcalled.resolve_left hasked
    cases e <;> simp_all [Exit.reaction]
  · rintro ⟨e, he, hc⟩
    obtain ⟨o, hcalls, _⟩ := finalState_reacts sub.env sub.state e
    have hv : e.verdict = .ok false := by
      cases e with
      | noRadio | localAccepted | otherMode | lookupThrew | ldapAccepted => cases hc .success
      | _ => rfl
    refine ⟨e.finalState sub.env sub.state, ?_, ?_⟩
    · rw [Submission.Returns, validateForm_of_ends he, hv]
    · rw [calledDuring_iff hcalls]
      exact List.mem_append_right _ (hc o)

theorem token_asked {s : LoginState} {captcha : String} {env : Collaborators} {e : Exit}
    (ht : getFirst s.formData gRecaptchaResponse = some captcha) (h : CredentialsPass env s e) :
    .validateRecaptcha captcha ∈ e.asked s := by
  cases h <;> simp [Exit.asked, gateCalls, ht]

theorem accepted_with_token_iff (sub : Submission) :
    (∀ t, sub.Returns true t → TokenAccepted sub t) ↔ ¬ Bypasses sub := by
  constructor
  · rintro h ⟨absent, e, hc⟩
    obtain ⟨captcha, ht, _⟩ :=
      h _ (accepted_iff.mpr ⟨captchaPasses_of_absent absent, e, hc, rfl⟩)
    rw [getFirst_absent absent] at ht
    cases ht
  · intro hn t ht
    obtain ⟨passes, e, hc, rfl⟩ := accepted_iff.mp ht
    have present : gRecaptchaResponse ∈ sub.state.formData := by
      by_contra absent
      exact hn ⟨absent, e, hc⟩
    obtain ⟨captcha, htoken, _, haccepts⟩ := passes present
    exact ⟨captcha, htoken, calledDuring_asked (token_asked htoken hc), haccepts⟩

/-- A run keeps the captcha in force exactly when no submission after the mark bypasses it. -/
theorem captcha_enforced_iff (run : List Submission) :
    CaptchaEnforced run ↔ ∀ pre sub post, run = pre ++ sub :: post →
      (∃ earlier ∈ pre, ClearsForm earlier) → ¬ Bypasses sub := by
  simp only [CaptchaEnforced, raisesCaptcha_iff]
  constructor
  · intro h pre sub post he hraised
    exact (accepted_with_token_iff sub).mp (h pre sub post he hraised)
  · intro h pre sub post he hraised
    exact (accepted_with_token_iff sub).mpr (h pre sub post he hraised)

def captchaForm (password : String) : MultivaluedMap :=
  [⟨"radio", ["mkysLogin"]⟩, ⟨"username", ["joe"]⟩, ⟨"password", [password]⟩].toAList

def localEnv (verdict : Bool) : Collaborators where
  resolveLocale _ := "tr"
  remoteAddr := "10.0.0.7"
  siteverify _ _ := .connectionFailed
  superValidateForm := ⟨verdict, id⟩
  superValidateUser := ⟨none, id⟩
  loadLDAPUserByUsername _ := .error (.other "ModelException")
  validatePassword _ _ := .error (.other "ModelException")

def localSubmission (verdict : Bool) (password : String) : Submission :=
  ⟨localEnv verdict, ⟨freshContext, captchaForm password, []⟩⟩

theorem captcha_dropped_after_wrong_password :
    ¬ CaptchaEnforced [localSubmission false "wrong", localSubmission true "secret"] := by
  intro h
  have raised : RaisesCaptcha (localSubmission false "wrong") :=
    ⟨_, Prod.ext (by rfl) rfl, [.superValidateForm, .createCaptcha, .recordOutcome _], by rfl,
      by simp⟩
  have accepted : (localSubmission true "secret").Returns true _ := Prod.ext (by rfl) rfl
  obtain ⟨captcha, ht, _⟩ := h [localSubmission false "wrong"] _ [] rfl
    ⟨_, List.mem_singleton.mpr rfl, raised⟩ _ accepted
  cases ht

/-! ## The check fails closed -/

/-- The service answered a JSON object whose member `success` is the boolean true. -/
def ServiceConfirms (env : Collaborators) (captcha : String) : Prop :=
  ∃ members closeFails, env.siteverify validateCaptchaUrl (formParams env captcha) =
    .answered (.json (.object members)) closeFails ∧ successIsTrue members = true

def TokenConfirmed (env : Collaborators) (form : MultivaluedMap) : Prop :=
  ∃ captcha, getFirst form gRecaptchaResponse = some captcha ∧
    isBlank (some captcha) = false ∧ ServiceConfirms env captcha

def ChecksCredentials : Call → Prop
  | .superValidateForm | .superValidateUser | .loadLDAPUserByUsername _ | .validatePassword => True
  | .validateRecaptcha _ | .createCaptcha | .recordOutcome _ => False

/-- The state left by a refusal that says nothing about the credentials. -/
structure FailsClosed (s t : LoginState) : Prop where
  forced : ∃ response, t.context.outcomes = s.context.outcomes ++ [.forceChallenge response] ∧
    response.page.error = some noImage
  key_gone : gRecaptchaResponse ∉ t.formData
  unchecked : ∀ c, CalledDuring s t c → ¬ ChecksCredentials c
  no_failure : t.context.eventError = s.context.eventError ∧
    t.context.errorsSent = s.context.errorsSent

theorem readMap_object {body : ReplyBody} {members : List (String × Json)}
    (h : readMap body = .ok (some members)) : body = .json (.object members) := by
  cases body with
  | missing => cases h
  | unparsable => cases h
  | json value =>
    cases value <;> cases h
    rfl

theorem serviceConfirms_of_accepts {env : Collaborators} {captcha : String}
    (h : recaptchaAccepts env captcha = true) : ServiceConfirms env captcha := by
  rw [recaptchaAccepts] at h
  cases hr : env.siteverify validateCaptchaUrl (formParams env captcha) with
  | connectionFailed =>
    rw [hr] at h
    cases h
  | answered body closeFails =>
    simp only [hr, readVerdict] at h
    cases hm : readMap body with
    | error ex =>
      rw [hm] at h
      cases h
    | ok json =>
      rw [hm] at h
      cases json with
      | none => cases h
      | some members =>
        obtain rfl := readMap_object hm
        refine ⟨members, closeFails, hr, ?_⟩
        -- a reply that cannot be closed is refused although it was read
        cases closeFails with
        | true => cases h
        | false => exact h

theorem not_passes_of_unconfirmed {env : Collaborators} {form : MultivaluedMap}
    (present : gRecaptchaResponse ∈ form) (h : ¬ TokenConfirmed env form) :
    ¬ CaptchaPasses env form := by
  intro passes
  obtain ⟨captcha, ht, hb, hr⟩ := passes present
  exact h ⟨captcha, ht, hb, serviceConfirms_of_accepts hr⟩

theorem refused_failsClosed {env : Collaborators} {s u : LoginState} {asked : List Call}
    (hcalls : u.calls = s.calls ++ asked) (hasked : ∀ c ∈ asked, ¬ ChecksCredentials c)
    (hcontext : u.context = s.context) :
    FailsClosed s (refused env noImage .forceChallenge u) where
  forced := by
    refine ⟨⟨challengeForm (cleared env u).context.form noImage⟩, ?_, rfl⟩
    rw [← hcontext]
    rfl
  key_gone := by simp [refused, challenged, cleared]
  unchecked c hc := by
    have hnew : (refused env noImage .forceChallenge u).calls = s.calls ++ (asked ++
        [.createCaptcha, .recordOutcome (.forceChallenge
          ⟨challengeForm (cleared env u).context.form noImage⟩)]) := by
      simp [refused, challenged, cleared, hcalls]
    rw [calledDuring_iff hnew, List.mem_append] at hc
    rcases hc with hc | hc
    · exact hasked c hc
    · simp only [List.mem_cons, List.not_mem_nil, or_false] at hc
      rcases hc with rfl | rfl <;> exact id
  no_failure := by
    rw [← hcontext]
    exact ⟨rfl, rfl⟩

/-- Whoever does not pass the gate is refused there. -/
theorem blocked_failsClosed {env : Collaborators} {s : LoginState}
    (blocked : ¬ CaptchaPasses env s.formData) :
    ∃ t, exec (validateForm env) s = (.ok false, t) ∧ FailsClosed s t := by
  obtain ⟨e, he, hx⟩ := validateForm_ends env s
  refine ⟨e.finalState env s, ?_⟩
  rw [hx]
  cases he with
  | captchaBlank =>
    exact ⟨rfl, refused_failsClosed (List.append_nil _).symm (by simp) rfl⟩
  | captchaRefused =>
    exact ⟨rfl, refused_failsClosed rfl (by simp [ChecksCredentials]) rfl⟩
  | noRadio passes | localLockedOut passes | localRejected passes | localAccepted passes
  | otherMode passes | ldapLockedOut passes | ldapUserRejected passes | lookupThrew passes
  | ldapWrongPassword passes | ldapFailed passes | ldapAccepted passes =>
    exact (blocked passes).elim

theorem captcha_fails_closed (env : Collaborators) (s : LoginState)
    (present : gRecaptchaResponse ∈ s.formData) (unconfirmed : ¬ TokenConfirmed env s.formData) :
    ∃ t, exec (validateForm env) s = (.ok false, t) ∧ FailsClosed s t :=
  blocked_failsClosed (not_passes_of_unconfirmed present unconfirmed)

/-- A reply whose `success` is the text "true" confirms nothing. -/
def textualEnv : Collaborators :=
  { localEnv true with
    siteverify := fun _ _ => .answered (.json (.object [("success", .string "true")])) false }

def tokenForm : MultivaluedMap :=
  [⟨gRecaptchaResponse, ["token"]⟩, ⟨"radio", ["mkysLogin"]⟩].toAList

def tokenState : LoginState := ⟨freshContext, tokenForm, []⟩

theorem textual_success_fails_closed :
    ∃ t, exec (validateForm textualEnv) tokenState = (.ok false, t) ∧
      FailsClosed tokenState t := by
  refine captcha_fails_closed textualEnv tokenState (by decide) ?_
  rintro ⟨captcha, _, _, members, closeFails, hr, hs⟩
  cases hr
  cases hs

end UsernamePasswordCaptcha
