import KeycloakExtensions.UsernamePasswordLogin

/-! # LDAP login and the local password

The `ldapLogin` branch asks the parent class for its verdict on the local password and does
not use it, a lockout apart. The verdict does not reach the result, but the records the
parent made on the way to it stay. -/
namespace UsernamePasswordLdap

open KeycloakModel LibraryEffects UsernamePasswordForm UsernamePasswordExits

variable {env : Collaborators} {s t : LoginState}

/-! ## What a discarded verdict leaves behind -/

def IsFailure : FlowOutcome → Prop
  | .failure _ | .challenge _ | .forceChallenge _ | .failureChallenge _ _ => True
  | .success | .attempted => False

def RecordsNothing (before after : FlowContext) : Prop :=
  after.eventError = before.eventError ∧ after.errorsSent = before.errorsSent ∧
    after.outcomes = before.outcomes

/-- What `UsernamePasswordForm` does to the context: a rejected password is reported on the
event and answered with a challenge, anything accepted is not reported. -/
structure ParentRecords (env : Collaborators) : Prop where
  rejected : env.superValidateForm.verdict = false → ∀ c, ∃ error outcome,
    IsFailure outcome ∧
    (env.superValidateForm.effect c).eventError = some error ∧
    (env.superValidateForm.effect c).errorsSent = c.errorsSent ++ [error] ∧
    (env.superValidateForm.effect c).outcomes = c.outcomes ++ [outcome]
  accepted : env.superValidateForm.verdict = true → ∀ c,
    RecordsNothing c (env.superValidateForm.effect c)
  valid_user : env.superValidateUser.user.isSome → ∀ c,
    RecordsNothing c (env.superValidateUser.effect c)

/-- No error was put on the event or sent, and no failure or challenge recorded. -/
structure NoFailureRecorded (s t : LoginState) : Prop where
  event : t.context.eventError = s.context.eventError
  sent : t.context.errorsSent = s.context.errorsSent
  outcomes : ∃ new, t.context.outcomes = s.context.outcomes ++ new ∧ ∀ o ∈ new, ¬ IsFailure o

theorem RecordsNothing.trans {a b c : FlowContext} (h : RecordsNothing a b)
    (j : RecordsNothing b c) : RecordsNothing a c := by
  obtain ⟨he, hs, ho⟩ := h
  obtain ⟨je, js, jo⟩ := j
  exact ⟨je.trans he, js.trans hs, jo.trans ho⟩

theorem noFailureRecorded_of_nothing (h : RecordsNothing s.context t.context) :
    NoFailureRecorded s t := by
  obtain ⟨he, hs, ho⟩ := h
  refine ⟨he, hs, [], ?_, ?_⟩
  · rw [ho, List.append_nil]
  · intro o hm
    cases hm

/-- After the local password check the accepted path only validates the user. -/
theorem ldapChecked_records {user : UserModel} (parent : ParentRecords env)
    (valid : env.superValidateUser.user = some user) :
    RecordsNothing (env.superValidateForm.effect s.context) (ldapChecked env user s).context := by
  have hu := parent.valid_user (by rw [valid]; rfl) (env.superValidateForm.effect s.context)
  simpa [ldapChecked, lookedUp, called, ldapStart, userValidated, withContext, setUser,
    RecordsNothing] using hu

theorem ldap_accepted_exit (mode : getFirst s.formData "radio" = some "ldapLogin")
    (accepted : exec (validateForm env) s = (.ok true, t)) :
    ∃ user, env.superValidateUser.user = some user ∧ t = ldapChecked env user s := by
  obtain ⟨_, e, hc, rfl⟩ := accepted_iff.mp accepted
  cases hc with
  | localLogin other =>
    rw [mode] at other
    exact absurd (Option.some.inj other) (by decide)
  | unknown first _ notLdap =>
    rw [mode] at first
    exact (notLdap (Option.some.inj first).symm).elim
  | ldapLogin _ _ valid => exact ⟨_, valid, rfl⟩

/-- An accepted LDAP login is clean exactly when the local password happened to be right. -/
theorem ldap_login_clean_iff (parent : ParentRecords env)
    (mode : getFirst s.formData "radio" = some "ldapLogin")
    (accepted : exec (validateForm env) s = (.ok true, t)) :
    NoFailureRecorded s t ↔ env.superValidateForm.verdict = true := by
  obtain ⟨user, valid, rfl⟩ := ldap_accepted_exit mode accepted
  have later := ldapChecked_records (s := s) parent valid
  constructor
  · intro clean
    by_contra hv
    obtain ⟨error, outcome, _, _, hsent, _⟩ :=
      parent.rejected (Bool.eq_false_iff.mpr hv) s.context
    -- the parent's error is still among those sent
    have hkept := later.2.1
    rw [clean.sent, hsent] at hkept
    have hlength := congrArg List.length hkept
    simp at hlength
  · intro hv
    exact noFailureRecorded_of_nothing ((parent.accepted hv s.context).trans later)

def ldapForm : MultivaluedMap :=
  [⟨"radio", ["ldapLogin"]⟩, ⟨"username", ["joe"]⟩, ⟨"password", ["ldap-secret"]⟩].toAList

def fresh : LoginState := ⟨freshContext, ldapForm, []⟩

def parentRejects : ValidateFormAnswer where
  verdict := false
  effect c :=
    { c with
      eventError := some "invalid_user_credentials"
      errorsSent := c.errorsSent ++ ["invalid_user_credentials"]
      outcomes := c.outcomes ++
        [.failureChallenge .invalidCredentials ⟨challengeForm c.form "invalid"⟩] }

/-- LDAP accepts the password, the local store does not. -/
def ldapOnlyEnv : Collaborators :=
  { UsernamePasswordLogin.obligingEnv with superValidateForm := parentRejects }

theorem parentRejects_records : ParentRecords ldapOnlyEnv where
  rejected _ c := by
    refine ⟨"invalid_user_credentials", .failureChallenge .invalidCredentials
      ⟨challengeForm c.form "invalid"⟩, ?_, rfl, rfl, rfl⟩
    trivial
  accepted h := by cases h
  valid_user _ _ := ⟨rfl, rfl, rfl⟩

theorem obliging_records : ParentRecords UsernamePasswordLogin.obligingEnv where
  rejected h := by cases h
  accepted _ _ := ⟨rfl, rfl, rfl⟩
  valid_user _ _ := ⟨rfl, rfl, rfl⟩

theorem clean_login_with_local_password :
    NoFailureRecorded fresh (ldapChecked UsernamePasswordLogin.obligingEnv joe fresh) ↔
      UsernamePasswordLogin.obligingEnv.superValidateForm.verdict = true :=
  ldap_login_clean_iff obliging_records (by decide) (Prod.ext (by rfl) rfl)

theorem ldap_login_keeps_local_failure :
    ParentRecords ldapOnlyEnv ∧ ∃ t, exec (validateForm ldapOnlyEnv) fresh = (.ok true, t) ∧
      t.context.eventError = some "invalid_user_credentials" ∧ ¬ NoFailureRecorded fresh t := by
  refine ⟨parentRejects_records, _, Prod.ext (by rfl) rfl, by rfl, ?_⟩
  intro clean
  have sent : ["invalid_user_credentials"] = ([] : List String) := clean.sent
  cases sent

/-! ## Two executions that differ in the local password -/

inductive ChallengeKind where
  | challenge
  | forceChallenge
  | failureChallenge
  deriving DecidableEq, Repr

structure RecordedChallenge where
  kind : ChallengeKind
  error : Option AuthenticationFlowError
  message : Option String
  deriving DecidableEq, Repr

def challengeOf : FlowOutcome → Option RecordedChallenge
  | .challenge r => some ⟨.challenge, none, r.page.error⟩
  | .forceChallenge r => some ⟨.forceChallenge, none, r.page.error⟩
  | .failureChallenge error r => some ⟨.failureChallenge, some error, r.page.error⟩
  | .success | .attempted | .failure _ => none

/-- The challenge the browser is answered with. -/
def lastChallenge (s : LoginState) : Option RecordedChallenge :=
  (s.context.outcomes.filterMap challengeOf).getLast?

def challengeShown : Exit → Option RecordedChallenge
  | .captchaBlank | .captchaRefused _ => some ⟨.forceChallenge, none, some noImage⟩
  | .localLockedOut | .ldapLockedOut => some ⟨.forceChallenge, none, some tooManyAttempts⟩
  | .localRejected | .ldapUserRejected | .ldapWrongPassword _ =>
    some ⟨.failureChallenge, some .invalidCredentials, some wrongPasswordAndUsername⟩
  | .ldapFailed _ _ =>
    some ⟨.failureChallenge, some .genericAuthenticationError, some ldapErrorMessage⟩
  | .noRadio | .localAccepted | .otherMode | .lookupThrew _ _ | .ldapAccepted _ => none

theorem lastChallenge_challenged {kind : Response → FlowOutcome} {error : String}
    {shown : RecordedChallenge} (s : LoginState)
    (h : challengeOf (kind ⟨challengeForm s.context.form error⟩) = some shown) :
    lastChallenge (challenged error kind s) = some shown := by
  simp [lastChallenge, challenged, List.filterMap_append, h]

theorem lastChallenge_finalState {e : Exit} (h : e.verdict = .ok false) :
    lastChallenge (e.finalState env s) = challengeShown e := by
  cases e with
  | noRadio | localAccepted | otherMode | lookupThrew | ldapAccepted => cases h
  | _ => exact lastChallenge_challenged _ rfl

/-- The exit of an LDAP submission is chosen without the local password. -/
theorem ends_transfer {answer : ValidateFormAnswer} {s' : LoginState} {e : Exit}
    (form : s'.formData = s.formData) (mode : getFirst s.formData "radio" = some "ldapLogin")
    (unlocked : ¬ LocksOut env s.context)
    (unlocked' : ¬ LocksOut { env with superValidateForm := answer } s'.context)
    (he : Ends env s e) : Ends { env with superValidateForm := answer } s' e := by
  have notLocal {m : String} (hm : getFirst s.formData "radio" = some m)
      (h : m ≠ "ldapLogin") : False := by
    rw [mode] at hm
    exact h (Option.some.inj hm).symm
  cases he with
  | captchaBlank present blank => exact .captchaBlank (form ▸ present) (form ▸ blank)
  | captchaRefused present token nonblank refused =>
    exact .captchaRefused (form ▸ present) (form ▸ token) nonblank refused
  | noRadio _ missing =>
    rw [mode] at missing
    cases missing
  | localLockedOut _ first => exact (notLocal first (by decide)).elim
  | localRejected _ first => exact (notLocal first (by decide)).elim
  | localAccepted _ first => exact (notLocal first (by decide)).elim
  | otherMode _ first _ notLdap => exact (notLocal first notLdap).elim
  | ldapLockedOut _ _ locked => exact (unlocked locked).elim
  | ldapUserRejected passes _ _ rejected =>
    exact .ldapUserRejected (form ▸ passes) (form ▸ mode) unlocked' rejected
  | lookupThrew passes _ _ valid lookup =>
    exact .lookupThrew (form ▸ passes) (form ▸ mode) unlocked' valid lookup
  | ldapWrongPassword passes _ _ valid lookup password =>
    exact .ldapWrongPassword (form ▸ passes) (form ▸ mode) unlocked' valid lookup
      (form ▸ password)
  | ldapFailed passes _ _ valid lookup password other =>
    exact .ldapFailed (form ▸ passes) (form ▸ mode) unlocked' valid lookup (form ▸ password) other
  | ldapAccepted passes _ _ valid lookup password =>
    exact .ldapAccepted (form ▸ passes) (form ▸ mode) unlocked' valid lookup (form ▸ password)

/-- The starting contexts may differ as well: nothing of them reaches the result. -/
theorem ldap_login_ignores_local_password (env : Collaborators) (answer : ValidateFormAnswer)
    (s s' : LoginState) (form : s'.formData = s.formData)
    (mode : getFirst s.formData "radio" = some "ldapLogin")
    (unlocked : ¬ LocksOut env s.context)
    (unlocked' : ¬ LocksOut { env with superValidateForm := answer } s'.context) :
    ∃ r t t', exec (validateForm env) s = (r, t) ∧
      exec (validateForm { env with superValidateForm := answer }) s' = (r, t') ∧
      (r = .ok false → ∃ shown, lastChallenge t = some shown ∧ lastChallenge t' = some shown) := by
  obtain ⟨e, he, hx⟩ := validateForm_ends env s
  have hx' := validateForm_of_ends (ends_transfer form mode unlocked unlocked' he)
  refine ⟨e.verdict, _, _, hx, hx', ?_⟩
  intro hv
  have shows : ∃ shown, challengeShown e = some shown := by
    cases e with
    | noRadio | localAccepted | otherMode | lookupThrew | ldapAccepted => cases hv
    | _ => exact ⟨_, rfl⟩
  obtain ⟨shown, hs⟩ := shows
  refine ⟨shown, ?_, ?_⟩
  · rw [lastChallenge_finalState hv, hs]
  · rw [lastChallenge_finalState hv, hs]

def ldapRefusesEnv : Collaborators :=
  { ldapOnlyEnv with validatePassword := fun _ _ => .error .namingAuthentication }

theorem refused_alike_with_local_password :
    ∃ r t t', exec (validateForm ldapRefusesEnv) fresh = (r, t) ∧
      exec (validateForm { ldapRefusesEnv with superValidateForm := ⟨true, id⟩ }) fresh =
        (r, t') ∧
      (r = .ok false → ∃ shown, lastChallenge t = some shown ∧ lastChallenge t' = some shown) :=
  ldap_login_ignores_local_password ldapRefusesEnv ⟨true, id⟩ fresh fresh rfl (by decide)
    (by decide) (by decide)

end UsernamePasswordLdap
