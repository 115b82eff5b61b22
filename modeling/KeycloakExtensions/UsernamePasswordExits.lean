import KeycloakExtensions.UsernamePasswordForm

/-! # The ways a login submission ends

`validateForm` is compared with a table of its exits: the condition of each exit, its verdict
and the state it leaves. Results about the method are case analyses over this table. -/
namespace UsernamePasswordExits

open KeycloakModel LibraryEffects UsernamePasswordForm

inductive Exit where
  | captchaBlank
  | captchaRefused (captcha : String)
  | noRadio
  | localLockedOut
  | localRejected
  | localAccepted
  | otherMode
  | ldapLockedOut
  | ldapUserRejected
  | lookupThrew (user : UserModel) (ex : JavaException)
  | ldapWrongPassword (user : UserModel)
  | ldapFailed (user : UserModel) (ex : JavaException)
  | ldapAccepted (user : UserModel)

def Exit.verdict : Exit → Except JavaException Bool
  | .noRadio => .error .nullPointer
  | .lookupThrew _ ex => .error ex
  | .localAccepted | .otherMode | .ldapAccepted _ => .ok true
  | .captchaBlank | .captchaRefused _ | .localLockedOut | .localRejected | .ldapLockedOut
  | .ldapUserRejected | .ldapWrongPassword _ | .ldapFailed _ _ => .ok false

def CaptchaPasses (env : Collaborators) (form : MultivaluedMap) : Prop :=
  gRecaptchaResponse ∈ form → ∃ captcha, getFirst form gRecaptchaResponse = some captcha ∧
    isBlank (some captcha) = false ∧ recaptchaAccepts env captcha = true

/-- `super.validateForm` rejected and left the lockout error on the event. -/
def LocksOut (env : Collaborators) (context : FlowContext) : Prop :=
  env.superValidateForm.verdict = false ∧
    (env.superValidateForm.effect context).eventError = some userTemporarilyDisabled

instance (env : Collaborators) (context : FlowContext) : Decidable (LocksOut env context) :=
  inferInstanceAs (Decidable (_ ∧ _))

/-- The condition under which a submission takes each exit. -/
inductive Ends (env : Collaborators) (s : LoginState) : Exit → Prop where
  | captchaBlank (present : gRecaptchaResponse ∈ s.formData)
      (blank : isBlank (getFirst s.formData gRecaptchaResponse) = true) :
      Ends env s .captchaBlank
  | captchaRefused {captcha} (present : gRecaptchaResponse ∈ s.formData)
      (token : getFirst s.formData gRecaptchaResponse = some captcha)
      (nonblank : isBlank (some captcha) = false)
      (refused : recaptchaAccepts env captcha = false) : Ends env s (.captchaRefused captcha)
  | noRadio (passes : CaptchaPasses env s.formData)
      (mode : getFirst s.formData "radio" = none) : Ends env s .noRadio
  | localLockedOut (passes : CaptchaPasses env s.formData)
      (mode : getFirst s.formData "radio" = some "mkysLogin")
      (locked : LocksOut env s.context) : Ends env s .localLockedOut
  | localRejected (passes : CaptchaPasses env s.formData)
      (mode : getFirst s.formData "radio" = some "mkysLogin")
      (unlocked : ¬ LocksOut env s.context)
      (rejected : env.superValidateForm.verdict = false) : Ends env s .localRejected
  | localAccepted (passes : CaptchaPasses env s.formData)
      (mode : getFirst s.formData "radio" = some "mkysLogin")
      (valid : env.superValidateForm.verdict = true) : Ends env s .localAccepted
  | otherMode {mode} (passes : CaptchaPasses env s.formData)
      (first : getFirst s.formData "radio" = some mode)
      (notLocal : mode ≠ "mkysLogin") (notLdap : mode ≠ "ldapLogin") : Ends env s .otherMode
  | ldapLockedOut (passes : CaptchaPasses env s.formData)
      (mode : getFirst s.formData "radio" = some "ldapLogin")
      (locked : LocksOut env s.context) : Ends env s .ldapLockedOut
  | ldapUserRejected (passes : CaptchaPasses env s.formData)
      (mode : getFirst s.formData "radio" = some "ldapLogin")
      (unlocked : ¬ LocksOut env s.context)
      (rejected : env.superValidateUser.user = none) : Ends env s .ldapUserRejected
  | lookupThrew {user ex} (passes : CaptchaPasses env s.formData)
      (mode : getFirst s.formData "radio" = some "ldapLogin")
      (unlocked : ¬ LocksOut env s.context)
      (valid : env.superValidateUser.user = some user)
      (lookup : env.loadLDAPUserByUsername user.username = .error ex) :
      Ends env s (.lookupThrew user ex)
  | ldapWrongPassword {user ldapObject} (passes : CaptchaPasses env s.formData)
      (mode : getFirst s.formData "radio" = some "ldapLogin")
      (unlocked : ¬ LocksOut env s.context)
      (valid : env.superValidateUser.user = some user)
      (lookup : env.loadLDAPUserByUsername user.username = .ok ldapObject)
      (password : env.validatePassword ldapObject (getFirst s.formData "password") =
        .error .namingAuthentication) : Ends env s (.ldapWrongPassword user)
  | ldapFailed {user ldapObject ex} (passes : CaptchaPasses env s.formData)
      (mode : getFirst s.formData "radio" = some "ldapLogin")
      (unlocked : ¬ LocksOut env s.context)
      (valid : env.superValidateUser.user = some user)
      (lookup : env.loadLDAPUserByUsername user.username = .ok ldapObject)
      (password : env.validatePassword ldapObject (getFirst s.formData "password") = .error ex)
      (other : ex ≠ .namingAuthentication) : Ends env s (.ldapFailed user ex)
  | ldapAccepted {user ldapObject} (passes : CaptchaPasses env s.formData)
      (mode : getFirst s.formData "radio" = some "ldapLogin")
      (unlocked : ¬ LocksOut env s.context)
      (valid : env.superValidateUser.user = some user)
      (lookup : env.loadLDAPUserByUsername user.username = .ok ldapObject)
      (password : env.validatePassword ldapObject (getFirst s.formData "password") = .ok ()) :
      Ends env s (.ldapAccepted user)

/-! ## The states the helper methods leave -/

def called (c : Call) (s : LoginState) : LoginState := { s with calls := s.calls ++ [c] }

def withContext (f : FlowContext → FlowContext) (s : LoginState) : LoginState :=
  { s with context := f s.context }

def cleared (env : Collaborators) (s : LoginState) : LoginState :=
  { s with
    formData := s.formData.erase gRecaptchaResponse
    calls := s.calls ++ [.createCaptcha]
    context := { s.context with
      form := createCaptcha s.context.form (env.resolveLocale s.context.user) } }

def challenged (error : String) (kind : Response → FlowOutcome) (s : LoginState) : LoginState :=
  { s with
    calls := s.calls ++ [.recordOutcome (kind ⟨challengeForm s.context.form error⟩)]
    context := { s.context with
      form := challengeForm s.context.form error
      outcomes := s.context.outcomes ++ [kind ⟨challengeForm s.context.form error⟩] } }

def lockedOut (s : LoginState) : LoginState :=
  challenged tooManyAttempts .forceChallenge (withContext (fun c =>
    { c with
      eventError := some "brute_force_attack"
      errorsSent := c.errorsSent ++ ["brute_force_attack"] }) s)

def refused (env : Collaborators) (error : String) (kind : Response → FlowOutcome)
    (s : LoginState) : LoginState := challenged error kind (cleared env s)

def captchaPassed (s : LoginState) : LoginState :=
  match getFirst s.formData gRecaptchaResponse with
  | some captcha => called (.validateRecaptcha captcha) s
  | none => s

def formValidated (env : Collaborators) (s : LoginState) : LoginState :=
  withContext env.superValidateForm.effect (called .superValidateForm s)

def setUser (user : Option UserModel) (c : FlowContext) : FlowContext :=
  { c with user := user <|> c.user }

def userValidated (env : Collaborators) (s : LoginState) : LoginState :=
  withContext (fun c => setUser env.superValidateUser.user (env.superValidateUser.effect c))
    (called .superValidateUser s)

def lookedUp (user : UserModel) (s : LoginState) : LoginState :=
  called (.loadLDAPUserByUsername user.username) s

def ldapStart (env : Collaborators) (s : LoginState) : LoginState :=
  userValidated env (formValidated env (captchaPassed s))

def ldapChecked (env : Collaborators) (user : UserModel) (s : LoginState) : LoginState :=
  called .validatePassword (lookedUp user (ldapStart env s))

def Exit.finalState (env : Collaborators) (s : LoginState) : Exit → LoginState
  | .captchaBlank => refused env noImage .forceChallenge s
  | .captchaRefused captcha =>
    refused env noImage .forceChallenge (called (.validateRecaptcha captcha) s)
  | .noRadio | .localAccepted | .otherMode => formValidated env (captchaPassed s)
  | .localLockedOut => lockedOut (formValidated env (captchaPassed s))
  | .localRejected => refused env wrongPasswordAndUsername (.failureChallenge .invalidCredentials)
      (formValidated env (captchaPassed s))
  | .ldapLockedOut => lockedOut (ldapStart env s)
  | .ldapUserRejected => refused env wrongPasswordAndUsername
      (.failureChallenge .invalidCredentials) (ldapStart env s)
  | .lookupThrew user _ => lookedUp user (ldapStart env s)
  | .ldapWrongPassword user => refused env wrongPasswordAndUsername
      (.failureChallenge .invalidCredentials) (ldapChecked env user s)
  | .ldapFailed user _ => refused env ldapErrorMessage
      (.failureChallenge .genericAuthenticationError) (ldapChecked env user s)
  | .ldapAccepted user => ldapChecked env user s

/-! ## One execution of each method -/

theorem exec_challenge (error : String) (kind : Response → FlowOutcome) (b : Bool)
    (s : LoginState) :
    exec (do
      let challengeResponse ← challenge error
      recordOutcome (kind challengeResponse)
      pure b : LoginM Bool) s = (.ok b, challenged error kind s) := by
  simp [challenge, recordOutcome, record, modifyContext, challenged]

theorem exec_refused (env : Collaborators) (error : String) (kind : Response → FlowOutcome)
    (b : Bool) (s : LoginState) :
    exec (do
      clearForm env
      let challengeResponse ← challenge error
      recordOutcome (kind challengeResponse)
      pure b : LoginM Bool) s = (.ok b, refused env error kind s) := by
  rw [exec_bind]
  exact exec_challenge error kind b (cleared env s)

theorem exec_refuseCaptcha (env : Collaborators) (s : LoginState) :
    exec (refuseCaptcha env) s = (.ok true, refused env noImage .forceChallenge s) :=
  exec_refused env noImage .forceChallenge true s

theorem exec_userAndPasswordValidMessage (env : Collaborators) (s : LoginState) :
    exec (userAndPasswordValidMessage env) s =
      (.ok false, refused env wrongPasswordAndUsername (.failureChallenge .invalidCredentials) s) :=
  exec_refused env wrongPasswordAndUsername (.failureChallenge .invalidCredentials) false s

theorem exec_ldapError (env : Collaborators) (s : LoginState) :
    exec (ldapError env) s =
      (.ok false, refused env ldapErrorMessage (.failureChallenge .genericAuthenticationError) s) :=
  exec_refused env ldapErrorMessage (.failureChallenge .genericAuthenticationError) false s

theorem exec_bruteForceAttackValideMessage (s : LoginState) :
    exec bruteForceAttackValideMessage s = (.ok false, lockedOut s) := by
  rw [bruteForceAttackValideMessage, exec_bind]
  exact exec_challenge tooManyAttempts .forceChallenge false _

theorem exec_validateRecaptcha (env : Collaborators) (captcha : String) (s : LoginState) :
    exec (validateRecaptcha env captcha) s =
      (.ok (recaptchaAccepts env captcha), called (.validateRecaptcha captcha) s) := by
  simp [validateRecaptcha, record, called]

theorem exec_superValidateForm (env : Collaborators) (s : LoginState) :
    exec (superValidateForm env) s =
      (.ok env.superValidateForm.verdict, formValidated env s) := by
  simp [superValidateForm, record, modifyContext, formValidated, withContext, called]

theorem exec_superValidateUser (env : Collaborators) (s : LoginState) :
    exec (superValidateUser env) s =
      (.ok env.superValidateUser.user.isSome, userValidated env s) := by
  rw [superValidateUser]
  cases h : env.superValidateUser.user <;>
    simp [record, modifyContext, userValidated, withContext, called, setUser, h]

theorem exec_firstEquals (key value : String) (s : LoginState) :
    exec (firstEquals key value) s = (match getFirst s.formData key with
      | none => .error .nullPointer
      | some first => .ok (decide (first = value)), s) := by
  simp only [firstEquals, exec_bind, exec_get, andThen_ok]
  cases getFirst s.formData key with
  | none => rfl
  | some first => rfl

theorem exec_loadLDAPUserByUsername (env : Collaborators) (user : UserModel) (s : LoginState) :
    exec (loadLDAPUserByUsername env (some user)) s =
      (env.loadLDAPUserByUsername user.username, lookedUp user s) := by
  simp [loadLDAPUserByUsername, record, lookedUp, called]

theorem exec_validatePassword (env : Collaborators) (ldapObject : Option LDAPObject)
    (s : LoginState) :
    exec (validatePassword env ldapObject) s =
      (env.validatePassword ldapObject (getFirst s.formData "password"),
        called .validatePassword s) := by
  simp [validatePassword, record, called]

/-! ## The captcha gate -/

theorem captchaPasses_of_absent {env : Collaborators} {form : MultivaluedMap}
    (h : gRecaptchaResponse ∉ form) : CaptchaPasses env form := fun hm => (h hm).elim

theorem captchaControl_cases (env : Collaborators) (s : LoginState) :
    (CaptchaPasses env s.formData ∧ exec (captchaControl env) s = (.ok false, captchaPassed s)) ∨
    (∃ e : Exit, Ends env s e ∧ e.verdict = .ok false ∧
      exec (captchaControl env) s = (.ok true, e.finalState env s)) := by
  simp only [captchaControl, exec_bind, exec_get, andThen_ok]
  by_cases hp : gRecaptchaResponse ∈ s.formData
  · rw [if_pos hp]
    cases ht : getFirst s.formData gRecaptchaResponse with
    | none =>
      refine Or.inr ⟨.captchaBlank, .captchaBlank hp (by rw [ht]; rfl), rfl, ?_⟩
      exact exec_refuseCaptcha env s
    | some captcha =>
      cases hb : isBlank (some captcha) with
      | true =>
        refine Or.inr ⟨.captchaBlank, .captchaBlank hp (by rw [ht]; exact hb), rfl, ?_⟩
        simp only [hb, if_true]
        exact exec_refuseCaptcha env s
      | false =>
        simp only [hb, Bool.false_eq_true, if_false, exec_bind, exec_validateRecaptcha,
          andThen_ok]
        cases hr : recaptchaAccepts env captcha with
        | true =>
          refine Or.inl ⟨fun _ => ⟨captcha, ht, hb, hr⟩, ?_⟩
          simp [captchaPassed, ht]
        | false =>
          refine Or.inr ⟨.captchaRefused captcha, .captchaRefused hp ht hb hr, rfl, ?_⟩
          exact exec_refuseCaptcha env _
  · rw [if_neg hp]
    refine Or.inl ⟨captchaPasses_of_absent hp, ?_⟩
    simp [captchaPassed, getFirst_absent hp]

/-! ## The two login modes -/

@[simp] theorem captchaPassed_context (s : LoginState) :
    (captchaPassed s).context = s.context := by
  rw [captchaPassed]
  split <;> rfl

@[simp] theorem captchaPassed_formData (s : LoginState) :
    (captchaPassed s).formData = s.formData := by
  rw [captchaPassed]
  split <;> rfl

@[simp] theorem formValidated_formData (env : Collaborators) (s : LoginState) :
    (formValidated env s).formData = s.formData := rfl

@[simp] theorem formValidated_context (env : Collaborators) (s : LoginState) :
    (formValidated env s).context = env.superValidateForm.effect s.context := rfl

@[simp] theorem userValidated_formData (env : Collaborators) (s : LoginState) :
    (userValidated env s).formData = s.formData := rfl

theorem userValidated_user {env : Collaborators} {user : UserModel}
    (h : env.superValidateUser.user = some user) (s : LoginState) :
    (userValidated env s).context.user = some user := by
  simp [userValidated, withContext, setUser, h]

theorem lockout_test_iff (env : Collaborators) (context : FlowContext) :
    (!env.superValidateForm.verdict &&
      (env.superValidateForm.effect context).eventError == some userTemporarilyDisabled) = true ↔
    LocksOut env context := by
  simp [LocksOut]

section

variable {env : Collaborators} {s : LoginState}

theorem ldapLogin_ends (passes : CaptchaPasses env s.formData)
    (mode : getFirst s.formData "radio" = some "ldapLogin") :
    ∃ e, Ends env s e ∧
      exec (ldapLogin env env.superValidateForm.verdict
        (env.superValidateForm.effect s.context).eventError) (formValidated env (captchaPassed s)) =
      (e.verdict, e.finalState env s) := by
  simp only [ldapLogin, exec_bind, exec_superValidateUser, andThen_ok, exec_ite, lockout_test_iff]
  by_cases hl : LocksOut env s.context
  · rw [if_pos hl]
    exact ⟨_, .ldapLockedOut passes mode hl, exec_bruteForceAttackValideMessage _⟩
  rw [if_neg hl]
  cases hu : env.superValidateUser.user with
  | none => exact ⟨_, .ldapUserRejected passes mode hl hu, exec_userAndPasswordValidMessage env _⟩
  | some user =>
    have hctx : (userValidated env (formValidated env (captchaPassed s))).context.user =
        some user := userValidated_user hu _
    simp only [Option.isSome_some, Bool.not_true, Bool.false_eq_true, if_false, exec_bind,
      exec_get, andThen_ok, hctx, exec_loadLDAPUserByUsername]
    cases hlook : env.loadLDAPUserByUsername user.username with
    | error ex => exact ⟨_, .lookupThrew passes mode hl hu hlook, rfl⟩
    | ok ldapObject =>
      simp only [andThen_ok, exec_tryCatch, exec_bind, exec_validatePassword]
      cases hp : env.validatePassword ldapObject (getFirst s.formData "password") with
      | ok _ =>
        refine ⟨_, .ldapAccepted passes mode hl hu hlook hp, ?_⟩
        simp [lookedUp, called, hp, Exit.verdict, Exit.finalState, ldapChecked, ldapStart]
      | error ex =>
        have hp' : env.validatePassword ldapObject (getFirst (lookedUp user (userValidated env
            (formValidated env (captchaPassed s)))).formData "password") = .error ex := by
          simpa [lookedUp, called] using hp
        simp only [hp', andThen_error, recover_error]
        by_cases he : ex = .namingAuthentication
        · subst he
          exact ⟨_, .ldapWrongPassword passes mode hl hu hlook hp,
            exec_userAndPasswordValidMessage env _⟩
        · refine ⟨_, .ldapFailed passes mode hl hu hlook hp he, ?_⟩
          cases ex with
          | namingAuthentication => exact (he rfl).elim
          | nullPointer => exact exec_ldapError env _
          | indexOutOfBounds => exact exec_ldapError env _
          | other name => exact exec_ldapError env _

/-- Every submission takes an exit of the table, with the verdict and the state listed there. -/
theorem validateForm_ends (env : Collaborators) (s : LoginState) :
    ∃ e, Ends env s e ∧ exec (validateForm env) s = (e.verdict, e.finalState env s) := by
  rw [validateForm, exec_bind]
  rcases captchaControl_cases env s with ⟨passes, hc⟩ | ⟨e, he, hv, hc⟩
  · rw [hc]
    simp only [andThen_ok, Bool.false_eq_true, if_false, exec_bind, exec_superValidateForm,
      exec_get, exec_firstEquals, formValidated_formData, captchaPassed_formData,
      formValidated_context, captchaPassed_context]
    cases hm : getFirst s.formData "radio" with
    | none => exact ⟨_, .noRadio passes hm, rfl⟩
    | some mode =>
      simp only [andThen_ok, exec_ite, decide_eq_true_eq, lockout_test_iff]
      by_cases hlocal : mode = "mkysLogin"
      · rw [if_pos hlocal]
        subst hlocal
        by_cases hl : LocksOut env s.context
        · rw [if_pos hl]
          exact ⟨_, .localLockedOut passes hm hl, exec_bruteForceAttackValideMessage _⟩
        rw [if_neg hl]
        cases hv : env.superValidateForm.verdict with
        | false => exact ⟨_, .localRejected passes hm hl hv, exec_userAndPasswordValidMessage env _⟩
        | true =>
          refine ⟨_, .localAccepted passes hm hv, ?_⟩
          simp [ldapOrAccept, exec_firstEquals, hm, Exit.verdict, Exit.finalState]
      · rw [if_neg hlocal]
        -- the source asks for the second mode whatever the first test said
        simp only [ldapOrAccept, exec_bind, exec_firstEquals, formValidated_formData,
          captchaPassed_formData, hm,
          andThen_ok, exec_ite, decide_eq_true_eq]
        by_cases hldap : mode = "ldapLogin"
        · rw [if_pos hldap]
          subst hldap
          exact ldapLogin_ends passes hm
        · rw [if_neg hldap]
          exact ⟨_, .otherMode passes hm hlocal hldap, rfl⟩
  · rw [hc, andThen_ok, if_pos rfl, exec_pure]
    exact ⟨e, he, by rw [hv]⟩

theorem returned_ends {b : Bool} {t : LoginState}
    (h : exec (validateForm env) s = (.ok b, t)) :
    ∃ e, Ends env s e ∧ e.verdict = .ok b ∧ t = e.finalState env s := by
  obtain ⟨e, he, hx⟩ := validateForm_ends env s
  rw [hx] at h
  exact ⟨e, he, congrArg Prod.fst h, (congrArg Prod.snd h).symm⟩

theorem not_passes_of_blank (present : gRecaptchaResponse ∈ s.formData)
    (blank : isBlank (getFirst s.formData gRecaptchaResponse) = true) :
    ¬ CaptchaPasses env s.formData := by
  intro passes
  obtain ⟨captcha, ht, hb, _⟩ := passes present
  rw [ht, hb] at blank
  cases blank

theorem not_passes_of_refused {captcha : String} (present : gRecaptchaResponse ∈ s.formData)
    (token : getFirst s.formData gRecaptchaResponse = some captcha)
    (refused : recaptchaAccepts env captcha = false) : ¬ CaptchaPasses env s.formData := by
  intro passes
  obtain ⟨other, ht, _, hr⟩ := passes present
  rw [token] at ht
  cases ht
  rw [refused] at hr
  cases hr

theorem ends_unique {e e' : Exit} (h : Ends env s e) (h' : Ends env s e') : e = e' := by
  cases h <;> cases h' <;> simp_all [LocksOut, not_passes_of_blank, not_passes_of_refused]

/-- The table read the other way: the condition of an exit makes the submission take it. -/
theorem validateForm_of_ends {e : Exit} (h : Ends env s e) :
    exec (validateForm env) s = (e.verdict, e.finalState env s) := by
  obtain ⟨e', he', hx⟩ := validateForm_ends env s
  rw [hx, ends_unique h he']

/-- What an accepted submission needs besides the captcha gate, mode by mode. An unknown mode
needs nothing. -/
inductive CredentialsPass (env : Collaborators) (s : LoginState) : Exit → Prop where
  | localLogin (mode : getFirst s.formData "radio" = some "mkysLogin")
      (valid : env.superValidateForm.verdict = true) : CredentialsPass env s .localAccepted
  | unknown {mode} (first : getFirst s.formData "radio" = some mode)
      (notLocal : mode ≠ "mkysLogin") (notLdap : mode ≠ "ldapLogin") :
      CredentialsPass env s .otherMode
  | ldapLogin {user ldapObject} (mode : getFirst s.formData "radio" = some "ldapLogin")
      (unlocked : ¬ LocksOut env s.context) (valid : env.superValidateUser.user = some user)
      (lookup : env.loadLDAPUserByUsername user.username = .ok ldapObject)
      (password : env.validatePassword ldapObject (getFirst s.formData "password") = .ok ()) :
      CredentialsPass env s (.ldapAccepted user)

theorem CredentialsPass.ends {e : Exit} (h : CredentialsPass env s e)
    (passes : CaptchaPasses env s.formData) : Ends env s e ∧ e.verdict = .ok true := by
  cases h with
  | localLogin mode valid => exact ⟨.localAccepted passes mode valid, rfl⟩
  | unknown first notLocal notLdap => exact ⟨.otherMode passes first notLocal notLdap, rfl⟩
  | ldapLogin mode unlocked valid lookup password =>
    exact ⟨.ldapAccepted passes mode unlocked valid lookup password, rfl⟩

theorem accepted_iff {t : LoginState} :
    exec (validateForm env) s = (.ok true, t) ↔
    CaptchaPasses env s.formData ∧ ∃ e, CredentialsPass env s e ∧ t = e.finalState env s := by
  constructor
  · intro h
    obtain ⟨e, he, hv, ht⟩ := returned_ends h
    cases he with
    | localAccepted passes mode valid => exact ⟨passes, _, .localLogin mode valid, ht⟩
    | otherMode passes first notLocal notLdap =>
      exact ⟨passes, _, .unknown first notLocal notLdap, ht⟩
    | ldapAccepted passes mode unlocked valid lookup password =>
      exact ⟨passes, _, .ldapLogin mode unlocked valid lookup password, ht⟩
    | _ => cases hv
  · rintro ⟨passes, e, hc, rfl⟩
    obtain ⟨he, hv⟩ := hc.ends passes
    rw [validateForm_of_ends he, hv]

end

/-! ## What a submission calls -/

/-- The call was made between the two states. -/
def CalledDuring (s t : LoginState) (c : Call) : Prop :=
  ∃ new, t.calls = s.calls ++ new ∧ c ∈ new

/-- A challenge with a page that shows an error. -/
def CarriesPage (o : FlowOutcome) : Prop :=
  ∃ response error, response.page.error = some error ∧
    (o = .forceChallenge response ∨ ∃ kind, o = .failureChallenge kind response)

def gateCalls (s : LoginState) : List Call :=
  match getFirst s.formData gRecaptchaResponse with
  | some captcha => [.validateRecaptcha captcha]
  | none => []

/-- The collaborators asked on the way to an exit. -/
def Exit.asked (s : LoginState) : Exit → List Call
  | .captchaBlank => []
  | .captchaRefused captcha => [.validateRecaptcha captcha]
  | .noRadio | .localLockedOut | .localRejected | .localAccepted | .otherMode =>
    gateCalls s ++ [.superValidateForm]
  | .ldapLockedOut | .ldapUserRejected => gateCalls s ++ [.superValidateForm, .superValidateUser]
  | .lookupThrew user _ => gateCalls s ++
    [.superValidateForm, .superValidateUser, .loadLDAPUserByUsername user.username]
  | .ldapWrongPassword user | .ldapFailed user _ | .ldapAccepted user => gateCalls s ++
    [.superValidateForm, .superValidateUser, .loadLDAPUserByUsername user.username,
      .validatePassword]

/-- What the class itself then does: a lockout does not go through `clearForm`. -/
def Exit.reaction (o : FlowOutcome) : Exit → List Call
  | .localLockedOut | .ldapLockedOut => [.recordOutcome o]
  | .captchaBlank | .captchaRefused _ | .localRejected | .ldapUserRejected
  | .ldapWrongPassword _ | .ldapFailed _ _ => [.createCaptcha, .recordOutcome o]
  | .noRadio | .localAccepted | .otherMode | .lookupThrew _ _ | .ldapAccepted _ => []

/-- The exit ends with these calls, and a rejecting exit with a page on the context. -/
def Exit.Reacts (s t : LoginState) (e : Exit) (o : FlowOutcome) : Prop :=
  t.calls = s.calls ++ (e.asked s ++ e.reaction o) ∧
    (e.verdict = .ok false → CarriesPage o ∧ ∃ earlier, t.context.outcomes = earlier ++ [o])

theorem captchaPassed_calls (s : LoginState) :
    (captchaPassed s).calls = s.calls ++ gateCalls s := by
  simp only [captchaPassed, gateCalls]
  cases getFirst s.formData gRecaptchaResponse with
  | none => simp
  | some captcha => rfl

theorem formValidated_calls (env : Collaborators) (s : LoginState) :
    (formValidated env (captchaPassed s)).calls =
      s.calls ++ (gateCalls s ++ [.superValidateForm]) := by
  simp [formValidated, withContext, called, captchaPassed_calls]

theorem ldapStart_calls (env : Collaborators) (s : LoginState) :
    (ldapStart env s).calls =
      s.calls ++ (gateCalls s ++ [.superValidateForm, .superValidateUser]) := by
  simp [ldapStart, userValidated, withContext, called, formValidated_calls]

theorem ldapChecked_calls (env : Collaborators) (user : UserModel) (s : LoginState) :
    (ldapChecked env user s).calls = s.calls ++ (gateCalls s ++ [.superValidateForm,
      .superValidateUser, .loadLDAPUserByUsername user.username, .validatePassword]) := by
  simp [ldapChecked, lookedUp, called, ldapStart_calls]

theorem lockedOut_reacts {s u : LoginState} {e : Exit} (hu : u.calls = s.calls ++ e.asked s)
    (hr : ∀ o, e.reaction o = [.recordOutcome o]) : ∃ o, e.Reacts s (lockedOut u) o := by
  refine ⟨.forceChallenge ⟨challengeForm u.context.form tooManyAttempts⟩, ?_, fun _ => ?_⟩
  · rw [hr, ← List.append_assoc, ← hu]
    rfl
  · exact ⟨⟨_, _, rfl, Or.inl rfl⟩, _, rfl⟩

theorem refused_reacts {env : Collaborators} {s u : LoginState} {e : Exit}
    (hu : u.calls = s.calls ++ e.asked s)
    (hr : ∀ o, e.reaction o = [.createCaptcha, .recordOutcome o]) (error : String)
    {kind : Response → FlowOutcome}
    (hk : kind = .forceChallenge ∨ ∃ f, kind = .failureChallenge f) :
    ∃ o, e.Reacts s (refused env error kind u) o := by
  refine ⟨kind ⟨challengeForm (cleared env u).context.form error⟩, ?_, fun _ => ⟨?_, _, rfl⟩⟩
  · rw [hr, ← List.append_assoc, ← hu]
    simp [refused, challenged, cleared]
  · rcases hk with rfl | ⟨f, rfl⟩
    · exact ⟨_, error, rfl, Or.inl rfl⟩
    · exact ⟨_, error, rfl, Or.inr ⟨f, rfl⟩⟩

/-- Every exit reacts as its table says. -/
theorem finalState_reacts (env : Collaborators) (s : LoginState) (e : Exit) :
    ∃ o, e.Reacts s (e.finalState env s) o := by
  have accepts {e : Exit} {t : LoginState} (ht : t.calls = s.calls ++ e.asked s)
      (hr : ∀ o, e.reaction o = []) (hv : e.verdict ≠ .ok false) : ∃ o, e.Reacts s t o :=
    ⟨.success, by rw [hr, List.append_nil]; exact ht, fun h => (hv h).elim⟩
  have validated := formValidated_calls env s
  have started := ldapStart_calls env s
  cases e with
  | captchaBlank => exact refused_reacts (by simp [Exit.asked]) (fun _ => rfl) _ (Or.inl rfl)
  | captchaRefused captcha => exact refused_reacts rfl (fun _ => rfl) _ (Or.inl rfl)
  | localLockedOut => exact lockedOut_reacts validated (fun _ => rfl)
  | ldapLockedOut => exact lockedOut_reacts started (fun _ => rfl)
  | localRejected => exact refused_reacts validated (fun _ => rfl) _ (Or.inr ⟨_, rfl⟩)
  | ldapUserRejected => exact refused_reacts started (fun _ => rfl) _ (Or.inr ⟨_, rfl⟩)
  | ldapWrongPassword user =>
    exact refused_reacts (ldapChecked_calls env user s) (fun _ => rfl) _ (Or.inr ⟨_, rfl⟩)
  | ldapFailed user ex =>
    exact refused_reacts (ldapChecked_calls env user s) (fun _ => rfl) _ (Or.inr ⟨_, rfl⟩)
  | noRadio => exact accepts validated (fun _ => rfl) (by simp [Exit.verdict])
  | localAccepted => exact accepts validated (fun _ => rfl) (by simp [Exit.verdict])
  | otherMode => exact accepts validated (fun _ => rfl) (by simp [Exit.verdict])
  | lookupThrew user ex =>
    refine accepts ?_ (fun _ => rfl) (by simp [Exit.verdict])
    simp [Exit.finalState, Exit.asked, lookedUp, called, started]
  | ldapAccepted user =>
    exact accepts (ldapChecked_calls env user s) (fun _ => rfl) (by simp [Exit.verdict])

theorem calledDuring_iff {s t : LoginState} {new : List Call} (h : t.calls = s.calls ++ new)
    (c : Call) : CalledDuring s t c ↔ c ∈ new := by
  constructor
  · rintro ⟨new', h', hc⟩
    rwa [List.append_cancel_left (h.symm.trans h')]
  · intro hc
    exact ⟨new, h, hc⟩

theorem calledDuring_asked {env : Collaborators} {s : LoginState} {e : Exit} {c : Call}
    (h : c ∈ e.asked s) : CalledDuring s (e.finalState env s) c := by
  obtain ⟨o, hcalls, _⟩ := finalState_reacts env s e
  rw [calledDuring_iff hcalls]
  exact List.mem_append_left _ h

/-- All calls a submission can make, in their order. -/
def callChain (s : LoginState) (username : String) (o : FlowOutcome) : List Call :=
  gateCalls s ++ [.superValidateForm, .superValidateUser, .loadLDAPUserByUsername username,
    .validatePassword, .createCaptcha, .recordOutcome o]

/-- The user whom a submission looks up in LDAP, if it gets there. -/
def Exit.ldapUser : Exit → Option UserModel
  | .lookupThrew user _ | .ldapWrongPassword user | .ldapFailed user _ | .ldapAccepted user =>
    some user
  | .captchaBlank | .captchaRefused _ | .noRadio | .localLockedOut | .localRejected
  | .localAccepted | .otherMode | .ldapLockedOut | .ldapUserRejected => none

theorem exit_calls_sublist {env : Collaborators} {s : LoginState} {e : Exit} (he : Ends env s e)
    (o : FlowOutcome) {username : String}
    (hu : ∀ user, e.ldapUser = some user → user.username = username) :
    (e.asked s ++ e.reaction o).Sublist (callChain s username o) := by
  have reaction_last (o : FlowOutcome) (before : List Call) :
      [.createCaptcha, .recordOutcome o].Sublist
        (before ++ [.createCaptcha, .recordOutcome o]) := List.sublist_append_right _ _
  cases he with
  | captchaBlank =>
    exact (reaction_last o [_, _, _, _]).trans (List.sublist_append_right _ _)
  | captchaRefused present token =>
    simp only [Exit.asked, Exit.reaction, callChain, gateCalls, token]
    exact (reaction_last o [_, _, _, _]).cons_cons _
  | localRejected =>
    simp only [Exit.asked, Exit.reaction, callChain, List.append_assoc]
    exact ((reaction_last o [_, _, _]).cons_cons _).append_left _
  | lookupThrew | ldapWrongPassword | ldapFailed | ldapAccepted =>
    obtain rfl := hu _ rfl
    simp only [Exit.asked, Exit.reaction, callChain, List.append_assoc]
    exact List.Sublist.append_left (by simp) _
  | _ =>
    simp only [Exit.asked, Exit.reaction, callChain, List.append_assoc]
    exact List.Sublist.append_left (by simp) _

theorem outcome_recorded_iff {s : LoginState} {e : Exit} {o : FlowOutcome} :
    .recordOutcome o ∈ e.asked s ++ e.reaction o ↔ e.verdict = .ok false := by
  cases e <;> simp [Exit.asked, Exit.reaction, Exit.verdict, gateCalls] <;> split <;> simp

/-- A submission asks each collaborator at most once and in one order. The class itself records
an outcome exactly when it rejects, once and as the last thing it does. LDAP is asked for no
other user than the one the parent class validated. -/
theorem calls_in_order (env : Collaborators) (s : LoginState) :
    ∃ r t new username o, exec (validateForm env) s = (r, t) ∧ t.calls = s.calls ++ new ∧
      new.Sublist (callChain s username o) ∧ (.recordOutcome o ∈ new ↔ r = .ok false) ∧
      (.loadLDAPUserByUsername username ∈ new →
        env.superValidateUser.user.map UserModel.username = some username) := by
  obtain ⟨e, he, hx⟩ := validateForm_ends env s
  obtain ⟨o, hcalls, _⟩ := finalState_reacts env s e
  have husername : ∃ username, ∀ user, e.ldapUser = some user → user.username = username := by
    cases e.ldapUser with
    | none => exact ⟨"", fun _ h => by cases h⟩
    | some user => exact ⟨user.username, fun _ h => by cases h; rfl⟩
  obtain ⟨username, hu⟩ := husername
  refine ⟨_, _, _, username, o, hx, hcalls, exit_calls_sublist he o hu, outcome_recorded_iff, ?_⟩
  intro hmem
  cases he with
  | lookupThrew _ _ _ valid | ldapWrongPassword _ _ _ valid | ldapFailed _ _ _ valid
  | ldapAccepted _ _ _ valid =>
    rw [valid, Option.map_some, hu _ rfl]
  | _ =>
    simp [Exit.asked, Exit.reaction, gateCalls] at hmem <;> split at hmem <;> simp at hmem

end UsernamePasswordExits
