import KeycloakExtensions.UsernamePasswordExits

/-! # What an accepted and what a rejected submission guarantees

Acceptance is the fall-through of `validateForm`, which an unknown login mode reaches with no
check at all. Two throws, of the missing mode and of the LDAP lookup, leave the method. -/
namespace UsernamePasswordLogin

open KeycloakModel LibraryEffects UsernamePasswordForm UsernamePasswordExits

variable {env : Collaborators} {s t : LoginState}

def CredentialChecked (env : Collaborators) (s t : LoginState) : Prop :=
  (getFirst s.formData "radio" ≠ some "ldapLogin" ∧
    CalledDuring s t .superValidateForm ∧ env.superValidateForm.verdict = true) ∨
  (getFirst s.formData "radio" = some "ldapLogin" ∧
    CalledDuring s t .superValidateUser ∧ CalledDuring s t .validatePassword ∧
    ∃ user ldapObject, env.superValidateUser.user = some user ∧
      env.loadLDAPUserByUsername user.username = .ok ldapObject ∧
      env.validatePassword ldapObject (getFirst s.formData "password") = .ok ())

/-- Only a checked credential is accepted, and never one that was rejected as locked out. -/
def LoginSound (env : Collaborators) (s : LoginState) : Prop :=
  ∀ t, exec (validateForm env) s = (.ok true, t) →
    CredentialChecked env s t ∧ ¬ LocksOut env s.context

/-- The form passes the captcha gate with a login mode that `validateForm` does not know, and
the parent class has rejected it. -/
def UnverifiedMode (env : Collaborators) (s : LoginState) : Prop :=
  CaptchaPasses env s.formData ∧ env.superValidateForm.verdict = false ∧
    ∃ mode, getFirst s.formData "radio" = some mode ∧ mode ≠ "mkysLogin" ∧ mode ≠ "ldapLogin"

theorem accepted_sound (hm : ¬ UnverifiedMode env s)
    (h : exec (validateForm env) s = (.ok true, t)) :
    CredentialChecked env s t ∧ ¬ LocksOut env s.context := by
  have form_valid (hv : env.superValidateForm.verdict = true) : ¬ LocksOut env s.context := by
    intro hl
    rw [hl.1] at hv
    cases hv
  obtain ⟨passes, e, hc, rfl⟩ := accepted_iff.mp h
  cases hc with
  | localLogin mode hv =>
    refine ⟨Or.inl ⟨?_, calledDuring_asked (by simp [Exit.asked]), hv⟩, form_valid hv⟩
    rw [mode]
    decide
  | unknown first notLocal notLdap =>
    cases hv : env.superValidateForm.verdict with
    | false => exact (hm ⟨passes, hv, _, first, notLocal, notLdap⟩).elim
    | true =>
      refine ⟨Or.inl ⟨?_, calledDuring_asked (by simp [Exit.asked]), hv⟩, form_valid hv⟩
      rw [first]
      exact fun he => notLdap (Option.some.inj he)
  | ldapLogin mode unlocked valid lookup password =>
    exact ⟨Or.inr ⟨mode, calledDuring_asked (by simp [Exit.asked]),
      calledDuring_asked (by simp [Exit.asked]), _, _, valid, lookup, password⟩, unlocked⟩

/-- The login is sound on exactly the submissions that do not slip through as unknown modes. -/
theorem login_sound_iff (env : Collaborators) (s : LoginState) :
    LoginSound env s ↔ ¬ UnverifiedMode env s := by
  constructor
  · rintro hs ⟨passes, hv, mode, first, notLocal, notLdap⟩
    have hx := validateForm_of_ends (.otherMode passes first notLocal notLdap)
    rcases (hs _ hx).1 with ⟨_, _, hv'⟩ | ⟨hldap, _⟩
    · rw [hv] at hv'
      cases hv'
    · rw [first] at hldap
      exact notLdap (Option.some.inj hldap)
  · intro hm t h
    exact accepted_sound hm h

def lockedEnv : Collaborators where
  resolveLocale _ := "tr"
  remoteAddr := "10.0.0.7"
  siteverify _ _ := .connectionFailed
  superValidateForm := ⟨false, fun c => { c with eventError := some userTemporarilyDisabled }⟩
  superValidateUser := ⟨none, id⟩
  loadLDAPUserByUsername _ := .error (.other "ModelException")
  validatePassword _ _ := .error .namingAuthentication

def unknownModeForm : MultivaluedMap :=
  [⟨"radio", ["x"]⟩, ⟨"username", ["joe"]⟩, ⟨"password", ["wrong"]⟩].toAList

theorem unknown_mode_accepts_locked_user :
    ¬ LoginSound lockedEnv ⟨freshContext, unknownModeForm, []⟩ := by
  intro h
  have hx : (exec (validateForm lockedEnv) ⟨freshContext, unknownModeForm, []⟩).1 = .ok true :=
    rfl
  exact (h _ (Prod.ext hx rfl)).2 ⟨rfl, rfl⟩

/-! ## Every submission ends in a verdict -/

def RecordsPage (s t : LoginState) : Prop :=
  ∃ earlier o, t.context.outcomes = earlier ++ [o] ∧
    CalledDuring s t (.recordOutcome o) ∧ CarriesPage o

/-- The method returns, and when it rejects, a page is the last thing it recorded. -/
def EndsInResponse (env : Collaborators) (s : LoginState) : Prop :=
  ∃ b t, exec (validateForm env) s = (.ok b, t) ∧ (b = false → RecordsPage s t)

def Escapes (env : Collaborators) (s : LoginState) : Prop :=
  CaptchaPasses env s.formData ∧
    (getFirst s.formData "radio" = none ∨
     (getFirst s.formData "radio" = some "ldapLogin" ∧ ¬ LocksOut env s.context ∧
      ∃ user ex, env.superValidateUser.user = some user ∧
        env.loadLDAPUserByUsername user.username = .error ex))

theorem rejected_records_page {e : Exit} (h : e.verdict = .ok false) :
    RecordsPage s (e.finalState env s) := by
  obtain ⟨o, hcalls, hpage⟩ := finalState_reacts env s e
  obtain ⟨hcarries, earlier, houtcomes⟩ := hpage h
  refine ⟨earlier, o, houtcomes, ?_, hcarries⟩
  rw [calledDuring_iff hcalls]
  cases e with
  | noRadio | localAccepted | otherMode | lookupThrew | ldapAccepted => cases h
  | _ => simp [Exit.reaction]

theorem endsInResponse_of_verdict {e : Exit} {b : Bool} (he : Ends env s e)
    (hv : e.verdict = .ok b) : EndsInResponse env s := by
  refine ⟨b, e.finalState env s, ?_, ?_⟩
  · rw [validateForm_of_ends he, hv]
  · intro hb
    exact rejected_records_page (hb ▸ hv)

theorem not_endsInResponse_of_throw {e : Exit} {ex : JavaException} (he : Ends env s e)
    (hv : e.verdict = .error ex) : ¬ EndsInResponse env s := by
  rintro ⟨b, t, h, _⟩
  rw [validateForm_of_ends he, hv] at h
  cases h

theorem escapes_of_throw {e : Exit} {ex : JavaException} (he : Ends env s e)
    (hv : e.verdict = .error ex) : Escapes env s := by
  cases he with
  | noRadio passes mode => exact ⟨passes, Or.inl mode⟩
  | lookupThrew passes mode unlocked valid lookup =>
    exact ⟨passes, Or.inr ⟨mode, unlocked, _, _, valid, lookup⟩⟩
  | _ => cases hv

/-- A submission gets its verdict and its page exactly when none of the two throws is met. -/
theorem ends_in_response_iff (env : Collaborators) (s : LoginState) :
    EndsInResponse env s ↔ ¬ Escapes env s := by
  constructor
  · rintro hr ⟨passes, mode | ⟨mode, unlocked, user, ex, hu, hlook⟩⟩
    · exact not_endsInResponse_of_throw (.noRadio passes mode) rfl hr
    · exact not_endsInResponse_of_throw (.lookupThrew passes mode unlocked hu hlook) rfl hr
  · intro hn
    obtain ⟨e, he, _⟩ := validateForm_ends env s
    cases hv : e.verdict with
    | ok b => exact endsInResponse_of_verdict he hv
    | error ex => exact (hn (escapes_of_throw he hv)).elim

def obligingEnv : Collaborators where
  resolveLocale _ := "tr"
  remoteAddr := "10.0.0.7"
  siteverify _ _ := .answered (.json (.object [("success", .bool true)])) false
  superValidateForm := ⟨true, fun c => { c with user := some joe }⟩
  superValidateUser := ⟨some joe, id⟩
  loadLDAPUserByUsername _ := .ok (some ⟨"guid"⟩)
  validatePassword _ _ := .ok ()

def hiddenUsernameForm : MultivaluedMap :=
  [⟨"password", ["secret"]⟩, ⟨"credentialId", [""]⟩].toAList

theorem hidden_username_submission_escapes :
    ¬ EndsInResponse obligingEnv ⟨freshContext, hiddenUsernameForm, []⟩ := by
  rintro ⟨b, t, h, _⟩
  have hx : (exec (validateForm obligingEnv) ⟨freshContext, hiddenUsernameForm, []⟩).1 =
      .error .nullPointer := rfl
  rw [h] at hx
  cases hx

end UsernamePasswordLogin
