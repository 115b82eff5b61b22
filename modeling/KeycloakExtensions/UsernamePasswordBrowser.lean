import KeycloakExtensions.LibraryRuns
import KeycloakExtensions.UsernamePasswordLogin

/-! # The login page and `validateForm` in a loop

A browser posts the fields that `login.ftl` and the scripts of the page let it post, and is
shown the page of the last challenge; or it loads the page again. The loop is compared with a
dialogue that knows of each attempt only whether its captcha is confirmed, whether the user is
locked out, what became of the credentials and whether the parent class hides the username. -/
namespace UsernamePasswordBrowser

open KeycloakModel LibraryEffects LibraryRuns UsernamePasswordForm UsernamePasswordExits
  UsernamePasswordLogin

/-! ## The browser -/

/-- The radio buttons of `login.ftl`. -/
inductive LoginMode where
  | mkysLogin
  | ldapLogin
  deriving DecidableEq, Repr

def LoginMode.value : LoginMode → String
  | .mkysLogin => "mkysLogin"
  | .ldapLogin => "ldapLogin"

/-- `captcha` is what the widget has put into its field; it is blank until it is solved. -/
structure Entries where
  mode : LoginMode
  username : String
  password : String
  captcha : String
  credentialId : String
  deriving DecidableEq, Repr

def captchaScript : String := "https://www.google.com/recaptcha/api.js"

/-- The field of the widget is made by the script, which `template.ftl` loads only when the page
lists it. The widget alone is an empty `div`. -/
def offersCaptcha (response : Response) : Bool :=
  rendersCaptchaWidget response &&
    response.page.scripts.any fun script => captchaScript.toList.isPrefixOf script.toList

def fieldsOf (response : Response) (entries : Entries) : List ((_ : String) × List String) :=
  (if response.page.usernameHidden then []
    else [⟨"radio", [entries.mode.value]⟩, ⟨"username", [entries.username]⟩]) ++
  [⟨"password", [entries.password]⟩] ++
  (if offersCaptcha response then [⟨gRecaptchaResponse, [entries.captcha]⟩] else []) ++
  [⟨"credentialId", [entries.credentialId]⟩]

def formData (response : Response) (entries : Entries) : MultivaluedMap :=
  (fieldsOf response entries).toAList

inductive Stage where
  | showing (response : Response)
  | accepted
  | unanswered
  | crashed (ex : JavaException)
  deriving DecidableEq, Repr

/-- One request: the collaborators and the context it meets, and what the user enters. -/
structure Attempt where
  env : Collaborators
  context : FlowContext
  entries : Entries

/-- A page is loaded, from any stage, or the form of the page shown is posted. -/
inductive Move where
  | load (form : LoginFormsProvider)
  | post (a : Attempt)

def responseOf : FlowOutcome → Option Response
  | .challenge r | .forceChallenge r | .failureChallenge _ r => some r
  | .success | .attempted | .failure _ => none

/-- The response of the last challenge on the context is sent. -/
def answer (s : LoginState) : Stage :=
  match (s.context.outcomes.filterMap responseOf).getLast? with
  | some response => .showing response
  | none => .unanswered

def received (response : Response) (a : Attempt) : LoginState :=
  ⟨a.context, formData response a.entries, []⟩

def stageAfter : Except JavaException Bool × LoginState → Stage
  | (.ok true, _) => .accepted
  | (.ok false, t) => answer t
  | (.error ex, _) => .crashed ex

def submit (response : Response) (a : Attempt) : Stage :=
  stageAfter (exec (validateForm a.env) (received response a))

/-- The inherited `authenticate` renders the form it has prepared; there is nothing to post
where no page is shown. -/
def nextStage : Stage → Move → Stage
  | _, .load form => .showing ⟨createLoginForm form⟩
  | .showing response, .post a => submit response a
  | s, .post _ => s

def browser : Machine Stage Move where
  Enabled s move := (∃ form, move = .load form) ∨ ∃ response, s = .showing response
  next := nextStage

/-! ## The dialogue -/

/-- What became of the credentials: LDAP may fail on the password or before it. -/
inductive Check where
  | passed
  | wrong
  | ldapFailed
  | lookupFailed
  deriving DecidableEq, Repr

/-- `hides`: the parent class has set `usernameHidden` while it checked the attempt. -/
structure Facts where
  confirmed : Bool
  lockedOut : Bool
  check : Check
  hides : Bool
  deriving DecidableEq, Repr

structure Prompt where
  guarded : Bool
  message : Option String
  usernameHidden : Bool
  deriving DecidableEq, Repr

inductive Dialogue where
  | asking (prompt : Prompt)
  | loggedIn
  | broken
  deriving DecidableEq, Repr

inductive Event where
  | loaded (prompt : Prompt)
  | posted (facts : Facts)
  deriving DecidableEq, Repr

def concluded (hides : Bool) : Check → Dialogue
  | .passed => .loggedIn
  | .wrong => .asking ⟨true, some wrongPasswordAndUsername, hides⟩
  | .ldapFailed => .asking ⟨true, some ldapErrorMessage, hides⟩
  | .lookupFailed => .broken

/-- A guard that is not met is asked for again, with the login modes; without them no attempt
comes to its credentials. A lockout lifts the guard. -/
def Prompt.reply (prompt : Prompt) (facts : Facts) : Dialogue :=
  if prompt.guarded && !facts.confirmed then .asking ⟨true, some noImage, false⟩
  else if prompt.usernameHidden then .broken
  else if facts.lockedOut then .asking ⟨false, some tooManyAttempts, facts.hides⟩
  else concluded facts.hides facts.check

def Dialogue.step : Dialogue → Event → Dialogue
  | _, .loaded prompt => .asking prompt
  | .asking prompt, .posted facts => prompt.reply facts
  | d, .posted _ => d

def dialogue : Machine Dialogue Event where
  Enabled d e := (∃ prompt, e = .loaded prompt) ∨ ∃ prompt, d = .asking prompt
  next := Dialogue.step

def ldapCheck (env : Collaborators) (password : String) : Check :=
  match env.superValidateUser.user with
  | none => .wrong
  | some user =>
    match env.loadLDAPUserByUsername user.username with
    | .error _ => .lookupFailed
    | .ok ldapObject =>
      match env.validatePassword ldapObject (some password) with
      | .ok _ => .passed
      | .error ex => if ex = .namingAuthentication then .wrong else .ldapFailed

/-- The context as the parent class leaves it, which is asked once more for LDAP. -/
def parentContext (a : Attempt) : FlowContext :=
  match a.entries.mode with
  | .mkysLogin => a.env.superValidateForm.effect a.context
  | .ldapLogin => a.env.superValidateUser.effect (a.env.superValidateForm.effect a.context)

def factsOf (a : Attempt) : Facts where
  confirmed := !isBlank (some a.entries.captcha) && recaptchaAccepts a.env a.entries.captcha
  lockedOut := decide (LocksOut a.env a.context)
  check :=
    match a.entries.mode with
    | .mkysLogin => if a.env.superValidateForm.verdict then .passed else .wrong
    | .ldapLogin => ldapCheck a.env a.entries.password
  hides := (parentContext a).form.usernameHidden

/-- What is seen of a page: whether the captcha is on it, its message, and whether it hides the
username together with the login modes. -/
def promptOf (response : Response) : Prompt :=
  ⟨offersCaptcha response, response.page.error, response.page.usernameHidden⟩

def view : Stage → Option Dialogue
  | .showing response => some (.asking (promptOf response))
  | .accepted => some .loggedIn
  | .unanswered => none
  | .crashed _ => some .broken

def observe : Move → Event
  | .load form => .loaded (promptOf ⟨createLoginForm form⟩)
  | .post a => .posted (factsOf a)

/-! ## The posted form -/

variable {response : Response} {a : Attempt}

theorem getFirst_formData (response : Response) (entries : Entries) (key : String) :
    getFirst (formData response entries) key =
      ((fieldsOf response entries).dlookup key).bind List.head? := by
  rw [getFirst, formData, AList.lookup_to_alist]

theorem mem_formData {key : String} : key ∈ formData response a.entries ↔
    key ∈ loginFtlFields response.page.usernameHidden ∨
      key = gRecaptchaResponse ∧ offersCaptcha response = true := by
  rw [formData, ← AList.lookup_isSome, AList.lookup_to_alist, List.dlookup_isSome]
  cases hh : response.page.usernameHidden <;> by_cases h : offersCaptcha response = true <;>
    simp [fieldsOf, loginFtlFields, hh, h] <;> tauto

theorem getFirst_radio (response : Response) (entries : Entries) :
    getFirst (formData response entries) "radio" =
      if response.page.usernameHidden then none else some entries.mode.value := by
  rw [getFirst_formData]
  cases hh : response.page.usernameHidden <;> by_cases h : offersCaptcha response = true <;>
    simp [fieldsOf, gRecaptchaResponse, hh, h]

theorem getFirst_password (response : Response) (entries : Entries) :
    getFirst (formData response entries) "password" = some entries.password := by
  rw [getFirst_formData]
  cases hh : response.page.usernameHidden <;> simp [fieldsOf, hh]

theorem getFirst_captcha (response : Response) (entries : Entries) :
    getFirst (formData response entries) gRecaptchaResponse =
      if offersCaptcha response then some entries.captcha else none := by
  rw [getFirst_formData]
  cases hh : response.page.usernameHidden <;> by_cases h : offersCaptcha response = true <;>
    simp [fieldsOf, gRecaptchaResponse, hh, h]

/-- A login mode that is posted is the one chosen, on a page that has them. -/
theorem value_of_radio {mode : String}
    (h : getFirst (received response a).formData "radio" = some mode) :
    response.page.usernameHidden = false ∧ a.entries.mode.value = mode := by
  rw [received, getFirst_radio] at h
  cases hh : response.page.usernameHidden with
  | true =>
    rw [hh] at h
    cases h
  | false =>
    rw [hh] at h
    exact ⟨rfl, Option.some.inj h⟩

theorem hidden_of_no_radio (h : getFirst (received response a).formData "radio" = none) :
    response.page.usernameHidden = true := by
  rw [received, getFirst_radio] at h
  cases hh : response.page.usernameHidden with
  | true => rfl
  | false =>
    rw [hh] at h
    cases h

theorem mode_local (h : getFirst (received response a).formData "radio" = some "mkysLogin") :
    a.entries.mode = .mkysLogin := by
  have hvalue := (value_of_radio h).2
  cases hm : a.entries.mode with
  | mkysLogin => rfl
  | ldapLogin => exact absurd (hm ▸ hvalue) (by decide)

theorem mode_ldap (h : getFirst (received response a).formData "radio" = some "ldapLogin") :
    a.entries.mode = .ldapLogin := by
  have hvalue := (value_of_radio h).2
  cases hm : a.entries.mode with
  | mkysLogin => exact absurd (hm ▸ hvalue) (by decide)
  | ldapLogin => rfl

theorem not_other_mode {mode : String}
    (h : getFirst (received response a).formData "radio" = some mode)
    (notLocal : mode ≠ "mkysLogin") (notLdap : mode ≠ "ldapLogin") : False := by
  have hvalue := (value_of_radio h).2
  cases hm : a.entries.mode with
  | mkysLogin => exact notLocal (by rw [← hvalue, hm]; rfl)
  | ldapLogin => exact notLdap (by rw [← hvalue, hm]; rfl)

/-! ## One submission -/

/-- The form of the request is new, and the parent class adds no script to it. -/
structure PlainForm (a : Attempt) : Prop where
  scripts : a.context.form.scripts = []
  modes : a.context.form.usernameHidden = false
  validateForm : ∀ c, (a.env.superValidateForm.effect c).form.scripts = c.form.scripts
  validateUser : ∀ c, (a.env.superValidateUser.effect c).form.scripts = c.form.scripts

def Move.Plain : Move → Prop
  | .load _ => True
  | .post a => PlainForm a

/-- What the browser is shown of the dialogue: a guarded page lists the script of the captcha,
in the language of the user. -/
def render (userLanguageTag : String) (ex : JavaException) : Dialogue → Stage
  | .asking prompt =>
    .showing ⟨⟨prompt.message, some false, some siteKey,
      if prompt.guarded then ["https://www.google.com/recaptcha/api.js?hl=" ++ userLanguageTag]
        else [],
      prompt.usernameHidden⟩⟩
  | .loggedIn => .accepted
  | .broken => .crashed ex

def dialogueOf (hides : Bool) : Exit → Dialogue
  | .captchaBlank | .captchaRefused _ => .asking ⟨true, some noImage, false⟩
  | .localLockedOut | .ldapLockedOut => .asking ⟨false, some tooManyAttempts, hides⟩
  | .localRejected | .ldapUserRejected | .ldapWrongPassword _ =>
    .asking ⟨true, some wrongPasswordAndUsername, hides⟩
  | .ldapFailed _ _ => .asking ⟨true, some ldapErrorMessage, hides⟩
  | .localAccepted | .otherMode | .ldapAccepted _ => .loggedIn
  | .noRadio | .lookupThrew _ _ => .broken

/-- The form lists no script yet, and hides the username or not. -/
structure Unscripted (s : LoginState) (hides : Bool) : Prop where
  scripts : s.context.form.scripts = []
  modes : s.context.form.usernameHidden = hides

theorem answer_refused {env : Collaborators} {s : LoginState} {kind : Response → FlowOutcome}
    {hides : Bool} (hk : ∀ r, responseOf (kind r) = some r) (hs : Unscripted s hides)
    (error : String) (ex : JavaException) : answer (refused env error kind s) =
      render (env.resolveLocale s.context.user) ex (.asking ⟨true, some error, hides⟩) := by
  simp [answer, refused, challenged, cleared, List.filterMap_append, hk, render, challengeForm,
    createLoginForm, createCaptcha, hs.scripts, hs.modes]

theorem answer_lockedOut {s : LoginState} {hides : Bool} (hs : Unscripted s hides) (tag : String)
    (ex : JavaException) :
    answer (lockedOut s) = render tag ex (.asking ⟨false, some tooManyAttempts, hides⟩) := by
  simp [answer, lockedOut, challenged, withContext, List.filterMap_append, responseOf, render,
    challengeForm, createLoginForm, hs.scripts, hs.modes]

theorem received_unscripted (plain : PlainForm a) (response : Response) :
    Unscripted (received response a) false := ⟨plain.scripts, plain.modes⟩

theorem formValidated_unscripted (plain : PlainForm a) (response : Response)
    (mode : a.entries.mode = .mkysLogin) :
    Unscripted (formValidated a.env (captchaPassed (received response a))) (factsOf a).hides := by
  constructor
  · rw [formValidated_context, captchaPassed_context, plain.validateForm]
    exact plain.scripts
  · rw [formValidated_context, captchaPassed_context]
    simp only [factsOf, parentContext, mode]
    rfl

theorem ldapStart_unscripted (plain : PlainForm a) (response : Response)
    (mode : a.entries.mode = .ldapLogin) :
    Unscripted (ldapStart a.env (received response a)) (factsOf a).hides := by
  have context : (ldapStart a.env (received response a)).context =
      setUser a.env.superValidateUser.user (parentContext a) := by
    simp [ldapStart, userValidated, withContext, called, parentContext, mode, received]
  constructor
  · rw [context]
    simp only [setUser, parentContext, mode]
    rw [plain.validateUser, plain.validateForm]
    exact plain.scripts
  · rw [context]
    rfl

/-- Every exit shows what the dialogue says of it. -/
theorem exit_render (plain : PlainForm a) {e : Exit} (he : Ends a.env (received response a) e) :
    ∃ user ex, stageAfter (e.verdict, e.finalState a.env (received response a)) =
      render (a.env.resolveLocale user) ex (dialogueOf (factsOf a).hides e) := by
  have fresh := received_unscripted plain response
  have validated (mode : a.entries.mode = .mkysLogin) :
      Unscripted (formValidated a.env (captchaPassed (received response a))) (factsOf a).hides :=
    formValidated_unscripted plain response mode
  have started (mode : a.entries.mode = .ldapLogin) :
      Unscripted (ldapStart a.env (received response a)) (factsOf a).hides :=
    ldapStart_unscripted plain response mode
  have checked (user : UserModel) (mode : a.entries.mode = .ldapLogin) :
      Unscripted (ldapChecked a.env user (received response a)) (factsOf a).hides :=
    ⟨(started mode).scripts, (started mode).modes⟩
  cases he with
  | captchaBlank => exact ⟨_, .nullPointer, answer_refused (fun _ => rfl) fresh _ _⟩
  | @captchaRefused captcha =>
    have asked : Unscripted (called (.validateRecaptcha captcha) (received response a)) false :=
      ⟨fresh.scripts, fresh.modes⟩
    exact ⟨_, .nullPointer, answer_refused (fun _ => rfl) asked _ _⟩
  | noRadio => exact ⟨none, .nullPointer, rfl⟩
  | localLockedOut _ mode =>
    exact ⟨none, .nullPointer, answer_lockedOut (validated (mode_local mode)) _ _⟩
  | localRejected _ mode =>
    exact ⟨_, .nullPointer, answer_refused (fun _ => rfl) (validated (mode_local mode)) _ _⟩
  | localAccepted => exact ⟨none, .nullPointer, rfl⟩
  | otherMode => exact ⟨none, .nullPointer, rfl⟩
  | ldapLockedOut _ mode =>
    exact ⟨none, .nullPointer, answer_lockedOut (started (mode_ldap mode)) _ _⟩
  | ldapUserRejected _ mode =>
    exact ⟨_, .nullPointer, answer_refused (fun _ => rfl) (started (mode_ldap mode)) _ _⟩
  | @lookupThrew _ ex => exact ⟨none, ex, rfl⟩
  | @ldapWrongPassword user _ _ mode =>
    exact ⟨_, .nullPointer, answer_refused (fun _ => rfl) (checked user (mode_ldap mode)) _ _⟩
  | @ldapFailed user _ ex _ mode =>
    exact ⟨_, .nullPointer, answer_refused (fun _ => rfl) (checked user (mode_ldap mode)) _ _⟩
  | ldapAccepted => exact ⟨none, .nullPointer, rfl⟩

theorem captchaPasses_iff : CaptchaPasses a.env (formData response a.entries) ↔
    (offersCaptcha response && !(factsOf a).confirmed) = false := by
  have hm : gRecaptchaResponse ∈ formData response a.entries ↔ offersCaptcha response = true := by
    rw [mem_formData]
    cases response.page.usernameHidden <;> simp [loginFtlFields, gRecaptchaResponse]
  rw [CaptchaPasses, hm]
  cases ho : offersCaptcha response with
  | false => simp
  | true => simp [getFirst_captcha, ho, factsOf]

theorem reply_blocked (blocked : ¬ CaptchaPasses a.env (formData response a.entries)) :
    (promptOf response).reply (factsOf a) = .asking ⟨true, some noImage, false⟩ := by
  rw [captchaPasses_iff, Bool.not_eq_false] at blocked
  simp only [Prompt.reply, promptOf, blocked, if_true]

theorem reply_hidden (passes : CaptchaPasses a.env (formData response a.entries))
    (hidden : response.page.usernameHidden = true) :
    (promptOf response).reply (factsOf a) = .broken := by
  simp [Prompt.reply, promptOf, captchaPasses_iff.mp passes, hidden]

theorem reply_lockedOut (passes : CaptchaPasses a.env (formData response a.entries))
    {mode : String} (radio : getFirst (received response a).formData "radio" = some mode)
    (locked : LocksOut a.env a.context) : (promptOf response).reply (factsOf a) =
      .asking ⟨false, some tooManyAttempts, (factsOf a).hides⟩ := by
  have hl : (factsOf a).lockedOut = true := decide_eq_true locked
  simp [Prompt.reply, promptOf, captchaPasses_iff.mp passes, (value_of_radio radio).1, hl]

theorem reply_concluded (passes : CaptchaPasses a.env (formData response a.entries))
    {mode : String} (radio : getFirst (received response a).formData "radio" = some mode)
    (unlocked : ¬ LocksOut a.env a.context) {check : Check} (hc : (factsOf a).check = check) :
    (promptOf response).reply (factsOf a) = concluded (factsOf a).hides check := by
  have hl : (factsOf a).lockedOut = false := decide_eq_false unlocked
  simp [Prompt.reply, promptOf, captchaPasses_iff.mp passes, (value_of_radio radio).1, hl, hc]

/-- The dialogue takes the step that the exit stands for. -/
theorem reply_of_ends {e : Exit} (he : Ends a.env (received response a) e) :
    (promptOf response).reply (factsOf a) = dialogueOf (factsOf a).hides e := by
  cases he with
  | captchaBlank present blank => exact reply_blocked (not_passes_of_blank present blank)
  | captchaRefused present token _ refused =>
    exact reply_blocked (not_passes_of_refused present token refused)
  | noRadio passes missing => exact reply_hidden passes (hidden_of_no_radio missing)
  | localLockedOut passes mode locked => exact reply_lockedOut passes mode locked
  | ldapLockedOut passes mode locked => exact reply_lockedOut passes mode locked
  | localRejected passes mode unlocked rejected =>
    have hc : (factsOf a).check = .wrong := by simp [factsOf, mode_local mode, rejected]
    exact reply_concluded passes mode unlocked hc
  | localAccepted passes mode valid =>
    have hc : (factsOf a).check = .passed := by simp [factsOf, mode_local mode, valid]
    have unlocked : ¬ LocksOut a.env a.context := by
      intro locked
      rw [locked.1] at valid
      cases valid
    exact reply_concluded passes mode unlocked hc
  | otherMode passes first notLocal notLdap => exact (not_other_mode first notLocal notLdap).elim
  | ldapUserRejected passes mode unlocked rejected =>
    have hc : (factsOf a).check = .wrong := by simp [factsOf, mode_ldap mode, ldapCheck, rejected]
    exact reply_concluded passes mode unlocked hc
  | lookupThrew passes mode unlocked valid lookup =>
    have hc : (factsOf a).check = .lookupFailed := by
      simp [factsOf, mode_ldap mode, ldapCheck, valid, lookup]
    exact reply_concluded passes mode unlocked hc
  | ldapWrongPassword passes mode unlocked valid lookup password =>
    rw [received, getFirst_password] at password
    have hc : (factsOf a).check = .wrong := by
      simp [factsOf, mode_ldap mode, ldapCheck, valid, lookup, password]
    exact reply_concluded passes mode unlocked hc
  | ldapFailed passes mode unlocked valid lookup password other =>
    rw [received, getFirst_password] at password
    have hc : (factsOf a).check = .ldapFailed := by
      simp [factsOf, mode_ldap mode, ldapCheck, valid, lookup, password, other]
    exact reply_concluded passes mode unlocked hc
  | ldapAccepted passes mode unlocked valid lookup password =>
    rw [received, getFirst_password] at password
    have hc : (factsOf a).check = .passed := by
      simp [factsOf, mode_ldap mode, ldapCheck, valid, lookup, password]
    exact reply_concluded passes mode unlocked hc

/-- The spec of one submission. -/
theorem submit_render (plain : PlainForm a) (response : Response) :
    ∃ user ex, submit response a =
      render (a.env.resolveLocale user) ex ((promptOf response).reply (factsOf a)) := by
  obtain ⟨e, he, hx⟩ := validateForm_ends a.env (received response a)
  rw [submit, hx, reply_of_ends he]
  exact exit_render plain he

/-! ## Runs -/

theorem captchaScript_listed (userLanguageTag : String) : captchaScript.toList.isPrefixOf
    ("https://www.google.com/recaptcha/api.js?hl=" ++ userLanguageTag).toList = true := by
  have hsplit : "https://www.google.com/recaptcha/api.js?hl=" = captchaScript ++ "?hl=" := by
    simp [captchaScript]
  rw [hsplit, List.isPrefixOf_iff_prefix, String.toList_append, String.toList_append,
    List.append_assoc]
  exact List.prefix_append _ _

theorem view_render (userLanguageTag : String) (ex : JavaException) (d : Dialogue) :
    view (render userLanguageTag ex d) = some d := by
  cases d with
  | asking prompt =>
    obtain ⟨guarded, message, hidden⟩ := prompt
    cases guarded with
    | false => rfl
    | true =>
      simp only [render, view, promptOf, offersCaptcha, if_true, List.any_cons,
        captchaScript_listed, Bool.true_or, Bool.and_true]
      rfl
  | loggedIn => rfl
  | broken => rfl

/-- One move keeps the stage in step with the dialogue. -/
theorem view_nextStage {s : Stage} {d : Dialogue} {move : Move} (shown : view s = some d)
    (plain : move.Plain) : view (nextStage s move) = some (d.step (observe move)) := by
  cases move with
  | load form =>
    cases d <;> rfl
  | post a =>
    cases s with
    | showing response =>
      cases shown
      obtain ⟨user, ex, hx⟩ := submit_render plain response
      rw [nextStage, hx, view_render]
      rfl
    | accepted =>
      cases shown
      rfl
    | unanswered => cases shown
    | crashed ex =>
      cases shown
      rfl

/-- Every run of the browser against the code is, to the view, a run of the dialogue; in
particular no rejection stays without a page. -/
theorem browser_refines_dialogue (s : Stage) (d : Dialogue) (shown : view s = some d)
    (moves : List Move) (plain : ∀ move ∈ moves, move.Plain) :
    view (browser.run s moves) = some (dialogue.run d (moves.map observe)) := by
  have keep (s : Stage) (d : Dialogue) (move : Move) (hv : view s = some d) (hp : move.Plain) :
      view (browser.next s move) = some (dialogue.next d (observe move)) := view_nextStage hv hp
  exact Machine.run_simulates (R := fun s d => view s = some d) keep shown
    (Machine.along_of_forall plain s)

def entered (env : Collaborators) (mode : LoginMode) (password captcha : String) : Attempt :=
  ⟨env, freshContext, ⟨mode, "joe", password, captcha, ""⟩⟩

def rejectingEnv : Collaborators := { obligingEnv with superValidateForm := ⟨false, id⟩ }

/-- A wrong local password, and then LDAP with a token. -/
def wrongTry : Attempt := entered rejectingEnv .mkysLogin "wrong" ""
def ldapTry : Attempt := entered rejectingEnv .ldapLogin "secret" "token"

/-- The page is loaded again after the wrong password. -/
def secondTry : List Move := [.post wrongTry, .load blankForm, .post wrongTry, .post ldapTry]

theorem wrongTry_plain : PlainForm wrongTry := ⟨rfl, rfl, fun _ => rfl, fun _ => rfl⟩

theorem ldapTry_plain : PlainForm ldapTry := ⟨rfl, rfl, fun _ => rfl, fun _ => rfl⟩

theorem secondTry_plain : ∀ move ∈ secondTry, move.Plain := by
  simp [secondTry, Move.Plain, wrongTry_plain, ldapTry_plain]

theorem second_try_refines :
    view (browser.run (.showing ⟨blankForm⟩) secondTry) =
      some (dialogue.run (.asking ⟨false, none, false⟩) (secondTry.map observe)) :=
  browser_refines_dialogue (.showing ⟨blankForm⟩) (.asking ⟨false, none, false⟩) rfl secondTry
    secondTry_plain

end UsernamePasswordBrowser
