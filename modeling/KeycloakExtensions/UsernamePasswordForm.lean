import KeycloakExtensions.LibraryEffects
import KeycloakExtensions.KeycloakModel

/-! The login form of `CustomUsernamePasswordRecaptcha`. The parent class, LDAP and the
reCAPTCHA service are given by their answers in one call; an answer of the parent may change
the authentication context in any way. Log lines are left out. -/
namespace UsernamePasswordForm

open KeycloakModel LibraryEffects

def gRecaptchaResponse : String := "g-recaptcha-response"
def siteKey : String := "XXXXXXXXXXXXXXXXXXXXXXXXXXXXXXX"
def siteSecret : String := "XXXXXXXXXXXXXXXXXXXXXXXXXXXXXXXXXX"
def validateCaptchaUrl : String := "https://www.google.com/recaptcha/api/siteverify"
def wrongPasswordAndUsername : String := "Kullanıcı Adı veya Parola yanlış!"
def noImage : String := "Resim doğrulanamadı!"
def userTemporarilyDisabled : String := "user_temporarily_disabled"
def tooManyAttempts : String :=
  "You have made too many login attempts, so your account has been locked for 30 minutes."
def ldapErrorMessage : String :=
  "LDAP tarafında bir hata ile karşılaşıldı.Lütfen tekrar deneyiniz!"

/-- `usernameHidden` says whether that attribute is set: `login.ftl` asks whether it exists. -/
structure LoginFormsProvider where
  error : Option String
  recaptchaRequired : Option Bool
  recaptchaSiteKey : Option String
  scripts : List String
  usernameHidden : Bool
  deriving DecidableEq, Repr

/-- A rendered page is the state of the form provider when it was rendered. -/
structure Response where
  page : LoginFormsProvider
  deriving DecidableEq, Repr

inductive AuthenticationFlowError where
  | invalidCredentials
  | genericAuthenticationError
  | other (name : String)
  deriving DecidableEq, Repr

inductive FlowOutcome where
  | success
  | attempted
  | failure (error : AuthenticationFlowError)
  | challenge (response : Response)
  | forceChallenge (response : Response)
  | failureChallenge (error : AuthenticationFlowError) (response : Response)
  deriving DecidableEq, Repr

/-- `eventError` is the error now on the event, `errorsSent` the errors sent to the listeners
and `outcomes` what was recorded on the context, both oldest first. -/
structure FlowContext where
  user : Option UserModel
  eventError : Option String
  errorsSent : List String
  outcomes : List FlowOutcome
  form : LoginFormsProvider

inductive Call where
  | validateRecaptcha (captcha : String)
  | superValidateForm
  | superValidateUser
  | loadLDAPUserByUsername (username : String)
  | validatePassword
  | createCaptcha
  | recordOutcome (o : FlowOutcome)
  deriving DecidableEq, Repr

/-- `calls` is an observation of the class itself: what it has called so far. -/
structure LoginState where
  context : FlowContext
  formData : MultivaluedMap
  calls : List Call

inductive Json where
  | null
  | bool (b : Bool)
  | number (literal : String)
  | string (s : String)
  | array (items : List Json)
  | object (members : List (String × Json))

inductive ReplyBody where
  | missing
  | unparsable
  | json (value : Json)

inductive VerificationReply where
  | connectionFailed
  | answered (body : ReplyBody) (closeFails : Bool)

structure LDAPObject where
  uuid : String
  deriving DecidableEq, Repr

structure ValidateFormAnswer where
  verdict : Bool
  effect : FlowContext → FlowContext

/-- `validateUser` answers true together with the user it sets on the context. -/
structure ValidateUserAnswer where
  user : Option UserModel
  effect : FlowContext → FlowContext

structure Collaborators where
  resolveLocale : Option UserModel → String
  remoteAddr : String
  siteverify : String → List (String × String) → VerificationReply
  superValidateForm : ValidateFormAnswer
  superValidateUser : ValidateUserAnswer
  loadLDAPUserByUsername : String → Except JavaException (Option LDAPObject)
  validatePassword : Option LDAPObject → Option String → Except JavaException Unit

abbrev LoginM := Effect LoginState JavaException

/-- `Validation.isBlank`: null, or nothing left after `trim`. -/
def isBlank : Option String → Bool
  | none => true
  | some s => s.toList.all (fun c => decide (c ≤ ' '))

def readMap : ReplyBody → Except JavaException (Option (List (String × Json)))
  | .missing => .error .nullPointer
  | .unparsable => .error (.other "JsonParseException")
  | .json (.object members) => .ok (some members)
  | .json .null => .ok none
  | .json _ => .error (.other "MismatchedInputException")

/-- `Boolean.TRUE.equals(json.get("success"))`; of two members of one name the later counts. -/
def successIsTrue (members : List (String × Json)) : Bool :=
  match members.reverse.lookup "success" with
  | some (.bool true) => true
  | _ => false

/-- The `try` block of `validateRecaptcha`. Closing the response can still throw after the
member was read. -/
def readVerdict : VerificationReply → Except JavaException Bool
  | .connectionFailed => .error (.other "IOException")
  | .answered body closeFails => do
    match ← readMap body with
    | none => .error .nullPointer
    | some members =>
      if closeFails then .error (.other "IOException") else .ok (successIsTrue members)

def formParams (env : Collaborators) (captcha : String) : List (String × String) :=
  [("secret", siteSecret), ("response", captcha), ("remoteip", env.remoteAddr)]

def recaptchaAccepts (env : Collaborators) (captcha : String) : Bool :=
  match readVerdict (env.siteverify validateCaptchaUrl (formParams env captcha)) with
  | .ok verdict => verdict
  | .error _ => false

def record (c : Call) : LoginM Unit := modify fun s => { s with calls := s.calls ++ [c] }

def modifyContext (f : FlowContext → FlowContext) : LoginM Unit :=
  modify fun s => { s with context := f s.context }

def validateRecaptcha (env : Collaborators) (captcha : String) : LoginM Bool := do
  record (.validateRecaptcha captcha)
  pure (recaptchaAccepts env captcha)

def createCaptcha (form : LoginFormsProvider) (userLanguageTag : String) : LoginFormsProvider :=
  { form with
    recaptchaRequired := some true
    recaptchaSiteKey := some siteKey
    scripts := form.scripts ++ ["https://www.google.com/recaptcha/api.js?hl=" ++ userLanguageTag] }

def clearForm (env : Collaborators) : LoginM Unit := do
  modify fun s => { s with formData := s.formData.erase gRecaptchaResponse }
  record .createCaptcha
  modifyContext fun c => { c with form := createCaptcha c.form (env.resolveLocale c.user) }

/-- `createLoginForm` resets `recaptchaRequired` on every page it renders, also on those
rendered right after `createCaptcha`. -/
def createLoginForm (form : LoginFormsProvider) : LoginFormsProvider :=
  { form with recaptchaRequired := some false, recaptchaSiteKey := some siteKey }

def challengeForm (form : LoginFormsProvider) (error : String) : LoginFormsProvider :=
  createLoginForm { form with error := some error }

def challenge (error : String) : LoginM Response := do
  modifyContext fun c => { c with form := challengeForm c.form error }
  let s ← get
  pure ⟨s.context.form⟩

def recordOutcome (o : FlowOutcome) : LoginM Unit := do
  record (.recordOutcome o)
  modifyContext fun c => { c with outcomes := c.outcomes ++ [o] }

/-- `context.getEvent().error(error)`: sets the error of the event and sends the event. -/
def eventError (error : String) : LoginM Unit :=
  modifyContext fun c =>
    { c with eventError := some error, errorsSent := c.errorsSent ++ [error] }

def bruteForceAttackValideMessage : LoginM Bool := do
  eventError "brute_force_attack"
  let challengeResponse ← challenge tooManyAttempts
  recordOutcome (.forceChallenge challengeResponse)
  pure false

def userAndPasswordValidMessage (env : Collaborators) : LoginM Bool := do
  clearForm env
  let challengeResponse ← challenge wrongPasswordAndUsername
  recordOutcome (.failureChallenge .invalidCredentials challengeResponse)
  pure false

def refuseCaptcha (env : Collaborators) : LoginM Bool := do
  clearForm env
  let challengeResponse ← challenge noImage
  recordOutcome (.forceChallenge challengeResponse)
  pure true

def captchaControl (env : Collaborators) : LoginM Bool := do
  let s ← get
  if gRecaptchaResponse ∈ s.formData then
    match getFirst s.formData gRecaptchaResponse with
    | none => refuseCaptcha env
    | some captcha =>
      if isBlank (some captcha) then refuseCaptcha env
      else do
        let validateCaptcha ← validateRecaptcha env captcha
        if validateCaptcha then pure false else refuseCaptcha env
  else pure false

def superValidateForm (env : Collaborators) : LoginM Bool := do
  record .superValidateForm
  modifyContext env.superValidateForm.effect
  pure env.superValidateForm.verdict

def superValidateUser (env : Collaborators) : LoginM Bool := do
  record .superValidateUser
  modifyContext env.superValidateUser.effect
  match env.superValidateUser.user with
  | none => pure false
  | some user => do
    modifyContext fun c => { c with user := some user }
    pure true

def firstEquals (key value : String) : LoginM Bool := do
  let s ← get
  match getFirst s.formData key with
  -- `getFirst` gives null, and `equals` is called on it
  | none => throw .nullPointer
  | some first => pure (decide (first = value))

def loadLDAPUserByUsername (env : Collaborators) (user : Option UserModel) :
    LoginM (Option LDAPObject) :=
  match user with
  | none => throw .nullPointer
  | some userModel => do
    record (.loadLDAPUserByUsername userModel.username)
    ofExcept (env.loadLDAPUserByUsername userModel.username)

def validatePassword (env : Collaborators) (ldapObject : Option LDAPObject) : LoginM Unit := do
  let s ← get
  record .validatePassword
  ofExcept (env.validatePassword ldapObject (getFirst s.formData "password"))

def ldapError (env : Collaborators) : LoginM Bool := do
  clearForm env
  let challengeResponse ← challenge ldapErrorMessage
  recordOutcome (.failureChallenge .genericAuthenticationError challengeResponse)
  pure false

/-- The body of the `ldapLogin` branch of `validateForm`. The lookup of the LDAP user stands
before the `try` block. -/
def ldapLogin (env : Collaborators) (isValidUser : Bool)
    (validUserErrorMessage : Option String) : LoginM Bool := do
  let isUserValid ← superValidateUser env
  if !isValidUser && validUserErrorMessage == some userTemporarilyDisabled then
    bruteForceAttackValideMessage
  else if !isUserValid then
    userAndPasswordValidMessage env
  else do
    let s ← get
    let ldapObject ← loadLDAPUserByUsername env s.context.user
    -- only the password check stands inside `try`
    tryCatch (do validatePassword env ldapObject; pure true) fun ex =>
      match ex with
      | .namingAuthentication => userAndPasswordValidMessage env
      | _ => ldapError env

def ldapOrAccept (env : Collaborators) (isValidUser : Bool)
    (validUserErrorMessage : Option String) : LoginM Bool := do
  if ← firstEquals "radio" "ldapLogin" then
    ldapLogin env isValidUser validUserErrorMessage
  else pure true

def validateForm (env : Collaborators) : LoginM Bool := do
  if ← captchaControl env then pure false
  else do
    let isValidUser ← superValidateForm env
    let s ← get
    let validUserErrorMessage := s.context.eventError
    if ← firstEquals "radio" "mkysLogin" then
      if !isValidUser && validUserErrorMessage == some userTemporarilyDisabled then
        bruteForceAttackValideMessage
      else if !isValidUser then
        userAndPasswordValidMessage env
      else ldapOrAccept env isValidUser validUserErrorMessage
    else ldapOrAccept env isValidUser validUserErrorMessage

/-- The button is not posted: `onsubmit` disables it. -/
def loginFtlFields (usernameHidden : Bool) : List String :=
  (if usernameHidden then [] else ["radio", "username"]) ++ ["password", "credentialId"]

/-- `<#if recaptchaRequired??>` asks whether the attribute exists, not whether it is true. -/
def rendersCaptchaWidget (response : Response) : Bool := response.page.recaptchaRequired.isSome

/-- What a request starts from. -/
def blankForm : LoginFormsProvider := ⟨none, none, none, [], false⟩
def freshContext : FlowContext := ⟨none, none, [], [], blankForm⟩

end UsernamePasswordForm
