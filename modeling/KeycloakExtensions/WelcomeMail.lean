import KeycloakExtensions.LibraryEffects
import KeycloakExtensions.LibrarySegments
import KeycloakExtensions.KeycloakModel

/-! # The welcome mail

`KCEventListener.onEvent(AdminEvent)`: the mails handed to the sender on an admin event. The
two bodies of a mail choose their link by two different tests of the profile. -/
namespace WelcomeMail

open KeycloakModel LibraryEffects LibrarySegments

def girisSayfasiPage : String := "https://staging-kimlik.turkiyesigorta.com.tr"
def girisSayfasiCanli : String := "https://kimlik.turkiyesigorta.com.tr/"
def girisSayfasiDev : String := "http://localhost:8080/admin/turkiye-sigorta/console"
def userType : String := "KULLANICITIPI"
def personelUser : String := "PERSONEL"

inductive ResourceType where
  | user
  | other (name : String)
  deriving DecidableEq, Repr

inductive OperationType where
  | create
  | update
  | delete
  | action
  deriving DecidableEq, Repr

structure AdminEvent where
  realmId : String
  resourceType : ResourceType
  operationType : OperationType
  resourcePath : String
  deriving DecidableEq, Repr

/-- A text block with two `%s`: the text before, between and after them. -/
structure TextBlock where
  before : String
  between : String
  after : String

def TextBlock.formatted (block : TextBlock) (first second : String) : String :=
  block.before ++ first ++ block.between ++ second ++ block.after

def messageBlock : TextBlock where
  before :=
    "Hoşgeldiniz ,\nKullanıcınız kimlik sistemine başarılı şekilde kayıt edilmiştir.\n" ++
    "Kullanıcı adınız: "
  between :=
    "\nGiriş sayfasında bulunan \"Forget Password\" bölümünden şifrenizi oluşturabilirsiniz.\n" ++
    "Giriş sayfası: "
  after := "\n"

def htmlBlock : TextBlock where
  before :=
    "<html>\n<head>\n    <style>\n        body \x7b\n" ++
    "            font-family: \x27Arial\x27, sans-serif;\n" ++
    "            background-color: #f4f4f4;\n            text-align: center;\n" ++
    "            margin: 50px;\n        \x7d\n        .container \x7b\n" ++
    "            background-color: #fff;\n            padding: 20px;\n" ++
    "            border-radius: 10px;\n" ++
    "            box-shadow: 0 0 10px rgba(0, 0, 0, 0.1);\n" ++
    "            max-width: 600px;\n            margin: 0 auto;\n        \x7d\n" ++
    "        h2 \x7b\n            color: #3498db;\n        \x7d\n        p \x7b\n" ++
    "            color: #555;\n        \x7d\n        a \x7b\n" ++
    "            color: #3498db;\n            text-decoration: none;\n" ++
    "            font-weight: bold;\n        \x7d\n    </style>\n</head>\n<body>\n" ++
    "    <div class=\"container\">\n        <h2>Kullanıcı Kaydı Başarılı</h2>\n" ++
    "        <p>Kullanıcı adınız: <strong>"
  between :=
    "</strong></p>\n        <p>Şifrenizi oluşturmak için lütfen <a href=\""
  after :=
    "\" target=\"_blank\">giriş sayfasına</a> gidin ve \"Şifremi Unuttum\" bölümünü kullanın." ++
    "</p>\n    </div>\n</body>\n</html>\n"

structure Mail where
  config : List (String × String)
  address : Option String
  subject : String
  textBody : String
  htmlBody : String
  deriving DecidableEq, Repr

/-- `profile` is the value of `KC_PROFILE`; the sender answers whether it throws. -/
structure Collaborators where
  profile : Option String
  getUserById : String → String → Option UserModel
  smtpConfig : List (String × String)
  sendFails : Mail → Bool

abbrev MailM := Effect (List Mail) JavaException

def isDev (profile : Option String) : Bool := decide (profile = some "dev")
def isStaging (profile : Option String) : Bool := decide (profile = some "staging")

def emailException : JavaException := .other "EmailException"

def send (env : Collaborators) (mail : Mail) : MailM Unit := do
  modify fun sent => sent ++ [mail]
  if env.sendFails mail then throw emailException else pure ()

def elementAt (i : ℕ) (array : List String) : Except JavaException String :=
  match array[i]? with
  | none => .error .indexOutOfBounds
  | some s => .ok s

def welcomeMail (env : Collaborators) (userModel : UserModel) : Mail where
  config := env.smtpConfig
  address := userModel.email
  subject := "Registered"
  textBody := messageBlock.formatted userModel.username
    (if isDev env.profile then girisSayfasiDev else girisSayfasiPage)
  htmlBody := htmlBlock.formatted userModel.username
    (if isStaging env.profile then girisSayfasiPage else girisSayfasiCanli)

/-- `onEvent` once the user is found. -/
def greet (env : Collaborators) (userModel : UserModel) : MailM Unit :=
  match userModel.attributes.lookup userType with
  | none => throw .nullPointer
  | some values => do
    let first ← ofExcept (getZero values)
    if first = personelUser then pure ()
    else
      tryCatch (send env (welcomeMail env userModel)) fun ex =>
        if ex = emailException then pure () else throw ex

def onEvent (env : Collaborators) (adminEvent : AdminEvent) : MailM Unit :=
  if adminEvent.resourceType = .user ∧ adminEvent.operationType = .create then do
    let userId ← ofExcept (elementAt 1 (javaSplit '/' adminEvent.resourcePath))
    match env.getUserById adminEvent.realmId userId with
    | none => throw .nullPointer
    | some userModel => greet env userModel
  else pure ()

/-! ## One event -/

variable {env : Collaborators} {event : AdminEvent} {user : UserModel}

def IsUserCreation (event : AdminEvent) : Prop :=
  event.resourceType = .user ∧ event.operationType = .create

/-- The event is about this user: its path is `users/` and the id. -/
def IsAbout (env : Collaborators) (event : AdminEvent) (user : UserModel) : Prop :=
  ∃ id, id ≠ "" ∧ '/' ∉ id.toList ∧ event.resourcePath = "users/" ++ id ∧
    env.getUserById event.realmId id = some user

def IsPersonel (user : UserModel) : Prop := getFirst user.attributes userType = some personelUser

theorem exec_send (mail : Mail) (sent : List Mail) :
    exec (tryCatch (send env mail) fun ex =>
      if ex = emailException then pure () else throw ex) sent = (.ok (), sent ++ [mail]) := by
  cases hf : env.sendFails mail <;> simp [send, hf]

theorem exec_onEvent_other (h : ¬ IsUserCreation event) (sent : List Mail) :
    exec (onEvent env event) sent = (.ok (), sent) := by
  have hc : ¬ (event.resourceType = .user ∧ event.operationType = .create) := h
  rw [onEvent, if_neg hc, exec_pure]

theorem exec_onEvent_creation (hc : IsUserCreation event) (ha : IsAbout env event user)
    (sent : List Mail) : exec (onEvent env event) sent = exec (greet env user) sent := by
  obtain ⟨id, hne, hid, hpath, hfound⟩ := ha
  have hevent : event.resourceType = .user ∧ event.operationType = .create := hc
  have hsegment : elementAt 1 (javaSplit '/' event.resourcePath) = .ok id := by
    have hslash : "users/" = "users" ++ String.singleton '/' := by decide
    rw [hpath, hslash, javaSplit_pair (by decide) hne hid]
    rfl
  rw [onEvent, if_pos hevent]
  simp only [hsegment, exec_bind, exec_ofExcept, andThen_ok, hfound]

theorem exec_greet_valued {first : String} (h : getFirst user.attributes userType = some first)
    (sent : List Mail) : exec (greet env user) sent =
      (.ok (), if first = personelUser then sent else sent ++ [welcomeMail env user]) := by
  obtain ⟨values, hl, hv⟩ := Option.bind_eq_some_iff.mp h
  obtain ⟨rest, rfl⟩ := List.head?_eq_some_iff.mp hv
  simp only [greet, hl, getZero, exec_bind, exec_ofExcept, andThen_ok, exec_ite, exec_send,
    exec_pure]
  split <;> rfl

/-- Without a value the access to the attribute leaves the listener. -/
theorem exec_greet_unvalued (env : Collaborators)
    (h : getFirst user.attributes userType = none) (sent : List Mail) :
    ∃ ex, exec (greet env user) sent = (.error ex, sent) := by
  rw [getFirst] at h
  rw [greet]
  cases hl : user.attributes.lookup userType with
  | none => exact ⟨.nullPointer, rfl⟩
  | some values =>
    cases values with
    | nil => exact ⟨.indexOutOfBounds, rfl⟩
    | cons value rest =>
      rw [hl] at h
      cases h

/-! ## The contract -/

def SameUserAndLink (user : UserModel) (mail : Mail) : Prop :=
  ∃ link, mail.textBody = messageBlock.formatted user.username link ∧
    mail.htmlBody = htmlBlock.formatted user.username link

/-- The listener returns, has handed over exactly one mail if and only if a user was created
who is not personnel, and the two bodies of every mail agree. -/
def WelcomeContract (env : Collaborators) (event : AdminEvent) (user : UserModel) : Prop :=
  ∀ sent, ∃ new, exec (onEvent env event) sent = (.ok (), sent ++ new) ∧
    ((∃ mail, new = [mail]) ↔ IsUserCreation event ∧ ¬ IsPersonel user) ∧
    ∀ mail ∈ new, SameUserAndLink user mail

def ContractCondition (env : Collaborators) (event : AdminEvent) (user : UserModel) : Prop :=
  IsUserCreation event → ∃ first, getFirst user.attributes userType = some first ∧
    (first = personelUser ∨ env.profile = some "staging")

theorem formatted_injective {block : TextBlock} {first second second' : String}
    (h : block.formatted first second = block.formatted first second') : second = second' := by
  have hlink := (String.append_left_inj block.after).mp h
  exact (String.append_right_inj _).mp hlink

/-- The texts link to the same page in the staging environment only. -/
theorem sameUserAndLink_iff (env : Collaborators) (user : UserModel) :
    SameUserAndLink user (welcomeMail env user) ↔ env.profile = some "staging" := by
  constructor
  · rintro ⟨link, htext, hhtml⟩
    have hdev := formatted_injective htext
    have hstaging := formatted_injective hhtml
    by_contra hp
    rw [isStaging, decide_eq_false hp] at hstaging
    rw [← hstaging] at hdev
    cases hd : isDev env.profile <;> rw [hd] at hdev <;> exact absurd hdev (by decide)
  · intro hp
    refine ⟨girisSayfasiPage, ?_, ?_⟩
    · simp only [welcomeMail, hp]
      rfl
    · simp only [welcomeMail, hp]
      rfl

theorem contract_of_nothing (hn : ¬ (IsUserCreation event ∧ ¬ IsPersonel user))
    (hx : ∀ sent, exec (onEvent env event) sent = (.ok (), sent)) :
    WelcomeContract env event user := by
  intro sent
  refine ⟨[], by rw [hx, List.append_nil], ?_, by simp⟩
  simp [hn]

theorem contract_iff_of_mail (hc : IsUserCreation event ∧ ¬ IsPersonel user)
    (hx : ∀ sent, exec (onEvent env event) sent = (.ok (), sent ++ [welcomeMail env user])) :
    WelcomeContract env event user ↔ env.profile = some "staging" := by
  rw [← sameUserAndLink_iff env user]
  constructor
  · intro h
    obtain ⟨new, hnew, _, hmails⟩ := h []
    rw [hx] at hnew
    cases hnew
    exact hmails _ List.mem_cons_self
  · intro hsame sent
    refine ⟨[welcomeMail env user], hx sent, by simp [hc], ?_⟩
    intro mail hm
    rwa [List.mem_singleton.mp hm]

theorem not_contract_of_throw {ex : JavaException} {sent t : List Mail}
    (hx : exec (onEvent env event) sent = (.error ex, t)) : ¬ WelcomeContract env event user := by
  intro h
  obtain ⟨new, hnew, _⟩ := h sent
  rw [hx] at hnew
  cases hnew

theorem welcome_contract_iff (env : Collaborators) (event : AdminEvent) (user : UserModel)
    (about : IsUserCreation event → IsAbout env event user) :
    WelcomeContract env event user ↔ ContractCondition env event user := by
  by_cases hc : IsUserCreation event
  · have hx := exec_onEvent_creation hc (about hc)
    cases hf : getFirst user.attributes userType with
    | none =>
      have hno : ¬ ContractCondition env event user := by
        intro h
        obtain ⟨first, he, _⟩ := h hc
        rw [hf] at he
        cases he
      obtain ⟨ex, hthrown⟩ := exec_greet_unvalued env hf []
      exact iff_of_false (not_contract_of_throw ((hx []).trans hthrown)) hno
    | some first =>
      have hcondition : ContractCondition env event user ↔
          first = personelUser ∨ env.profile = some "staging" := by
        simp [ContractCondition, hc, hf]
      have hpersonel : IsPersonel user ↔ first = personelUser := by
        simp [IsPersonel, hf]
      rw [hcondition]
      by_cases hfirst : first = personelUser
      · have hnothing (sent : List Mail) : exec (onEvent env event) sent = (.ok (), sent) := by
          rw [hx, exec_greet_valued hf, if_pos hfirst]
        exact iff_of_true
          (contract_of_nothing (fun h => h.2 (hpersonel.mpr hfirst)) hnothing) (Or.inl hfirst)
      · have hmail (sent : List Mail) :
            exec (onEvent env event) sent = (.ok (), sent ++ [welcomeMail env user]) := by
          rw [hx, exec_greet_valued hf, if_neg hfirst]
        rw [or_iff_right hfirst]
        exact contract_iff_of_mail ⟨hc, fun h => hfirst (hpersonel.mp h)⟩ hmail
  · have hall : ContractCondition env event user := fun h => (hc h).elim
    exact iff_of_true (contract_of_nothing (fun h => hc h.1) (exec_onEvent_other hc)) hall

def agency : UserModel :=
  ⟨"u1", "joe", some "joe@localhost", [⟨userType, ["ACENTE"]⟩].toAList, [], [], ∅⟩

/-- The same user without `KULLANICITIPI`. -/
def untyped : UserModel := { agency with attributes := ∅ }

def creation : AdminEvent := ⟨"realm", .user, .create, "users/u1"⟩

def mailEnv (profile : Option String) (user : UserModel) : Collaborators where
  profile := profile
  getUserById _ id := if id = user.id then some user else none
  smtpConfig := []
  sendFails _ := false

theorem welcome_mail_in_staging :
    WelcomeContract (mailEnv (some "staging") agency) creation agency := by
  refine (welcome_contract_iff (mailEnv (some "staging") agency) creation agency ?_).mpr ?_
  · exact fun _ => ⟨"u1", by decide, by decide, by decide, rfl⟩
  · exact fun _ => ⟨"ACENTE", by decide, Or.inr rfl⟩

/-- In production the text sends an agency to the staging page and the HTML to the live one. -/
theorem links_differ_in_production :
    ¬ WelcomeContract (mailEnv (some "prod") agency) creation agency ∧
    ¬ WelcomeContract (mailEnv (some "staging") untyped) creation untyped := by
  constructor
  · intro h
    obtain ⟨new, hnew, _, hmails⟩ := h []
    have hx : exec (onEvent (mailEnv (some "prod") agency) creation) [] =
        (.ok (), [welcomeMail (mailEnv (some "prod") agency) agency]) := rfl
    rw [hx] at hnew
    cases hnew
    have hstaging := (sameUserAndLink_iff _ _).mp (hmails _ List.mem_cons_self)
    exact absurd hstaging (by decide)
  · have hx : exec (onEvent (mailEnv (some "staging") untyped) creation) [] =
        (.error .nullPointer, []) := rfl
    exact not_contract_of_throw hx

end WelcomeMail
