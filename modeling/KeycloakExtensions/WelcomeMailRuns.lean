import KeycloakExtensions.LibraryRuns
import KeycloakExtensions.WelcomeMail

/-! # The mails of a run of admin events

Each event is a request of its own, so one that throws takes nothing from the others. The
environment may change between the events. -/
namespace WelcomeMailRuns

open KeycloakModel LibraryEffects LibraryRuns LibrarySegments WelcomeMail

structure Delivery where
  env : Collaborators
  event : AdminEvent

/-- The mails handed to the sender, also those it fails on. -/
def outbox : Machine (List Mail) Delivery where
  Enabled _ _ := True
  next sent d := (exec (onEvent d.env d.event) sent).2

/-- The user in the second segment of the resource path of a creation. -/
def Created (d : Delivery) (user : UserModel) : Prop :=
  IsUserCreation d.event ∧ ∃ id, elementAt 1 (javaSplit '/' d.event.resourcePath) = .ok id ∧
    d.env.getUserById d.event.realmId id = some user

/-- The first `KULLANICITIPI` is there and is another one than personnel. -/
def HasOutsideType (user : UserModel) : Prop :=
  ∃ first, getFirst user.attributes userType = some first ∧ first ≠ personelUser

def loginPages : List String := [girisSayfasiDev, girisSayfasiPage, girisSayfasiCanli]

/-- A mail to this user and about this user: both bodies give the user's name and a link to
one of the login pages. -/
structure Greets (env : Collaborators) (user : UserModel) (mail : Mail) : Prop where
  config : mail.config = env.smtpConfig
  address : mail.address = user.email
  subject : mail.subject = "Registered"
  text : ∃ link ∈ loginPages, mail.textBody = messageBlock.formatted user.username link
  html : ∃ link ∈ loginPages, mail.htmlBody = htmlBlock.formatted user.username link

/-- What one event adds: one mail that greets the created outside user, or nothing. -/
def Adds (d : Delivery) (new : List Mail) : Prop :=
  (∃ user mail, Created d user ∧ HasOutsideType user ∧ Greets d.env user mail ∧ new = [mail]) ∨
  ((∀ user, Created d user → ¬ HasOutsideType user) ∧ new = [])

variable {d : Delivery} {user user' : UserModel}

theorem created_unique (h : Created d user) (h' : Created d user') : user = user' := by
  obtain ⟨_, id, hid, hu⟩ := h
  obtain ⟨_, id', hid', hu'⟩ := h'
  rw [hid] at hid'
  cases hid'
  rw [hu] at hu'
  exact Option.some.inj hu'

theorem exec_onEvent_created (h : Created d user) (sent : List Mail) :
    exec (onEvent d.env d.event) sent = exec (greet d.env user) sent := by
  obtain ⟨hc, id, hid, hu⟩ := h
  have hevent : d.event.resourceType = .user ∧ d.event.operationType = .create := hc
  rw [onEvent, if_pos hevent]
  simp only [hid, exec_bind, exec_ofExcept, andThen_ok, hu]

theorem welcomeMail_greets (env : Collaborators) (user : UserModel) :
    Greets env user (welcomeMail env user) := by
  refine ⟨rfl, rfl, rfl, ⟨_, ?_, rfl⟩, ⟨_, ?_, rfl⟩⟩
  · cases isDev env.profile <;> simp [loginPages]
  · cases isStaging env.profile <;> simp [loginPages]

theorem greet_adds (h : Created d user) (sent : List Mail) :
    ∃ new, (exec (greet d.env user) sent).2 = sent ++ new ∧ Adds d new := by
  have nothing (hn : ¬ HasOutsideType user) : Adds d [] :=
    Or.inr ⟨fun user' h' => created_unique h h' ▸ hn, rfl⟩
  cases hf : getFirst user.attributes userType with
  | none =>
    obtain ⟨ex, hx⟩ := exec_greet_unvalued d.env hf sent
    refine ⟨[], by rw [hx, List.append_nil], nothing ?_⟩
    intro hcase
    rcases hcase with ⟨first, hfirst, _⟩
    rw [hf] at hfirst
    cases hfirst
  | some first =>
    rw [exec_greet_valued hf]
    by_cases hp : first = personelUser
    · refine ⟨[], by simp [hp], nothing ?_⟩
      intro hcase
      rcases hcase with ⟨other, hother, hne⟩
      rw [hf] at hother
      cases hother
      exact hne hp
    · refine ⟨[welcomeMail d.env user], by simp [hp], Or.inl ?_⟩
      exact ⟨user, _, h, ⟨first, hf, hp⟩, welcomeMail_greets d.env user, rfl⟩

/-- An event that names no user changes nothing, whether it is ignored or throws. -/
theorem exec_onEvent_nobody (h : ∀ user, ¬ Created d user) (sent : List Mail) :
    (exec (onEvent d.env d.event) sent).2 = sent := by
  by_cases hc : IsUserCreation d.event
  · have hevent : d.event.resourceType = .user ∧ d.event.operationType = .create := hc
    rw [onEvent, if_pos hevent]
    simp only [exec_bind, exec_ofExcept]
    cases hid : elementAt 1 (javaSplit '/' d.event.resourcePath) with
    | error ex => rfl
    | ok id =>
      cases hu : d.env.getUserById d.event.realmId id with
      | none => simp only [andThen_ok, hu, exec_throw]
      | some user => exact (h user ⟨hc, id, hid, hu⟩).elim
  · rw [exec_onEvent_other hc]

theorem onEvent_adds (d : Delivery) (sent : List Mail) :
    ∃ new, (exec (onEvent d.env d.event) sent).2 = sent ++ new ∧ Adds d new := by
  by_cases h : ∃ user, Created d user
  · obtain ⟨user, hu⟩ := h
    rw [exec_onEvent_created hu]
    exact greet_adds hu sent
  · have hn (user : UserModel) : ¬ Created d user := fun hu => h ⟨user, hu⟩
    refine ⟨[], ?_, Or.inr ⟨fun user hu => (hn user hu).elim, rfl⟩⟩
    rw [exec_onEvent_nobody hn, List.append_nil]

/-- Over a run the outbox grows by what each event is to add, in the order of the events: no
mail is lost, sent twice or sent to anyone else, also when other events throw. -/
theorem outbox_adds_up (sent : List Mail) (ds : List Delivery) :
    ∃ news, List.Forall₂ Adds ds news ∧ outbox.run sent ds = sent ++ news.flatten := by
  induction ds generalizing sent with
  | nil => exact ⟨[], .nil, (List.append_nil sent).symm⟩
  | cons d ds ih =>
    obtain ⟨new, hnew, hadds⟩ := onEvent_adds d sent
    obtain ⟨news, hnews, hrun⟩ := ih (sent ++ new)
    refine ⟨new :: news, .cons hadds hnews, ?_⟩
    have hstep : outbox.run sent (d :: ds) = outbox.run (sent ++ new) ds :=
      congrArg (fun s => outbox.run s ds) hnew
    rw [hstep, hrun, List.flatten_cons, List.append_assoc]

end WelcomeMailRuns
