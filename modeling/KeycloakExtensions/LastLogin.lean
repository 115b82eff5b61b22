import Mathlib.Order.WithBot
import KeycloakExtensions.LibraryOwnedList
import KeycloakExtensions.LibraryRuns

/-! # The last-login time

Every LOGIN event starts a task that runs on its own: it reads the clock, and later writes the
attribute `SONGIRISTARIHI` through the `UserModel` of the session that delivered the event. What
a session has written is stored when it commits; a write after that is lost.

The steps are the same for the listener of a whole realm and for the share of one user in it,
and for any kind of value that is written. -/
namespace LastLogin

open LibraryOwnedList LibraryRuns

inductive EventType where
  | LOGIN
  | LOGIN_ERROR
  | other (name : String)
  deriving DecidableEq, Repr

structure Event where
  type : EventType
  userId : Option String
  deriving DecidableEq, Repr

abbrev SessionId := ℕ

inductive Phase where
  | started
  | clockRead (moment : ℕ)
  | done
  deriving DecidableEq, Repr

/-- `user` is what the task was handed by `getUserById`, at the moment `delivered`. -/
structure LoginTask (U : Type) where
  user : U
  session : SessionId
  delivered : ℕ
  phase : Phase
  deriving DecidableEq, Repr

/-- `carried` is what was last written through the session's `UserModel`s. -/
structure Session (C : Type) where
  carried : C
  committed : Bool

structure State (U C : Type) where
  now : ℕ
  stored : C
  sessions : SessionId → Session C
  tasks : List (LoginTask U)

/-- The users the steps work on. `getUserById` gives nothing for an id that is none of this
machine's; what it gives may still be null. The rest is what a task with a clock reading writes
into what its session carries, and what a commit stores. -/
structure UserModels (U C : Type) where
  getUserById : String → Option U
  isNull : U → Bool
  setSingleAttribute : U → ℕ → C → C
  store : C → C → C

def eventsTypes : List EventType := [.LOGIN, .LOGIN_ERROR]

inductive Action where
  | tick (nanos : ℕ)
  | onEvent (i : SessionId) (event : Event)
  | readClock (k : ℕ)
  | writeAttribute (k : ℕ)
  | commit (i : SessionId)
  deriving DecidableEq, Repr

section

variable {U C : Type} (users : UserModels U C) (s : State U C)

def setUserLastLoginTime (i : SessionId) (event : Event) : State U C :=
  match event.userId.bind users.getUserById with
  | none => s
  | some user => { s with tasks := s.tasks ++ [⟨user, i, s.now, .started⟩] }

def onEvent (i : SessionId) (event : Event) : State U C :=
  if event.type ∈ eventsTypes ∧ event.type = .LOGIN then setUserLastLoginTime users s i event
  else s

/-- The task up to the clock; without a user it ends in an exception nobody sees. -/
def readClock (k : ℕ) : State U C :=
  match s.tasks[k]? with
  | none => s
  | some task =>
    { s with
      tasks := s.tasks.set k
        { task with phase := if users.isNull task.user then .done else .clockRead s.now } }

def writeThrough (i : SessionId) (write : C → C) : SessionId → Session C :=
  -- the transaction of the session is over, and the write goes nowhere
  if (s.sessions i).committed then s.sessions
  else Function.update s.sessions i { s.sessions i with carried := write (s.sessions i).carried }

def writeAttribute (k : ℕ) : State U C :=
  match s.tasks[k]? with
  | some ⟨user, i, delivered, .clockRead moment⟩ =>
    { s with
      tasks := s.tasks.set k ⟨user, i, delivered, .done⟩
      sessions := writeThrough s i (users.setSingleAttribute user moment) }
  | _ => s

def commit (i : SessionId) : State U C :=
  { s with
    stored := users.store (s.sessions i).carried s.stored
    sessions := Function.update s.sessions i { s.sessions i with committed := true } }

def Enabled : Action → Prop
  | .tick _ => True
  | .onEvent _ _ => True
  | .readClock k => ∃ task, s.tasks[k]? = some task ∧ task.phase = .started
  | .writeAttribute k => ∃ task moment, s.tasks[k]? = some task ∧ task.phase = .clockRead moment
  | .commit i => (s.sessions i).committed = false

def next : Action → State U C
  | .tick nanos => { s with now := s.now + nanos }
  | .onEvent i event => onEvent users s i event
  | .readClock k => readClock users s k
  | .writeAttribute k => writeAttribute users s k
  | .commit i => commit users s i

def system : Machine (State U C) Action := ⟨Enabled, next users⟩

/-! ## What a step changes -/

/-- The user a task is started for on the event. -/
def startsTask (event : Event) : Option U :=
  if event.type ∈ eventsTypes ∧ event.type = .LOGIN then event.userId.bind users.getUserById
  else none

theorem onEvent_eq (i : SessionId) (event : Event) : onEvent users s i event =
    { s with tasks := s.tasks ++
      (startsTask users event).toList.map fun user => ⟨user, i, s.now, .started⟩ } := by
  rw [onEvent, startsTask]
  split
  · rw [setUserLastLoginTime]
    cases event.userId.bind users.getUserById with
    | none => simp
    | some user => rfl
  · simp

@[simp] theorem writeThrough_committed (i j : SessionId) (write : C → C) :
    (writeThrough s i write j).committed = (s.sessions j).committed := by
  rw [writeThrough]
  split
  · rfl
  · by_cases hj : j = i
    · subst hj
      simp
    · simp [hj]

/-- A write goes to its session, if that is still open, or nowhere. -/
theorem writeThrough_carried (i j : SessionId) (write : C → C) :
    (writeThrough s i write j).carried =
      if j = i ∧ (s.sessions i).committed = false then write (s.sessions i).carried
      else (s.sessions j).carried := by
  rw [writeThrough]
  split
  next hc => simp [hc]
  next hc =>
    by_cases hj : j = i
    · subst hj
      simp [hc]
    · simp [hj]

@[simp] theorem commit_carried (i j : SessionId) :
    ((commit users s i).sessions j).carried = (s.sessions j).carried := by
  by_cases hj : j = i
  · subst hj
    simp [commit]
  · simp [commit, hj]

theorem commit_committed (i j : SessionId) :
    ((commit users s i).sessions j).committed = true ↔
      j = i ∨ (s.sessions j).committed = true := by
  by_cases hj : j = i
  · simp [commit, hj]
  · simp [commit, hj]

/-- The task as it was started. -/
def LoginTask.login (task : LoginTask U) : U × SessionId × ℕ :=
  (task.user, task.session, task.delivered)

/-- The LOGIN event that the action delivers, as a task is started for it. -/
def loginOf : Action → List (U × SessionId × ℕ)
  | .onEvent i event => (startsTask users event).toList.map fun user => (user, i, s.now)
  | .tick _ | .readClock _ | .writeAttribute _ | .commit _ => []

/-- A task is started for each LOGIN event, and stays in the list. -/
theorem next_login (a : Action) :
    (next users s a).tasks.map LoginTask.login =
      s.tasks.map LoginTask.login ++ loginOf users s a := by
  cases a with
  | onEvent i event =>
    simp only [next, onEvent_eq, loginOf, List.map_append, List.map_map]
    rfl
  | tick nanos => exact (List.append_nil _).symm
  | commit i => exact (List.append_nil _).symm
  | readClock k =>
    rw [next, readClock, loginOf, List.append_nil]
    split
    next => rfl
    next hk => exact map_set_same hk rfl
  | writeAttribute k =>
    rw [next, writeAttribute, loginOf, List.append_nil]
    split
    next hk => exact map_set_same hk rfl
    next => rfl

theorem next_now (a : Action) : s.now ≤ (next users s a).now := by
  cases a with
  | tick nanos => exact Nat.le_add_right s.now nanos
  | onEvent i event => rw [next, onEvent_eq]
  | commit i => exact le_rfl
  | readClock k =>
    rw [next, readClock]
    split <;> exact le_rfl
  | writeAttribute k =>
    rw [next, writeAttribute]
    split <;> exact le_rfl

theorem system_login (h0 : s.tasks = []) (as : List Action) :
    ((system users).run s as).tasks.map LoginTask.login =
      (system users).collect (loginOf users) s as := by
  have hrecord := Machine.record_run (M := system users) (r := fun s => s.tasks.map LoginTask.login)
    (next_login users) s as
  rwa [h0, List.map_nil, List.nil_append] at hrecord

end

/-! ## One user -/

/-- The tests of `onEvent` and `setUserLastLoginTime`, for the events of this user. -/
def StartsTask (user : String) (event : Event) : Prop :=
  event.type ∈ eventsTypes ∧ event.type = .LOGIN ∧ event.userId = some user

instance (user : String) (event : Event) : Decidable (StartsTask user event) :=
  inferInstanceAs (Decidable (_ ∧ _ ∧ _))

section

variable {V : Type} [DecidableEq V] (dtf : ℕ → V) (user : String)

/-- The share of one existing user, with the attribute's value or nothing in store. -/
def onlyUser : UserModels Unit (WithBot V) where
  getUserById id := if id = user then some () else none
  isNull _ := false
  setSingleAttribute _ moment _ := WithBot.some (dtf moment)
  store carried stored := if carried = ⊥ then stored else carried

theorem startsTask_onlyUser (event : Event) :
    startsTask (onlyUser dtf user) event = if StartsTask user event then some () else none := by
  obtain ⟨type, userId⟩ := event
  simp only [startsTask, StartsTask, onlyUser, ← and_assoc]
  by_cases htype : type ∈ eventsTypes ∧ type = .LOGIN
  · obtain ⟨hmem, rfl⟩ := htype
    cases userId with
    | none => simp
    | some id => simp [hmem]
  · simp [htype]

end

/-- No session has begun. -/
structure Begins {V : Type} (s : State Unit (WithBot V)) : Prop where
  sessions : ∀ i, s.sessions i = ⟨⊥, false⟩
  tasks : s.tasks = []

/-- All tasks are done and their sessions over. -/
def Quiescent {U C : Type} (s : State U C) : Prop :=
  ∀ task ∈ s.tasks, task.phase = .done ∧ (s.sessions task.session).committed = true

/-! ## Seconds -/

/-- The value of the attribute: the second it names, or nothing. -/
abbrev Stamp := WithBot ℕ

/-- The second of a moment in nanoseconds, which `dd/MM/yyyy HH:mm:ss` keeps. -/
def second (moment : ℕ) : ℕ := moment / 1000000000

def dtfFormat (moment : ℕ) : Stamp := WithBot.some (second moment)

abbrev UserState := State Unit Stamp

def machine (user : String) : Machine UserState Action := system (onlyUser second user)

/-- The value stored before does not lie in the future. -/
structure Initial (s : UserState) : Prop extends Begins s where
  stored : s.stored ≤ dtfFormat s.now

/-- Once everything is done the stored value is not older than any LOGIN event, the latest one
included. -/
def Kept (s : UserState) : Prop :=
  Quiescent s → ∀ task ∈ s.tasks, dtfFormat task.delivered ≤ s.stored

def NeitherLostNorBackwards (user : String) (s : UserState) (as : List Action) : Prop :=
  (machine user).Along
    (fun s a => s.stored ≤ (next (onlyUser second user) s a).stored ∧
      Kept (next (onlyUser second user) s a)) s as

end LastLogin
