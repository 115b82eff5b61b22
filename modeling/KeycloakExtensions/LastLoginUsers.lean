import KeycloakExtensions.LastLogin

/-! # The last-login times of all users

The listener serves every user with the same tasks and the same sessions. What it does to one
user is a run of the machine of that user, made of the steps that concern the user: the other
logins, tasks and writes of the same sessions do not reach across. -/
namespace LastLoginUsers

open LibraryRuns LibraryOwnedList LastLogin

/-! ## Projections of the machine -/

section

variable {U U' C C' : Type}

/-- One machine is a part of another: `own` gives its users among those of the other, and `view`
what it sees of the values. -/
structure Projection (m : UserModels U C) (n : UserModels U' C') (own : U → Option U')
    (view : C → C') : Prop where
  getUserById : ∀ id, (m.getUserById id).bind own = n.getUserById id
  isNull : ∀ user user', own user = some user' → m.isNull user = n.isNull user'
  written : ∀ user user' moment carried, own user = some user' →
    view (m.setSingleAttribute user moment carried) =
      n.setSingleAttribute user' moment (view carried)
  foreign : ∀ user moment carried, own user = none →
    view (m.setSingleAttribute user moment carried) = view carried
  store : ∀ carried stored, view (m.store carried stored) = n.store (view carried) (view stored)

def ownTask (own : U → Option U') (task : LoginTask U) : Option (LoginTask U') :=
  (own task.user).map fun user => ⟨user, task.session, task.delivered, task.phase⟩

def project (own : U → Option U') (view : C → C') (s : State U C) : State U' C' where
  now := s.now
  stored := view s.stored
  sessions i := ⟨view (s.sessions i).carried, (s.sessions i).committed⟩
  tasks := s.tasks.filterMap (ownTask own)

/-- What a step is to the part: a login of one of its users, a step of one of its tasks at the
place among its tasks, time, a commit, or nothing. -/
def stepsOf (m : UserModels U C) (own : U → Option U') (s : State U C) : Action → List Action
  | .tick nanos => [.tick nanos]
  | .onEvent i event =>
    if ((startsTask m event).bind own).isSome then [.onEvent i event] else []
  | .readClock k =>
    if (s.tasks[k]?.bind (ownTask own)).isSome then
      [.readClock (position (ownTask own) s.tasks k)]
    else []
  | .writeAttribute k =>
    if (s.tasks[k]?.bind (ownTask own)).isSome then
      [.writeAttribute (position (ownTask own) s.tasks k)]
    else []
  | .commit i => [.commit i]

variable {m : UserModels U C} {n : UserModels U' C'} {own : U → Option U'} {view : C → C'}
  {s : State U C} {user : U} {user' : U'} {i : SessionId} {k delivered : ℕ} {phase : Phase}

theorem Projection.startsTask (p : Projection m n own view) (event : Event) :
    (startsTask m event).bind own = startsTask n event := by
  simp only [LastLogin.startsTask]
  split
  · cases event.userId with
    | none => rfl
    | some id => exact p.getUserById id
  · rfl

theorem onEvent_project (p : Projection m n own view) (i : SessionId) (event : Event) :
    project own view (onEvent m s i event) =
      (system n).run (project own view s) (stepsOf m own s (.onEvent i event)) := by
  have hstarts := p.startsTask event
  cases hn : startsTask n event with
  | none =>
    have hsteps : stepsOf m own s (.onEvent i event) = [] := by simp [stepsOf, hstarts, hn]
    have hnothing : ((startsTask m event).toList.map fun user =>
        (⟨user, i, s.now, .started⟩ : LoginTask U)).filterMap (ownTask own) = [] := by
      cases hm : startsTask m event with
      | none => rfl
      | some user =>
        rw [hm, hn] at hstarts
        have hforeign : own user = none := hstarts
        simp [ownTask, hforeign]
    rw [hsteps, onEvent_eq, project, List.filterMap_append, hnothing, List.append_nil]
    rfl
  | some user' =>
    rw [hn] at hstarts
    obtain ⟨user, hm, hown⟩ := Option.bind_eq_some_iff.mp hstarts
    have hsteps : stepsOf m own s (.onEvent i event) = [.onEvent i event] := by
      simp [stepsOf, hstarts]
    have hrun : (system n).run (project own view s) [.onEvent i event] =
        onEvent n (project own view s) i event := rfl
    rw [hsteps, hrun, onEvent_eq, onEvent_eq, hm, hn]
    simp [project, ownTask, hown]

theorem ownTask_some (hown : own user = some user') (i : SessionId) (delivered : ℕ)
    (phase : Phase) :
    ownTask own ⟨user, i, delivered, phase⟩ = some ⟨user', i, delivered, phase⟩ := by
  simp [ownTask, hown]

theorem ownTask_none (hown : own user = none) (i : SessionId) (delivered : ℕ) (phase : Phase) :
    ownTask own ⟨user, i, delivered, phase⟩ = none := by
  simp [ownTask, hown]

theorem place_owned (hk : s.tasks[k]? = some ⟨user, i, delivered, phase⟩)
    (hown : own user = some user') :
    (project own view s).tasks[position (ownTask own) s.tasks k]? =
      some ⟨user', i, delivered, phase⟩ :=
  getElem?_owned hk (ownTask_some hown i delivered phase)

/-- The steps of a task are those of the part, if the part owns it. -/
theorem stepsOf_owned (hk : s.tasks[k]? = some ⟨user, i, delivered, phase⟩)
    (hown : own user = some user') :
    stepsOf m own s (.readClock k) = [.readClock (position (ownTask own) s.tasks k)] ∧
    stepsOf m own s (.writeAttribute k) =
      [.writeAttribute (position (ownTask own) s.tasks k)] := by
  simp [stepsOf, hk, ownTask_some hown]

theorem stepsOf_foreign (hk : s.tasks[k]? = some ⟨user, i, delivered, phase⟩)
    (hown : own user = none) :
    stepsOf m own s (.readClock k) = [] ∧ stepsOf m own s (.writeAttribute k) = [] := by
  simp [stepsOf, hk, ownTask_none hown]

theorem readClock_project (p : Projection m n own view) (k : ℕ) :
    project own view (readClock m s k) =
      (system n).run (project own view s) (stepsOf m own s (.readClock k)) := by
  cases hk : s.tasks[k]? with
  | none =>
    have hsteps : stepsOf m own s (.readClock k) = [] := by simp [stepsOf, hk]
    rw [hsteps, readClock, hk]
    rfl
  | some task =>
    obtain ⟨user, i, delivered, phase⟩ := task
    cases hown : own user with
    | none =>
      rw [(stepsOf_foreign hk hown).1, readClock, hk, project]
      simp only [filterMap_set_foreign hk (ownTask_none hown _ _ _) (ownTask_none hown _ _ _)]
      rfl
    | some user' =>
      have hrun : (system n).run (project own view s)
          [.readClock (position (ownTask own) s.tasks k)] =
            readClock n (project own view s) (position (ownTask own) s.tasks k) := rfl
      rw [(stepsOf_owned hk hown).1, hrun, readClock, hk, readClock, place_owned hk hown]
      simp only [project, p.isNull _ _ hown,
        filterMap_set_owned hk (ownTask_some hown _ _ _) (ownTask_some hown _ _ _)]

/-- A write through the session, seen by the part it belongs to and by any other. -/
theorem writeThrough_project (own : U → Option U') (s : State U C) (i j : SessionId)
    {write : C → C} {write' : C' → C'}
    (hw : ∀ carried, view (write carried) = write' (view carried)) :
    (⟨view (writeThrough s i write j).carried, (writeThrough s i write j).committed⟩ :
      Session C') = writeThrough (project own view s) i write' j := by
  simp only [writeThrough, project]
  by_cases hcommitted : (s.sessions i).committed = true
  · simp [hcommitted]
  · by_cases hj : j = i
    · subst hj
      simp [hcommitted, hw]
    · simp [hcommitted, hj]

theorem writeThrough_id (s : State U C) (i : SessionId) : writeThrough s i id = s.sessions := by
  rw [writeThrough]
  split
  · rfl
  · exact Function.update_eq_self i s.sessions

theorem writeAttribute_project (p : Projection m n own view) (k : ℕ) :
    project own view (writeAttribute m s k) =
      (system n).run (project own view s) (stepsOf m own s (.writeAttribute k)) := by
  cases hk : s.tasks[k]? with
  | none =>
    have hsteps : stepsOf m own s (.writeAttribute k) = [] := by simp [stepsOf, hk]
    rw [hsteps, writeAttribute, hk]
    rfl
  | some task =>
    obtain ⟨user, i, delivered, phase⟩ := task
    cases hown : own user with
    | none =>
      rw [(stepsOf_foreign hk hown).2, writeAttribute, hk]
      cases phase with
      | started => rfl
      | done => rfl
      | clockRead moment =>
        have hset := filterMap_set_foreign hk (ownTask_none hown i delivered (.clockRead moment))
          (ownTask_none hown i delivered .done)
        have hview (carried : C) : view (m.setSingleAttribute user moment carried) =
            id (view carried) := p.foreign user moment carried hown
        have hsessions := funext fun j => writeThrough_project own s i j hview
        rw [writeThrough_id] at hsessions
        simp only [project] at hsessions
        simp only [project, hset, hsessions]
        rfl
    | some user' =>
      have hrun : (system n).run (project own view s)
          [.writeAttribute (position (ownTask own) s.tasks k)] =
            writeAttribute n (project own view s) (position (ownTask own) s.tasks k) := rfl
      rw [(stepsOf_owned hk hown).2, hrun, writeAttribute, hk, writeAttribute,
        place_owned hk hown]
      cases phase with
      | started => rfl
      | done => rfl
      | clockRead moment =>
        have hset := filterMap_set_owned hk (ownTask_some hown i delivered (.clockRead moment))
          (ownTask_some hown i delivered .done)
        have hview (carried : C) : view (m.setSingleAttribute user moment carried) =
            n.setSingleAttribute user' moment (view carried) :=
          p.written user user' moment carried hown
        have hsessions := funext fun j => writeThrough_project own s i j hview
        simp only [project] at hsessions
        simp only [project, hset, hsessions]

theorem commit_project (p : Projection m n own view) (i : SessionId) :
    project own view (commit m s i) =
      (system n).run (project own view s) (stepsOf m own s (.commit i)) := by
  have hsessions (j : SessionId) :
      (⟨view ((commit m s i).sessions j).carried, ((commit m s i).sessions j).committed⟩ :
        Session C') = (commit n (project own view s) i).sessions j := by
    by_cases hj : j = i
    · subst hj
      simp [commit, project]
    · simp [commit, project, hj]
  have hrun : (system n).run (project own view s) (stepsOf m own s (.commit i)) =
      commit n (project own view s) i := rfl
  rw [hrun, project]
  simp only [hsessions]
  simp only [commit, project, p.store]

theorem next_project (p : Projection m n own view) (a : Action) :
    project own view (next m s a) =
      (system n).run (project own view s) (stepsOf m own s a) := by
  cases a with
  | tick nanos => rfl
  | onEvent i event => exact onEvent_project p i event
  | readClock k => exact readClock_project p k
  | writeAttribute k => exact writeAttribute_project p k
  | commit i => exact commit_project p i

theorem ownTask_total : ownTask (some : U → Option U) = some := rfl

/-- A part that owns all users takes the same steps. -/
theorem next_of_total {n : UserModels U C'} (p : Projection m n some view) (s : State U C)
    (a : Action) : next n (project some view s) a = project some view (next m s a) := by
  have htasks : (project some view s).tasks = s.tasks := by simp [project, ownTask_total]
  rw [next_project p a]
  cases a with
  | tick nanos => rfl
  | onEvent i event =>
    have hstarts := p.startsTask event
    cases hn : startsTask n event with
    | none =>
      have hsteps : stepsOf m some s (.onEvent i event) = [] := by simp [stepsOf, hstarts, hn]
      rw [hsteps, next, onEvent_eq, hn]
      simp [Machine.run]
    | some user =>
      have hsteps : stepsOf m some s (.onEvent i event) = [.onEvent i event] := by
        simp [stepsOf, hstarts, hn]
      rw [hsteps]
      rfl
  | readClock k =>
    cases hk : s.tasks[k]? with
    | none =>
      have hsteps : stepsOf m some s (.readClock k) = [] := by simp [stepsOf, hk]
      rw [hsteps, next, readClock, htasks, hk]
      rfl
    | some task =>
      rw [(stepsOf_owned hk rfl).1, ownTask_total, position_total hk]
      rfl
  | writeAttribute k =>
    cases hk : s.tasks[k]? with
    | none =>
      have hsteps : stepsOf m some s (.writeAttribute k) = [] := by simp [stepsOf, hk]
      rw [hsteps, next, writeAttribute, htasks, hk]
      rfl
    | some task =>
      rw [(stepsOf_owned hk rfl).2, ownTask_total, position_total hk]
      rfl
  | commit i => rfl

theorem steps_valid (m : UserModels U C) (n : UserModels U' C') (view : C → C') (a : Action)
    (enabled : Enabled s a) : (system n).Valid (project own view s) (stepsOf m own s a) := by
  cases a with
  | tick nanos => exact ⟨trivial, trivial⟩
  | onEvent i event =>
    simp only [stepsOf]
    split
    · exact ⟨trivial, trivial⟩
    · trivial
  | readClock k =>
    obtain ⟨⟨user, i, delivered, phase⟩, hk, hphase⟩ := enabled
    cases hown : own user with
    | none =>
      rw [(stepsOf_foreign hk hown).1]
      trivial
    | some user' =>
      rw [(stepsOf_owned hk hown).1]
      exact ⟨⟨_, place_owned hk hown, hphase⟩, trivial⟩
  | writeAttribute k =>
    obtain ⟨⟨user, i, delivered, phase⟩, moment, hk, hphase⟩ := enabled
    cases hown : own user with
    | none =>
      rw [(stepsOf_foreign hk hown).2]
      trivial
    | some user' =>
      rw [(stepsOf_owned hk hown).2]
      exact ⟨⟨_, moment, place_owned hk hown, hphase⟩, trivial⟩
  | commit i => exact ⟨enabled, trivial⟩

theorem run_project (p : Projection m n own view) {as : List Action}
    (valid : (system m).Valid s as) :
    (system n).Valid (project own view s) ((system m).collect (stepsOf m own) s as) ∧
      project own view ((system m).run s as) =
        (system n).run (project own view s) ((system m).collect (stepsOf m own) s as) := by
  refine Machine.run_projects (R := fun s t => project own view s = t) ?_ rfl valid
  rintro s t a rfl enabled
  exact ⟨steps_valid m n view a enabled, next_project p a⟩

end

/-! ## One user's share -/

variable {V : Type} [DecidableEq V]

/-- Whether the realm has a user of the id. -/
abbrev Users := String → Bool

/-- The users of the realm. A task holds the user it was started for, null where the realm has
none of that id; a session carries what it has written for each user. -/
def allUsers (dtf : ℕ → V) (getUserById : Users) :
    UserModels (Option String) (String → WithBot V) where
  getUserById id := some (if getUserById id then some id else none)
  isNull user := user.isNone
  setSingleAttribute
    | none, _, carried => carried
    | some user, moment, carried => Function.update carried user (WithBot.some (dtf moment))
  store carried stored := fun user => if carried user = ⊥ then stored user else carried user

abbrev ListenerState (V : Type) := State (Option String) (String → WithBot V)

def listener (dtf : ℕ → V) (getUserById : Users) : Machine (ListenerState V) Action :=
  system (allUsers dtf getUserById)

def own (user : String) (holder : Option String) : Option Unit :=
  if holder = some user then some () else none

def projectUser (user : String) (s : ListenerState V) : State Unit (WithBot V) :=
  project (own user) (fun values => values user) s

/-- The steps of the listener that concern the user. -/
def stepsOfUser (dtf : ℕ → V) (getUserById : Users) (user : String) :
    ListenerState V → Action → List Action := stepsOf (allUsers dtf getUserById) (own user)

theorem own_some {user : String} {holder : Option String} {u : Unit}
    (h : own user holder = some u) : holder = some user := by
  rw [own] at h
  split at h
  next hu => exact hu
  next => cases h

theorem user_projection (dtf : ℕ → V) {getUserById : Users} {user : String}
    (known : getUserById user = true) :
    Projection (allUsers dtf getUserById) (onlyUser dtf user) (own user)
      (fun values => values user) where
  getUserById id := by
    by_cases hid : id = user
    · subst hid
      simp [allUsers, onlyUser, own, known]
    · by_cases hknown : getUserById id = true
      · simp [allUsers, onlyUser, own, hknown, hid]
      · simp [allUsers, onlyUser, own, hknown, hid]
  isNull holder _ h := by
    rw [own_some h]
    rfl
  written holder _ moment carried h := by
    rw [own_some h]
    exact Function.update_self ..
  foreign holder moment carried h := by
    cases holder with
    | none => rfl
    | some writer =>
      have hne : user ≠ writer := by
        rintro rfl
        simp [own] at h
      exact Function.update_of_ne hne ..
  store _ _ := rfl

/-- What any run of the listener does to a user is a run of the machine of that user: the steps
that concern the user, in their order. -/
theorem listener_refines_user (dtf : ℕ → V) (getUserById : Users) (user : String)
    (known : getUserById user = true) (s : ListenerState V) (as : List Action)
    (valid : (listener dtf getUserById).Valid s as) :
    (system (onlyUser dtf user)).Valid (projectUser user s)
        ((listener dtf getUserById).collect (stepsOfUser dtf getUserById user) s as) ∧
      projectUser user ((listener dtf getUserById).run s as) =
        (system (onlyUser dtf user)).run (projectUser user s)
          ((listener dtf getUserById).collect (stepsOfUser dtf getUserById user) s as) :=
  run_project (user_projection dtf known) valid

def idle : ListenerState ℕ := ⟨0, fun _ => ⊥, fun _ => ⟨fun _ => ⊥, false⟩, []⟩

/-- Two users log in through one session and their tasks cross. -/
def crossedUsers : List Action :=
  [.onEvent 0 ⟨.LOGIN, some "u2"⟩, .onEvent 0 ⟨.LOGIN, some "u1"⟩, .readClock 1,
    .tick 5000000000, .readClock 0, .writeAttribute 0, .writeAttribute 1, .commit 0]

theorem crossed_users_projected :
    projectUser "u1" ((listener second fun _ => true).run idle crossedUsers) =
      (machine "u1").run (projectUser "u1" idle)
        [.onEvent 0 ⟨.LOGIN, some "u1"⟩, .readClock 0, .tick 5000000000, .writeAttribute 0,
          .commit 0] := by
  have valid : (listener second fun _ => true).Valid idle crossedUsers :=
    ⟨trivial, trivial, ⟨_, rfl, rfl⟩, trivial, ⟨_, rfl, rfl⟩, ⟨_, _, rfl, rfl⟩, ⟨_, _, rfl, rfl⟩,
      rfl, trivial⟩
  exact (listener_refines_user second (fun _ => true) "u1" rfl idle crossedUsers valid).2

end LastLoginUsers
