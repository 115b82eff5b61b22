import KeycloakExtensions.LibraryRuns
import KeycloakExtensions.SessionLogout

/-! # Logins and logouts over a run

Sessions are opened by logins and closed by calls of the gateway, while users come and go. Which
sessions are open in the end is read off the run. -/
namespace SessionLogoutRuns

open KeycloakModel LibraryRuns SessionLogout

structure ServerState (D : Type) where
  users : UserProvider
  store : SessionStore D

inductive Action (D : Type) where
  | login (id : String) (session : UserSession D)
  | logoutUser (realm userId : String)
  | changeUsers (users : UserProvider)

variable {D : Type}

/-- A session gets an id that is not in use. -/
def Enabled (s : ServerState D) : Action D → Prop
  | .login id _ => id ∉ s.store
  | .logoutUser _ _ => True
  | .changeUsers _ => True

def next (s : ServerState D) : Action D → ServerState D
  | .login id session => { s with store := s.store.insert id session }
  | .logoutUser realm userId =>
    { s with store := (SessionLogout.logoutUser s.users realm userId s.store).2 }
  | .changeUsers users => { s with users := users }

def server (D : Type) : Machine (ServerState D) (Action D) := ⟨Enabled, next⟩

/-- A logout of the owner of the session, at a time when the owner is found. -/
def LogsOut (session : UserSession D) (s : ServerState D) (a : Action D) : Prop :=
  ∃ realm userId, a = .logoutUser realm userId ∧ Belongs realm userId session ∧
    ∃ user, s.users.getUserById realm userId = some user

def Opens (id : String) (session : UserSession D) (a : Action D) : Prop := a = .login id session

variable {s : ServerState D} {id : String} {session : UserSession D} {a : Action D}

theorem lookup_loggedOut_iff {realm userId : String} {store : SessionStore D} :
    loggedOut realm userId store id = some session ↔
      store.lookup id = some session ∧ ¬ Belongs realm userId session := by
  rw [loggedOut, Option.filter_eq_some_iff, decide_eq_true_eq]

theorem lookup_login {other : String} {new : UserSession D}
    (fresh : other ∉ s.store) :
    (s.store.insert other new).lookup id = some session ↔
      (other = id ∧ new = session) ∨ s.store.lookup id = some session := by
  by_cases hid : id = other
  · subst hid
    have hnone : s.store.lookup id = none := AList.lookup_eq_none.mpr fresh
    rw [AList.lookup_insert, hnone]
    simp
  · rw [AList.lookup_insert_ne hid]
    simp [Ne.symm hid]

theorem lookup_logout (realm userId : String) :
    (SessionLogout.logoutUser s.users realm userId s.store).2.lookup id = some session ↔
      s.store.lookup id = some session ∧ ¬ LogsOut session s (.logoutUser realm userId) := by
  cases hu : s.users.getUserById realm userId with
  | none =>
    rw [logoutUser_unresolved hu]
    refine (and_iff_left ?_).symm
    intro hcase
    rcases hcase with ⟨r, u, he, _, user, hfound⟩
    cases he
    rw [hu] at hfound
    cases hfound
  | some user =>
    rw [logoutUser_refines hu, lookup_loggedOut_iff]
    refine and_congr_right fun _ => not_congr ?_
    constructor
    · exact fun hb => ⟨realm, userId, rfl, hb, user, hu⟩
    · intro hcase
      rcases hcase with ⟨r, u, he, hb, _⟩
      cases he
      exact hb

/-- What one step does to one session. -/
theorem lookup_next (he : Enabled s a) : (next s a).store.lookup id = some session ↔
    Opens id session a ∨ s.store.lookup id = some session ∧ ¬ LogsOut session s a := by
  cases a with
  | login other new =>
    have hkeeps : ¬ LogsOut session s (.login other new) := by
      intro hcase
      rcases hcase with ⟨r, u, hx, _⟩
      cases hx
    simp only [next, Opens, hkeeps, not_false_iff, and_true, Action.login.injEq]
    exact lookup_login he
  | logoutUser realm userId =>
    have hopens : ¬ Opens id session (.logoutUser realm userId) := by
      intro hx
      cases hx
    rw [or_iff_right hopens]
    exact lookup_logout realm userId
  | changeUsers users =>
    have hopens : ¬ Opens id session (.changeUsers users) := by
      intro hx
      cases hx
    have hkeeps : ¬ LogsOut session s (.changeUsers users) := by
      intro hcase
      rcases hcase with ⟨r, u, hx, _⟩
      cases hx
    rw [or_iff_right hopens]
    exact (and_iff_left hkeeps).symm

/-- A session is open after a run exactly when it was open before or was opened in the run, and
its owner has not been logged out, while known, since then. Nothing else opens or closes it. -/
theorem open_session_iff (s : ServerState D) (as : List (Action D))
    (hv : (server D).Valid s as) (id : String) (session : UserSession D) :
    ((server D).run s as).store.lookup id = some session ↔
      (s.store.lookup id = some session ∧
        (server D).Along (fun t a => ¬ LogsOut session t a) s as) ∨
      ∃ before after, as = before ++ .login id session :: after ∧
        (server D).Along (fun t a => ¬ LogsOut session t a)
          ((server D).run s (before ++ [.login id session])) after := by
  have hsince := Machine.since_iff (M := server D)
    (X := fun s => s.store.lookup id = some session) (fun s a he => lookup_next he) hv
  rw [hsince]
  refine or_congr_right ?_
  constructor
  · intro hcase
    rcases hcase with ⟨before, a, after, hsplit, rfl, halong⟩
    refine ⟨before, after, hsplit, ?_⟩
    rwa [Machine.run_append]
  · intro hcase
    rcases hcase with ⟨before, after, hsplit, halong⟩
    rw [Machine.run_append] at halong
    exact ⟨before, _, after, hsplit, rfl, halong⟩

def onlyUser (user : UserModel) : UserProvider where
  getUserById _ userId := if userId = user.id then some user else none
  id_eq _ userId found h := by
    split at h
    next he =>
      cases h
      exact he.symm
    next => cases h

def joesSession : UserSession Unit := ⟨"realm", "u1", ()⟩

def loginAgain : List (Action Unit) :=
  [.login "s1" joesSession, .logoutUser "realm" "u1", .login "s2" joesSession]

theorem second_session_open :
    ((server Unit).run ⟨onlyUser joe, ∅⟩ loginAgain).store.lookup "s2" = some joesSession ↔
      ((∅ : SessionStore Unit).lookup "s2" = some joesSession ∧
        (server Unit).Along (fun t a => ¬ LogsOut joesSession t a) ⟨onlyUser joe, ∅⟩ loginAgain) ∨
      ∃ before after, loginAgain = before ++ .login "s2" joesSession :: after ∧
        (server Unit).Along (fun t a => ¬ LogsOut joesSession t a)
          ((server Unit).run ⟨onlyUser joe, ∅⟩ (before ++ [.login "s2" joesSession])) after := by
  refine open_session_iff ⟨onlyUser joe, ∅⟩ loginAgain ⟨?_, trivial, ?_, trivial⟩ "s2" joesSession
  · exact AList.notMem_empty "s1"
  · change "s2" ∉ _
    decide

end SessionLogoutRuns
