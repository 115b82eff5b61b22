import KeycloakExtensions.KeycloakModel

/-! # Logout on request of the gateway

The store holds the online user sessions by session id. The abstract logout takes out every
session of one user in one realm; the code does that only where it finds the user. -/
namespace SessionLogout

open KeycloakModel

/-- `data` is the rest of a session, which the code does not read. -/
structure UserSession (D : Type) where
  realmId : String
  userId : String
  data : D
  deriving DecidableEq, Repr

abbrev SessionStore (D : Type) := AList fun _ : String => UserSession D

structure Response where
  status : ℕ
  entity : List (String × String)
  deriving DecidableEq, Repr

/-- `users()`: an id may be unknown or impossible to resolve; a user that is found has the id. -/
structure UserProvider where
  getUserById : String → String → Option UserModel
  id_eq : ∀ realm userId user, getUserById realm userId = some user → user.id = userId

variable {D : Type}

def getUserSessionsStream (store : SessionStore D) (realm : String) (user : UserModel) :
    List String :=
  (store.entries.filter fun entry =>
    entry.2.realmId = realm ∧ entry.2.userId = user.id).map Sigma.fst

def backchannelLogout (store : SessionStore D) (userSession : String) : SessionStore D :=
  store.erase userSession

def logoutUser (users : UserProvider) (realm : String) (userId : String)
    (store : SessionStore D) : Response × SessionStore D :=
  let store' := match users.getUserById realm userId with
    | some user => (getUserSessionsStream store realm user).foldl backchannelLogout store
    | none => store
  (⟨200, [(userId, "User logout edildi")]⟩, store')

def Belongs (realm userId : String) (session : UserSession D) : Prop :=
  session.realmId = realm ∧ session.userId = userId

instance (realm userId : String) (session : UserSession D) :
    Decidable (Belongs realm userId session) :=
  inferInstanceAs (Decidable (_ ∧ _))

/-- The abstract logout: the store as a partial map without the sessions of the user. -/
def loggedOut (realm userId : String) (store : SessionStore D) (id : String) :
    Option (UserSession D) :=
  (store.lookup id).filter fun session => ¬ Belongs realm userId session

def RealLogout (realm userId : String) (store : SessionStore D)
    (result : Response × SessionStore D) : Prop :=
  result.1.status = 200 →
    (∀ id session, result.2.lookup id = some session → ¬ Belongs realm userId session) ∧
    ∀ id session, ¬ Belongs realm userId session →
      (result.2.lookup id = some session ↔ store.lookup id = some session)

theorem lookup_foldl_logout (ids : List String) (store : SessionStore D) (id : String) :
    (ids.foldl backchannelLogout store).lookup id =
      if id ∈ ids then none else store.lookup id := by
  induction ids generalizing store with
  | nil => simp
  | cons first ids ih =>
    rw [List.foldl_cons, ih]
    by_cases hid : id = first
    · subst hid
      simp [backchannelLogout]
    · have hkept : (backchannelLogout store first).lookup id = store.lookup id :=
        AList.lookup_erase_ne hid
      simp [hkept, hid]

theorem mem_getUserSessionsStream {store : SessionStore D} {realm id : String}
    {user : UserModel} :
    id ∈ getUserSessionsStream store realm user ↔
      ∃ session, store.lookup id = some session ∧ Belongs realm user.id session := by
  constructor
  · intro h
    obtain ⟨⟨id', session⟩, he, rfl⟩ := List.mem_map.mp h
    obtain ⟨hmem, hb⟩ := List.mem_filter.mp he
    exact ⟨session, AList.mem_lookup_iff.mpr hmem, of_decide_eq_true hb⟩
  · rintro ⟨session, hl, hb⟩
    refine List.mem_map.mpr ⟨⟨id, session⟩, List.mem_filter.mpr ⟨?_, decide_eq_true hb⟩, rfl⟩
    exact AList.mem_lookup_iff.mp hl

theorem logoutUser_refines {users : UserProvider} {realm userId : String} {user : UserModel}
    (hu : users.getUserById realm userId = some user) (store : SessionStore D) (id : String) :
    (logoutUser users realm userId store).2.lookup id = loggedOut realm userId store id := by
  have hid := users.id_eq realm userId user hu
  subst hid
  simp only [logoutUser, hu, lookup_foldl_logout, mem_getUserSessionsStream, loggedOut]
  cases hl : store.lookup id with
  | none => simp
  | some session =>
    by_cases hb : Belongs realm user.id session
    · simp [Option.filter, hb]
    · simp [Option.filter, hb]

theorem logoutUser_unresolved {users : UserProvider} {realm userId : String}
    (hu : users.getUserById realm userId = none) (store : SessionStore D) :
    (logoutUser users realm userId store).2 = store := by
  simp [logoutUser, hu]

theorem real_of_refines {realm userId : String} {store : SessionStore D}
    {result : Response × SessionStore D}
    (h : ∀ id, result.2.lookup id = loggedOut realm userId store id) :
    RealLogout realm userId store result := by
  intro _
  refine ⟨?_, ?_⟩
  · intro id session hl
    rw [h] at hl
    simpa using (Option.filter_eq_some_iff.mp hl).2
  · intro id session hb
    rw [h]
    constructor
    · intro hl
      exact (Option.filter_eq_some_iff.mp hl).1
    · intro hl
      exact Option.filter_eq_some_iff.mpr ⟨hl, by simpa using hb⟩

/-- The answer is true of the store exactly when the user is found or has no session. -/
theorem real_logout_iff (users : UserProvider) (realm userId : String) (store : SessionStore D) :
    RealLogout realm userId store (logoutUser users realm userId store) ↔
      (∃ user, users.getUserById realm userId = some user) ∨
      ∀ id session, store.lookup id = some session → ¬ Belongs realm userId session := by
  cases hu : users.getUserById realm userId with
  | some user =>
    have hreal := real_of_refines (logoutUser_refines hu store)
    exact iff_of_true hreal (Or.inl ⟨user, rfl⟩)
  | none =>
    have hsame := logoutUser_unresolved hu store
    constructor
    · intro h
      have hnone := (h rfl).1
      rw [hsame] at hnone
      exact Or.inr hnone
    · intro h _
      have hnone := h.resolve_left (by simp)
      rw [hsame]
      exact ⟨hnone, fun _ _ _ => Iff.rfl⟩

def nobody : UserProvider := ⟨fun _ _ => none, by simp⟩

def orphaned : SessionStore Unit := [⟨"s1", ⟨"realm", "u1", ()⟩⟩].toAList

theorem unresolved_user_stays_online :
    ¬ RealLogout "realm" "u1" orphaned (logoutUser nobody "realm" "u1" orphaned) := by
  intro h
  exact (h rfl).1 "s1" ⟨"realm", "u1", ()⟩ rfl ⟨rfl, rfl⟩

end SessionLogout
