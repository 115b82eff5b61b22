import KeycloakExtensions.SessionLogoutRuns

/-! # A logout that others interrupt

`forEach` closes the sessions of the stream one by one, while other requests open and close
sessions. What was open when the call looked the user up is yielded; a session opened later may
or may not be. Calls may overlap, also for one user. -/
namespace SessionLogoutInterleaved

open KeycloakModel LibraryRuns SessionLogout SessionLogoutRuns

/-- A call of `logoutUser`: `due` is what its stream still has to yield. -/
structure Call where
  realm : String
  user : Option UserModel
  due : List String
  answered : Bool

/-- `opened` is a ghost: the sessions that were ever open, by their ids. -/
structure State (D : Type) where
  users : UserProvider
  store : SessionStore D
  calls : List Call
  opened : List (String × UserSession D)

inductive Action (D : Type) where
  | login (id : String) (session : UserSession D)
  | changeUsers (users : UserProvider)
  | logoutUser (realm userId : String)
  | backchannelLogout (k : ℕ) (id : String)
  | answer (k : ℕ)

variable {D : Type}

def Call.Owns (call : Call) (session : UserSession D) : Prop :=
  ∃ user, call.user = some user ∧ Belongs call.realm user.id session

def startCall (s : State D) (realm userId : String) : Call where
  realm := realm
  user := s.users.getUserById realm userId
  due :=
    match s.users.getUserById realm userId with
    | some user => getUserSessionsStream s.store realm user
    | none => []
  answered := false

def Enabled (s : State D) : Action D → Prop
  | .login id _ => id ∉ s.opened.map Prod.fst
  | .changeUsers _ => True
  | .logoutUser _ _ => True
  | .backchannelLogout k id => ∃ call, s.calls[k]? = some call ∧ call.answered = false ∧
      (id ∈ call.due ∨ ∃ session, s.store.lookup id = some session ∧ call.Owns session)
  | .answer k => ∃ call, s.calls[k]? = some call ∧ call.answered = false ∧ call.due = []

def next (s : State D) : Action D → State D
  | .login id session =>
    { s with store := s.store.insert id session, opened := s.opened ++ [(id, session)] }
  | .changeUsers users => { s with users := users }
  | .logoutUser realm userId => { s with calls := s.calls ++ [startCall s realm userId] }
  | .backchannelLogout k id =>
    { s with
      store := SessionLogout.backchannelLogout s.store id
      calls := s.calls.modify k fun call => { call with due := call.due.filter (· ≠ id) } }
  | .answer k => { s with calls := s.calls.modify k fun call => { call with answered := true } }

def system (D : Type) : Machine (State D) (Action D) := ⟨Enabled, next⟩

def initial (users : UserProvider) : State D := ⟨users, ∅, [], []⟩

/-! ## What holds in every reachable state -/

structure Inv (s : State D) : Prop where
  ids : (s.opened.map Prod.fst).Nodup
  store : ∀ id session, s.store.lookup id = some session → (id, session) ∈ s.opened
  due : ∀ call ∈ s.calls, ∀ id ∈ call.due, ∃ session, (id, session) ∈ s.opened ∧ call.Owns session
  closed : ∀ id session, (id, session) ∈ s.opened →
    s.store.lookup id = some session ∨ ∃ call ∈ s.calls, call.Owns session

theorem initial_inv (users : UserProvider) : Inv (initial users : State D) := by
  refine ⟨List.nodup_nil, ?_, ?_, ?_⟩ <;> simp [initial]

variable {s : State D} {a : Action D} {id : String} {session : UserSession D}

theorem Inv.unique (h : Inv s) {session' : UserSession D} (hs : (id, session) ∈ s.opened)
    (hs' : (id, session') ∈ s.opened) : session = session' :=
  (Prod.ext_iff.mp (List.inj_on_of_nodup_map h.ids hs hs' rfl)).2

theorem startCall_owns {realm userId : String} (hid : id ∈ (startCall s realm userId).due) :
    ∃ session, s.store.lookup id = some session ∧ (startCall s realm userId).Owns session := by
  cases hu : s.users.getUserById realm userId with
  | none => simp [startCall, hu] at hid
  | some user =>
    simp only [startCall, hu] at hid
    obtain ⟨session, hl, hb⟩ := mem_getUserSessionsStream.mp hid
    exact ⟨session, hl, user, hu, hb⟩

theorem mem_of_modify {calls : List Call} {k : ℕ} {f : Call → Call} {call : Call}
    (h : call ∈ calls.modify k f) : ∃ old ∈ calls, call = f old ∨ call = old := by
  obtain ⟨i, hi⟩ := List.mem_iff_getElem?.mp h
  by_cases hk : k = i
  · subst hk
    rw [List.getElem?_modify_eq] at hi
    obtain ⟨old, hold, rfl⟩ := Option.map_eq_some_iff.mp hi
    exact ⟨old, List.mem_of_getElem? hold, Or.inl rfl⟩
  · rw [List.getElem?_modify_ne _ _ hk] at hi
    exact ⟨call, List.mem_of_getElem? hi, Or.inr rfl⟩

theorem mem_modify_of {calls : List Call} (k : ℕ) (f : Call → Call) {call : Call}
    (h : call ∈ calls) : ∃ new ∈ calls.modify k f, new = f call ∨ new = call := by
  obtain ⟨i, hi⟩ := List.mem_iff_getElem?.mp h
  by_cases hk : k = i
  · subst hk
    refine ⟨f call, List.mem_of_getElem? (i := k) ?_, Or.inl rfl⟩
    rw [List.getElem?_modify_eq, hi]
    rfl
  · refine ⟨call, List.mem_of_getElem? (i := i) ?_, Or.inr rfl⟩
    rw [List.getElem?_modify_ne _ _ hk, hi]

/-- A change of one call that keeps whose call it is keeps what the calls own. -/
theorem owned_modify {calls : List Call} (k : ℕ) {f : Call → Call}
    (hrealm : ∀ call, (f call).realm = call.realm) (huser : ∀ call, (f call).user = call.user)
    (h : ∃ call ∈ calls, call.Owns session) : ∃ call ∈ calls.modify k f, call.Owns session := by
  obtain ⟨call, hc, user, hu, hb⟩ := h
  obtain ⟨new, hn, he⟩ := mem_modify_of k f hc
  refine ⟨new, hn, user, ?_, ?_⟩
  · rcases he with rfl | rfl
    · rw [huser, hu]
    · exact hu
  · rcases he with rfl | rfl
    · rwa [hrealm]
    · exact hb

theorem login_inv (h : Inv s) (fresh : id ∉ s.opened.map Prod.fst) (session : UserSession D) :
    Inv (next s (.login id session)) := by
  have hnew : s.store.lookup id = none := by
    by_contra hn
    obtain ⟨old, hold⟩ := Option.ne_none_iff_exists'.mp hn
    exact fresh (List.mem_map.mpr ⟨_, h.store id old hold, rfl⟩)
  have hfresh : id ∉ s.store := AList.lookup_eq_none.mp hnew
  refine ⟨?_, ?_, ?_, ?_⟩
  · simp only [next, List.map_append, List.map_cons, List.map_nil]
    exact List.Nodup.append h.ids (List.nodup_singleton _) (List.disjoint_singleton.mpr fresh)
  · intro other old hl
    rcases (lookup_login (s := ⟨s.users, s.store⟩) hfresh).mp hl with ⟨rfl, rfl⟩ | hold
    · simp [next]
    · exact List.mem_append_left _ (h.store other old hold)
  · intro call hc other hd
    obtain ⟨old, hold, howns⟩ := h.due call hc other hd
    exact ⟨old, List.mem_append_left _ hold, howns⟩
  · intro other old hm
    rcases List.mem_append.mp hm with hm | hm
    · refine (h.closed other old hm).imp_left fun hl => ?_
      exact (lookup_login (s := ⟨s.users, s.store⟩) hfresh).mpr (Or.inr hl)
    · cases List.mem_singleton.mp hm
      exact Or.inl (AList.lookup_insert s.store)

theorem logoutUser_inv (h : Inv s) (realm userId : String) :
    Inv (next s (.logoutUser realm userId)) := by
  refine ⟨h.ids, h.store, ?_, ?_⟩
  · intro call hc id hd
    rcases List.mem_append.mp hc with hc | hc
    · exact h.due call hc id hd
    · cases List.mem_singleton.mp hc
      obtain ⟨session, hl, howns⟩ := startCall_owns hd
      exact ⟨session, h.store id session hl, howns⟩
  · intro id session hm
    refine (h.closed id session hm).imp_right ?_
    intro hcase
    rcases hcase with ⟨call, hc, howns⟩
    exact ⟨call, List.mem_append_left _ hc, howns⟩

/-- The session a call closes is its user's. -/
theorem closed_is_owned (h : Inv s) {k : ℕ} (he : Enabled s (.backchannelLogout k id))
    (hs : (id, session) ∈ s.opened) : ∃ call ∈ s.calls, call.Owns session := by
  obtain ⟨call, hk, _, hd | ⟨session', hl, howns⟩⟩ := he
  · have hc := List.mem_of_getElem? hk
    obtain ⟨session', hs', howns⟩ := h.due call hc id hd
    exact ⟨call, hc, h.unique hs hs' ▸ howns⟩
  · exact ⟨call, List.mem_of_getElem? hk, h.unique hs (h.store id session' hl) ▸ howns⟩

theorem backchannelLogout_inv (h : Inv s) {k : ℕ} (he : Enabled s (.backchannelLogout k id)) :
    Inv (next s (.backchannelLogout k id)) := by
  refine ⟨h.ids, ?_, ?_, ?_⟩
  · intro other old hl
    by_cases ho : other = id
    · subst ho
      simp [next, SessionLogout.backchannelLogout] at hl
    · rw [next, SessionLogout.backchannelLogout, AList.lookup_erase_ne ho] at hl
      exact h.store other old hl
  · intro call hc other hd
    obtain ⟨old, hold, rfl | rfl⟩ := mem_of_modify hc
    · exact h.due old hold other (List.mem_filter.mp hd).1
    · exact h.due call hold other hd
  · intro other old hm
    by_cases ho : other = id
    · subst ho
      exact Or.inr (owned_modify k (fun _ => rfl) (fun _ => rfl) (closed_is_owned h he hm))
    · rcases h.closed other old hm with hl | howned
      · refine Or.inl ?_
        rw [next, SessionLogout.backchannelLogout, AList.lookup_erase_ne ho]
        exact hl
      · exact Or.inr (owned_modify k (fun _ => rfl) (fun _ => rfl) howned)

theorem answer_inv (h : Inv s) (k : ℕ) : Inv (next s (.answer k)) := by
  refine ⟨h.ids, h.store, ?_, ?_⟩
  · intro call hc id hd
    obtain ⟨old, hold, rfl | rfl⟩ := mem_of_modify hc
    · exact h.due old hold id hd
    · exact h.due call hold id hd
  · intro id session hm
    refine (h.closed id session hm).imp_right ?_
    exact owned_modify k (fun _ => rfl) (fun _ => rfl)

theorem step_inv (h : Inv s) (he : Enabled s a) : Inv (next s a) := by
  cases a with
  | login id session => exact login_inv h he session
  | changeUsers users => exact ⟨h.ids, h.store, h.due, h.closed⟩
  | logoutUser realm userId => exact logoutUser_inv h realm userId
  | backchannelLogout k id => exact backchannelLogout_inv h he
  | answer k => exact answer_inv h k

theorem reachable_inv {users : UserProvider} {as : List (Action D)}
    (hv : (system D).Valid (initial users) as) : Inv ((system D).run (initial users) as) :=
  Machine.valid_invariant (I := Inv) (fun _ _ h he => step_inv h he) (initial_inv users) hv

/-! ## What a run closes -/

def Starts (session : UserSession D) (s : State D) (a : Action D) : Prop :=
  ∃ realm userId, a = .logoutUser realm userId ∧ (startCall s realm userId).Owns session

theorem owned_next (s : State D) (a : Action D) :
    (∃ call ∈ (next s a).calls, call.Owns session) ↔
      Starts session s a ∨ (∃ call ∈ s.calls, call.Owns session) ∧ True := by
  have other (hs : ¬ Starts session s a) (hcalls : (∃ call ∈ (next s a).calls,
      call.Owns session) ↔ ∃ call ∈ s.calls, call.Owns session) :
      (∃ call ∈ (next s a).calls, call.Owns session) ↔
        Starts session s a ∨ (∃ call ∈ s.calls, call.Owns session) ∧ True := by
    rw [hcalls, or_iff_right hs, and_true]
  have modified {k : ℕ} {f : Call → Call} (hrealm : ∀ call, (f call).realm = call.realm)
      (huser : ∀ call, (f call).user = call.user) :
      (∃ call ∈ s.calls.modify k f, call.Owns session) ↔ ∃ call ∈ s.calls, call.Owns session := by
    refine ⟨?_, owned_modify k hrealm huser⟩
    intro hcase
    rcases hcase with ⟨call, hc, user, hu, hb⟩
    obtain ⟨old, hold, rfl | rfl⟩ := mem_of_modify hc
    · rw [huser] at hu
      rw [hrealm] at hb
      exact ⟨old, hold, user, hu, hb⟩
    · exact ⟨call, hold, user, hu, hb⟩
  cases a with
  | login id new =>
    refine other ?_ Iff.rfl
    intro hcase
    rcases hcase with ⟨_, _, he, _⟩
    cases he
  | changeUsers users =>
    refine other ?_ Iff.rfl
    intro hcase
    rcases hcase with ⟨_, _, he, _⟩
    cases he
  | logoutUser realm userId =>
    constructor
    · intro hcase
      rcases hcase with ⟨call, hc, howns⟩
      rcases List.mem_append.mp hc with hc | hc
      · exact Or.inr ⟨⟨call, hc, howns⟩, trivial⟩
      · rw [List.mem_singleton.mp hc] at howns
        exact Or.inl ⟨realm, userId, rfl, howns⟩
    · intro hcase
      rcases hcase with ⟨_, _, he, howns⟩ | ⟨⟨call, hc, howns⟩, _⟩
      · cases he
        exact ⟨_, List.mem_append_right _ (List.mem_singleton.mpr rfl), howns⟩
      · exact ⟨call, List.mem_append_left _ hc, howns⟩
  | backchannelLogout k id =>
    refine other ?_ (modified (fun _ => rfl) (fun _ => rfl))
    intro hcase
    rcases hcase with ⟨_, _, he, _⟩
    cases he
  | answer k =>
    refine other ?_ (modified (fun _ => rfl) (fun _ => rfl))
    intro hcase
    rcases hcase with ⟨_, _, he, _⟩
    cases he

theorem opened_next (s : State D) (a : Action D) : (id, session) ∈ (next s a).opened ↔
    a = .login id session ∨ (id, session) ∈ s.opened ∧ True := by
  cases a with
  | login other new => simp [next, or_comm, eq_comm]
  | changeUsers users => simp [next]
  | logoutUser realm userId => simp [next]
  | backchannelLogout k other => simp [next]
  | answer k => simp [next]

theorem opened_of_login {as : List (Action D)} (hv : (system D).Valid s as)
    (hlogin : .login id session ∈ as) : (id, session) ∈ ((system D).run s as).opened := by
  rw [Machine.since_iff (M := system D) (X := fun s => (id, session) ∈ s.opened)
    (fun s a _ => opened_next s a) hv]
  obtain ⟨before, after, rfl⟩ := List.append_of_mem hlogin
  exact Or.inr ⟨before, _, after, rfl, rfl, Machine.along_of_forall (fun _ _ => trivial) _⟩

/-- However calls and logins overlap, a session is closed only when a logout of its own user
was called, at a time when the user was known. -/
theorem closed_only_by_owner (users : UserProvider) (as : List (Action D))
    (hv : (system D).Valid (initial users) as) (id : String) (session : UserSession D)
    (opened : .login id session ∈ as)
    (closed : ((system D).run (initial users) as).store.lookup id ≠ some session) :
    ∃ before realm userId after user, as = before ++ .logoutUser realm userId :: after ∧
      ((system D).run (initial users) before).users.getUserById realm userId = some user ∧
      Belongs realm userId session := by
  have inv := reachable_inv hv
  have howned := (inv.closed id session (opened_of_login hv opened)).resolve_left closed
  rw [Machine.since_iff (M := system D) (X := fun s => ∃ call ∈ s.calls, call.Owns session)
    (fun s a _ => owned_next s a) hv] at howned
  rcases howned with ⟨⟨call, hc, _⟩, _⟩ | ⟨before, a, after, hsplit, hstarts, _⟩
  · cases hc
  · obtain ⟨realm, userId, rfl, user, hu, hb⟩ := hstarts
    have hid := UserProvider.id_eq _ _ _ _ hu
    exact ⟨before, realm, userId, after, user, hsplit, hu, hid ▸ hb⟩

/-! ## What an answered call has closed -/

/-- The session is closed, or call `k` still has to close it. -/
def Owed (k : ℕ) (id : String) (s : State D) : Prop :=
  id ∈ s.opened.map Prod.fst ∧ (id ∈ s.store → ∃ call, s.calls[k]? = some call ∧
    call.answered = false ∧ id ∈ call.due)

theorem owed_next {k : ℕ} (h : Owed k id s) (he : Enabled s a) : Owed k id (next s a) := by
  obtain ⟨hopened, howed⟩ := h
  cases a with
  | login other new =>
    have hne : other ≠ id := fun heq => he (heq ▸ hopened)
    refine ⟨?_, fun hm => howed ?_⟩
    · simp only [next, List.map_append]
      exact List.mem_append_left _ hopened
    · exact (AList.mem_insert _).mp hm |>.resolve_left (Ne.symm hne)
  | changeUsers users => exact ⟨hopened, howed⟩
  | logoutUser realm userId =>
    refine ⟨hopened, fun hm => ?_⟩
    obtain ⟨call, hk, hrest⟩ := howed hm
    refine ⟨call, ?_, hrest⟩
    have hlt := (List.getElem?_eq_some_iff.mp hk).1
    rw [next, List.getElem?_append_left hlt, hk]
  | backchannelLogout j other =>
    refine ⟨hopened, fun hm => ?_⟩
    obtain ⟨hne, hkept⟩ := AList.mem_erase.mp hm
    obtain ⟨call, hk, hanswered, hdue⟩ := howed hkept
    by_cases hj : j = k
    · subst hj
      refine ⟨{ call with due := call.due.filter (· ≠ other) }, ?_, hanswered, ?_⟩
      · rw [next, List.getElem?_modify_eq, hk]
        rfl
      · exact List.mem_filter.mpr ⟨hdue, by simpa using hne⟩
    · refine ⟨call, ?_, hanswered, hdue⟩
      rw [next, List.getElem?_modify_ne _ _ hj, hk]
  | answer j =>
    refine ⟨hopened, fun hm => ?_⟩
    obtain ⟨call, hk, hanswered, hdue⟩ := howed hm
    by_cases hj : j = k
    · subst hj
      -- a call is answered when its stream has nothing left
      obtain ⟨call', hk', _, hempty⟩ := he
      rw [hk] at hk'
      cases hk'
      rw [hempty] at hdue
      cases hdue
    · refine ⟨call, ?_, hanswered, hdue⟩
      rw [next, List.getElem?_modify_ne _ _ hj, hk]

def Answered (k : ℕ) (s : State D) : Prop := ∃ call, s.calls[k]? = some call ∧ call.answered = true

/-- Once a call is answered, none of its user's sessions that were open when it came is open. -/
theorem answered_call_closed_all (users : UserProvider) (before after : List (Action D))
    (realm userId : String) (user : UserModel) (id : String) (session : UserSession D)
    (hv : (system D).Valid (initial users) (before ++ .logoutUser realm userId :: after))
    (found : ((system D).run (initial users) before).users.getUserById realm userId = some user)
    (open_before : ((system D).run (initial users) before).store.lookup id = some session)
    (belongs : Belongs realm userId session)
    (answered : Answered ((system D).run (initial users) before).calls.length
      ((system D).run (initial users) (before ++ .logoutUser realm userId :: after))) :
    id ∉ ((system D).run (initial users) (before ++ .logoutUser realm userId :: after)).store := by
  obtain ⟨hbefore, hstart, hafter⟩ := Machine.along_append.mp hv
  have inv := reachable_inv hbefore
  generalize ht : (system D).run (initial users) before = t at *
  have howed : Owed t.calls.length id (next t (.logoutUser realm userId)) := by
    refine ⟨List.mem_map.mpr ⟨_, inv.store id session open_before, rfl⟩, fun _ => ?_⟩
    refine ⟨startCall t realm userId, by simp [next], rfl, ?_⟩
    simp only [startCall, found]
    have hid := t.users.id_eq realm userId user found
    exact mem_getUserSessionsStream.mpr ⟨session, open_before, hid ▸ belongs⟩
  have hend := Machine.valid_invariant (M := system D) (I := Owed t.calls.length id)
    (fun _ _ h he => owed_next h he) howed hafter
  rw [Machine.run_append, ht] at answered ⊢
  have hrun : (system D).run t (.logoutUser realm userId :: after) =
      (system D).run (next t (.logoutUser realm userId)) after := rfl
  rw [hrun] at answered ⊢
  intro hm
  obtain ⟨call, hk, hnot, _⟩ := hend.2 hm
  obtain ⟨call', hk', hyes⟩ := answered
  rw [hk] at hk'
  cases hk'
  rw [hnot] at hyes
  cases hyes

/-! ## A call that is not interrupted -/

def alone (s : State D) (realm userId : String) : List (Action D) :=
  .logoutUser realm userId ::
    ((startCall s realm userId).due.map (.backchannelLogout s.calls.length) ++
      [.answer s.calls.length])

theorem startCall_nodup (s : State D) (realm userId : String) :
    (startCall s realm userId).due.Nodup := by
  rw [startCall]
  cases s.users.getUserById realm userId with
  | none => exact List.nodup_nil
  | some user => exact s.store.keys_nodup.sublist (List.filter_sublist.map Sigma.fst)

theorem close_all {k : ℕ} {ids : List String} {call : Call} (hk : s.calls[k]? = some call)
    (hdue : call.due = ids) (hn : ids.Nodup) (ha : call.answered = false) :
    (system D).Valid s (ids.map (.backchannelLogout k)) ∧
      ∃ call', ((system D).run s (ids.map (.backchannelLogout k))).calls[k]? = some call' ∧
        call'.due = [] ∧ call'.answered = false ∧
        ((system D).run s (ids.map (.backchannelLogout k))).store =
          ids.foldl SessionLogout.backchannelLogout s.store := by
  induction ids generalizing s call with
  | nil => exact ⟨trivial, call, hk, hdue, ha, rfl⟩
  | cons id ids ih =>
    obtain ⟨hnot, hrest⟩ := List.nodup_cons.mp hn
    have hnext : (next s (.backchannelLogout k id)).calls[k]? =
        some { call with due := call.due.filter (· ≠ id) } := by
      rw [next, List.getElem?_modify_eq, hk]
      rfl
    have hleft : call.due.filter (· ≠ id) = ids := by
      rw [hdue, List.filter_cons_of_neg (by simp), List.filter_eq_self]
      intro other hm
      exact decide_eq_true fun he => hnot (he ▸ hm)
    obtain ⟨hvalid, call', hcall', hempty, hopen, hstore⟩ := ih hnext hleft hrest ha
    refine ⟨⟨⟨call, hk, ha, Or.inl ?_⟩, hvalid⟩, call', hcall', hempty, hopen, hstore⟩
    rw [hdue]
    exact List.mem_cons_self

theorem answered_next {k : ℕ} {call : Call} (hk : s.calls[k]? = some call) :
    Answered k (next s (.answer k)) := by
  refine ⟨{ call with answered := true }, ?_, rfl⟩
  rw [next, List.getElem?_modify_eq, hk]
  rfl

/-- Uninterrupted, the interleaved call is the call of the gateway. -/
theorem alone_is_logoutUser (s : State D) (realm userId : String) :
    (system D).Valid s (alone s realm userId) ∧
      Answered s.calls.length ((system D).run s (alone s realm userId)) ∧
      ((system D).run s (alone s realm userId)).store =
        (SessionLogout.logoutUser s.users realm userId s.store).2 := by
  have hk : (next s (.logoutUser realm userId)).calls[s.calls.length]? =
      some (startCall s realm userId) := by simp [next]
  obtain ⟨hvalid, call, hcall, hempty, hopen, hstore⟩ :=
    close_all hk rfl (startCall_nodup s realm userId) rfl
  have hrun : (system D).run s (alone s realm userId) = next ((system D).run
      (next s (.logoutUser realm userId)) ((startCall s realm userId).due.map
        (.backchannelLogout s.calls.length))) (.answer s.calls.length) := by
    change (system D).run (next s (.logoutUser realm userId)) (_ ++ [_]) = _
    rw [Machine.run_append]
    rfl
  rw [hrun]
  refine ⟨⟨trivial, Machine.along_append.mpr ⟨hvalid, ⟨call, hcall, hopen, hempty⟩, trivial⟩⟩,
    answered_next hcall, hstore.trans ?_⟩
  cases hu : s.users.getUserById realm userId with
  | none => simp [startCall, SessionLogout.logoutUser, hu, next]
  | some user => simp [startCall, SessionLogout.logoutUser, hu, next]

/-- The call looks the user up, a session is opened, and only then the stream is read. -/
def overtaken : List (Action Unit) :=
  [.login "s1" joesSession, .logoutUser "realm" "u1", .login "s2" joesSession,
    .backchannelLogout 0 "s1", .answer 0]

theorem overtaken_valid : (system Unit).Valid (initial (onlyUser joe)) overtaken := by
  refine ⟨?_, trivial, ?_, ⟨_, rfl, rfl, Or.inl ?_⟩, ⟨_, rfl, rfl, by rfl⟩, trivial⟩
  · exact List.not_mem_nil
  · change "s2" ∉ ["s1"]
    decide
  · exact List.mem_singleton.mpr rfl

theorem overtaken_closes_by_owner : ∃ before realm userId after user,
    overtaken = before ++ .logoutUser realm userId :: after ∧
      ((system Unit).run (initial (onlyUser joe)) before).users.getUserById realm userId =
        some user ∧ Belongs realm userId joesSession :=
  closed_only_by_owner (onlyUser joe) overtaken overtaken_valid "s1" joesSession
    List.mem_cons_self (by decide)

theorem overtaken_closes_first_session :
    "s1" ∉ ((system Unit).run (initial (onlyUser joe)) overtaken).store :=
  answered_call_closed_all (onlyUser joe) [.login "s1" joesSession]
    [.login "s2" joesSession, .backchannelLogout 0 "s1", .answer 0] "realm" "u1" joe "s1"
    joesSession overtaken_valid rfl rfl ⟨rfl, rfl⟩ ⟨_, rfl, rfl⟩

end SessionLogoutInterleaved
