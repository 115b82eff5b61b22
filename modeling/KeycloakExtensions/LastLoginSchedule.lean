import KeycloakExtensions.LastLogin

/-! # Schedules that keep the last-login time

A schedule may lose a write or store an older stamp over a newer one. The invariant below holds
along every run whose steps are in order. -/
namespace LastLoginSchedule

open LibraryOwnedList LibraryRuns LastLogin

/-- The session commits after its tasks have written, and after no session that carries a later
stamp. -/
def CommitsInOrder (s : UserState) (i : SessionId) : Prop :=
  (∀ task ∈ s.tasks, task.session = i → task.phase = .done) ∧
  ((s.sessions i).carried = ⊥ ∨
    ∀ j, (s.sessions j).committed = true → (s.sessions j).carried ≤ (s.sessions i).carried)

/-- The tasks of one session write in the order in which they read the clock. -/
def WritesInOrder (s : UserState) (k : ℕ) : Prop :=
  ∀ task moment, s.tasks[k]? = some task → task.phase = .clockRead moment →
    (s.sessions task.session).carried ≤ dtfFormat moment

def InOrder (user : String) (s : UserState) : Action → Prop
  | .tick _ => True
  | .onEvent i event => StartsTask user event → (s.sessions i).committed = false
  | .readClock _ => True
  | .writeAttribute k => WritesInOrder s k
  | .commit i => CommitsInOrder s i

structure TaskInv (floor : Stamp) (now : ℕ) (sessions : SessionId → Session Stamp)
    (task : LoginTask Unit) : Prop where
  delivered_now : task.delivered ≤ now
  read_after : ∀ moment, task.phase = .clockRead moment →
    task.delivered ≤ moment ∧ floor ≤ dtfFormat moment
  done_carried : task.phase = .done →
    dtfFormat task.delivered ≤ (sessions task.session).carried
  committed_done : (sessions task.session).committed = true → task.phase = .done

structure Inv (floor : Stamp) (s : UserState) : Prop where
  floor_now : floor ≤ dtfFormat s.now
  stored_source : s.stored = floor ∨
    ∃ i, (s.sessions i).committed = true ∧ s.stored = (s.sessions i).carried
  carried_floor : ∀ i, (s.sessions i).carried = ⊥ ∨ floor ≤ (s.sessions i).carried
  committed_stored : ∀ i, (s.sessions i).committed = true → (s.sessions i).carried ≤ s.stored
  tasks : ∀ task ∈ s.tasks, TaskInv floor s.now s.sessions task

variable {floor : Stamp} {user : String} {s : UserState}

theorem dtfFormat_mono {m m' : ℕ} (h : m ≤ m') : dtfFormat m ≤ dtfFormat m' :=
  WithBot.coe_le_coe.mpr (Nat.div_le_div_right h)

theorem initial_inv (h : Initial s) : Inv s.stored s where
  floor_now := h.stored
  stored_source := Or.inl rfl
  carried_floor i := Or.inl (by rw [h.sessions i])
  committed_stored i hi := by simp [h.sessions i] at hi
  tasks task ht := by simp [h.tasks] at ht

theorem inv_kept (h : Inv floor s) : Kept s := by
  intro hq task ht
  obtain ⟨hdone, hcommitted⟩ := hq task ht
  have hcarried := (h.tasks task ht).done_carried hdone
  exact hcarried.trans (h.committed_stored task.session hcommitted)

theorem tick_inv (h : Inv floor s) (nanos : ℕ) : Inv floor { s with now := s.now + nanos } := by
  have hnow : s.now ≤ s.now + nanos := Nat.le_add_right s.now nanos
  refine ⟨h.floor_now.trans (dtfFormat_mono hnow), h.stored_source, h.carried_floor,
    h.committed_stored, ?_⟩
  intro task ht
  have hi := h.tasks task ht
  exact ⟨hi.delivered_now.trans hnow, hi.read_after, hi.done_carried, hi.committed_done⟩

theorem onEvent_inv (h : Inv floor s) {i : SessionId} {event : Event}
    (hi : StartsTask user event → (s.sessions i).committed = false) :
    Inv floor (onEvent (onlyUser second user) s i event) := by
  rw [onEvent_eq, startsTask_onlyUser]
  refine ⟨h.floor_now, h.stored_source, h.carried_floor, h.committed_stored, ?_⟩
  intro task ht
  rcases List.mem_append.mp ht with ht | ht
  · exact h.tasks task ht
  · by_cases he : StartsTask user event
    · rw [if_pos he] at ht
      obtain rfl := List.mem_singleton.mp ht
      refine ⟨le_rfl, ?_, ?_, ?_⟩
      · intro moment hm
        cases hm
      · intro hm
        cases hm
      · intro hc
        exact absurd ((hi he).symm.trans hc) Bool.false_ne_true
    · rw [if_neg he] at ht
      cases ht

theorem session_open (h : Inv floor s) {task : LoginTask Unit} (ht : task ∈ s.tasks)
    (hp : task.phase ≠ .done) : (s.sessions task.session).committed = false := by
  rw [← Bool.not_eq_true]
  intro hc
  exact hp ((h.tasks task ht).committed_done hc)

theorem readClock_inv (h : Inv floor s) {k : ℕ} {task : LoginTask Unit}
    (hk : s.tasks[k]? = some task) (hp : task.phase = .started) :
    Inv floor (readClock (onlyUser second user) s k) := by
  have ht : task ∈ s.tasks := List.mem_of_getElem? hk
  have hopen := session_open h ht (by simp [hp])
  simp only [readClock, hk]
  refine ⟨h.floor_now, h.stored_source, h.carried_floor, h.committed_stored, ?_⟩
  refine forall_mem_set h.tasks ⟨(h.tasks task ht).delivered_now, ?_, ?_, ?_⟩
  · intro moment hm
    cases hm
    exact ⟨(h.tasks task ht).delivered_now, h.floor_now⟩
  · intro hd
    cases hd
  · intro hc
    exact absurd (hopen.symm.trans hc) Bool.false_ne_true

theorem writeAttribute_inv (h : Inv floor s) {k moment : ℕ} {task : LoginTask Unit}
    (hk : s.tasks[k]? = some task) (hp : task.phase = .clockRead moment)
    (ho : (s.sessions task.session).carried ≤ dtfFormat moment) :
    Inv floor (writeAttribute (onlyUser second user) s k) ∧
      (writeAttribute (onlyUser second user) s k).stored = s.stored := by
  have ht : task ∈ s.tasks := List.mem_of_getElem? hk
  obtain ⟨hafter, hfloor⟩ := (h.tasks task ht).read_after moment hp
  have hopen := session_open h ht (by simp [hp])
  obtain ⟨_, i, delivered, phase⟩ := task
  cases hp
  have hcarried (j : SessionId) : (writeThrough s i (fun _ => dtfFormat moment) j).carried =
      if j = i then dtfFormat moment else (s.sessions j).carried := by
    rw [writeThrough_carried, hopen]
    simp
  have hraised (j : SessionId) : (s.sessions j).carried ≤
      (writeThrough s i (fun _ => dtfFormat moment) j).carried := by
    rw [hcarried j]
    by_cases hj : j = i
    · subst hj
      simpa using ho
    · simp [hj]
  -- the writing session is open, so what committed sessions carry stays
  have hkept {j : SessionId} (hj : (s.sessions j).committed = true) :
      (writeThrough s i (fun _ => dtfFormat moment) j).carried = (s.sessions j).carried := by
    have hne : j ≠ i := by
      rintro rfl
      exact Bool.false_ne_true (hopen.symm.trans hj)
    rw [hcarried j, if_neg hne]
  have hwrite : writeAttribute (onlyUser second user) s k =
      { s with
        tasks := s.tasks.set k ⟨(), i, delivered, .done⟩
        sessions := writeThrough s i (fun _ => dtfFormat moment) } := by
    simp only [writeAttribute, hk]
    rfl
  rw [hwrite]
  refine ⟨⟨h.floor_now, ?_, ?_, ?_, ?_⟩, rfl⟩
  · rcases h.stored_source with hs | ⟨j, hj, hs⟩
    · exact Or.inl hs
    · exact Or.inr ⟨j, (writeThrough_committed s i j _).trans hj, hs.trans (hkept hj).symm⟩
  · intro j
    by_cases hj : j = i
    · right
      simpa only [hcarried j, if_pos hj] using hfloor
    · simpa only [hcarried j, if_neg hj] using h.carried_floor j
  · intro j hj
    rw [writeThrough_committed] at hj
    exact (hkept hj).le.trans (h.committed_stored j hj)
  · refine forall_mem_set (fun other hother => ?_) ⟨(h.tasks _ ht).delivered_now, ?_, ?_, ?_⟩
    · have hi := h.tasks other hother
      refine ⟨hi.delivered_now, hi.read_after, ?_, ?_⟩
      · intro hd
        exact (hi.done_carried hd).trans (hraised other.session)
      · intro hc
        exact hi.committed_done ((writeThrough_committed s i other.session _).symm.trans hc)
    · intro m hm
      cases hm
    · intro _
      simpa only [hcarried i, if_pos] using dtfFormat_mono hafter
    · intro _
      rfl

theorem stored_le_commit (h : Inv floor s) {i : SessionId} (hi : CommitsInOrder s i) :
    s.stored ≤ (commit (onlyUser second user) s i).stored := by
  by_cases hb : (s.sessions i).carried = ⊥
  · simp [commit, onlyUser, hb]
  · have horder := hi.2.resolve_left hb
    have hfloor := (h.carried_floor i).resolve_left hb
    simp only [commit, onlyUser, if_neg hb]
    rcases h.stored_source with hs | ⟨j, hj, hs⟩
    · exact hs.le.trans hfloor
    · exact hs.le.trans (horder j hj)

theorem carried_le_commit (user : String) (s : UserState) (i : SessionId) :
    (s.sessions i).carried ≤ (commit (onlyUser second user) s i).stored := by
  by_cases hb : (s.sessions i).carried = ⊥
  · rw [hb]
    exact bot_le
  · simp only [commit, onlyUser, if_neg hb]
    exact le_rfl

theorem commit_inv (h : Inv floor s) {i : SessionId} (hi : CommitsInOrder s i) :
    Inv floor (commit (onlyUser second user) s i) := by
  have hself := (commit_committed (onlyUser second user) s i i).mpr (Or.inl rfl)
  have hother {j : SessionId} (hj : (s.sessions j).committed = true) :
      ((commit (onlyUser second user) s i).sessions j).committed = true :=
    (commit_committed (onlyUser second user) s i j).mpr (Or.inr hj)
  refine ⟨h.floor_now, ?_, ?_, ?_, ?_⟩
  · by_cases hb : (s.sessions i).carried = ⊥
    · have hs : (commit (onlyUser second user) s i).stored = s.stored := by
        simp [commit, onlyUser, hb]
      rw [hs]
      rcases h.stored_source with hf | ⟨j, hj, hf⟩
      · exact Or.inl hf
      · exact Or.inr ⟨j, hother hj, hf.trans (commit_carried _ s i j).symm⟩
    · refine Or.inr ⟨i, hself, ?_⟩
      rw [commit_carried]
      simp [commit, onlyUser, hb]
  · intro j
    rw [commit_carried]
    exact h.carried_floor j
  · intro j hj
    rw [commit_carried]
    rcases (commit_committed _ s i j).mp hj with rfl | hj
    · exact carried_le_commit user s j
    · exact (h.committed_stored j hj).trans (stored_le_commit h hi)
  · intro task ht
    have hti := h.tasks task ht
    refine ⟨hti.delivered_now, hti.read_after, ?_, ?_⟩
    · intro hd
      rw [commit_carried]
      exact hti.done_carried hd
    · intro hc
      rcases (commit_committed _ s i _).mp hc with hs | hs
      · exact hi.1 task ht hs
      · exact hti.committed_done hs

/-- A commit out of order moves the stored value backwards at once. -/
theorem commit_out_of_order (h : Inv floor s) {i j : SessionId}
    (hj : (s.sessions j).committed = true) (hb : (s.sessions i).carried ≠ ⊥)
    (hlt : (s.sessions i).carried < (s.sessions j).carried) :
    (commit (onlyUser second user) s i).stored < s.stored := by
  have hs : (commit (onlyUser second user) s i).stored = (s.sessions i).carried := by
    simp [commit, onlyUser, hb]
  rw [hs]
  exact hlt.trans_le (h.committed_stored j hj)

/-- A possible step in order keeps the invariant, and the stored value does not decrease. -/
theorem step_inv (a : Action) (h : Inv floor s) (he : Enabled s a) (ho : InOrder user s a) :
    Inv floor (next (onlyUser second user) s a) ∧
      s.stored ≤ (next (onlyUser second user) s a).stored := by
  cases a with
  | tick nanos => exact ⟨tick_inv h nanos, le_rfl⟩
  | onEvent i event =>
    refine ⟨onEvent_inv h ho, ?_⟩
    rw [next, onEvent_eq]
  | readClock k =>
    obtain ⟨task, hk, hp⟩ := he
    refine ⟨readClock_inv h hk hp, ?_⟩
    simp only [next, readClock, hk]
    exact le_rfl
  | writeAttribute k =>
    obtain ⟨task, moment, hk, hp⟩ := he
    obtain ⟨hinv, hs⟩ := writeAttribute_inv h hk hp (ho task moment hk hp)
    exact ⟨hinv, hs.ge⟩
  | commit i => exact ⟨commit_inv h ho, stored_le_commit h ho⟩

/-- In every run whose steps are in order the last-login time is neither lost nor moved
backwards. -/
theorem in_order_keeps_last_login (user : String) (s : UserState) (as : List Action)
    (h0 : Initial s) (hv : (machine user).Valid s as)
    (hg : (machine user).Along (InOrder user) s as) :
    NeitherLostNorBackwards user s as := by
  refine (Machine.guarded_run (I := Inv s.stored) ?_ (initial_inv h0) hv hg).2
  intro t a hi he ho
  obtain ⟨hnext, hstored⟩ := step_inv a hi he ho
  exact ⟨hnext, hstored, inv_kept hnext⟩

def firstBoot : UserState := ⟨0, ⊥, fun _ => ⟨⊥, false⟩, []⟩

theorem firstBoot_initial : Initial firstBoot := ⟨⟨fun _ => rfl, rfl⟩, bot_le⟩

def login : Event := ⟨.LOGIN, some "u1"⟩

def crossedCommits : List Action :=
  [.onEvent 0 login, .onEvent 1 login, .readClock 0, .tick 1000000000, .readClock 1,
    .writeAttribute 0, .writeAttribute 1, .commit 1, .commit 0]

def lateWrite : List Action := [.onEvent 0 login, .commit 0, .readClock 0, .writeAttribute 0]

theorem login_time_moves_backwards_or_is_lost :
    Initial firstBoot ∧
    ((machine "u1").Valid firstBoot crossedCommits ∧
      ¬ NeitherLostNorBackwards "u1" firstBoot crossedCommits) ∧
    (machine "u1").Valid firstBoot lateWrite ∧
      ¬ NeitherLostNorBackwards "u1" firstBoot lateWrite := by
  refine ⟨firstBoot_initial, ⟨?_, ?_⟩, ?_, ?_⟩
  · exact ⟨trivial, trivial, ⟨_, rfl, rfl⟩, trivial, ⟨_, rfl, rfl⟩, ⟨_, _, rfl, rfl⟩,
      ⟨_, _, rfl, rfl⟩, rfl, rfl, trivial⟩
  · rintro ⟨-, -, -, -, -, -, -, -, ⟨hback, -⟩, -⟩
    exact absurd hback (by decide)
  · exact ⟨trivial, rfl, ⟨_, rfl, rfl⟩, ⟨_, _, rfl, rfl⟩, trivial⟩
  · rintro ⟨-, -, -, ⟨-, hlost⟩, -⟩
    have hstale := hlost (by unfold Quiescent; decide) _ List.mem_cons_self
    exact absurd hstale (by decide)

/-- The tasks of two sessions write in the other order, and the commits follow the clock. -/
def crossedWrites : List Action :=
  [.onEvent 0 login, .onEvent 1 login, .readClock 0, .tick 1000000000, .readClock 1,
    .writeAttribute 1, .writeAttribute 0, .commit 0, .commit 1]

theorem in_order_keeps_two_sessions : NeitherLostNorBackwards "u1" firstBoot crossedWrites := by
  refine in_order_keeps_last_login "u1" firstBoot crossedWrites firstBoot_initial ?_ ?_
  · exact ⟨trivial, trivial, ⟨_, rfl, rfl⟩, trivial, ⟨_, rfl, rfl⟩, ⟨_, _, rfl, rfl⟩,
      ⟨_, _, rfl, rfl⟩, rfl, rfl, trivial⟩
  · refine ⟨fun _ => rfl, fun _ => rfl, trivial, trivial, trivial, ?_, ?_, ⟨by decide, Or.inr ?_⟩,
      ⟨by decide, Or.inr ?_⟩, trivial⟩
    · intro task moment hk _
      cases hk
      exact bot_le
    · intro task moment hk _
      cases hk
      exact bot_le
    · -- no session has committed
      intro j hj
      rcases j with _ | _ | j <;> cases hj
    · -- the other session has, with the earlier second
      intro j hj
      rcases j with _ | _ | j
      · decide
      · cases hj
      · cases hj

end LastLoginSchedule
