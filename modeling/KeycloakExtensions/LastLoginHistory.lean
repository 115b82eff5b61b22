import KeycloakExtensions.LastLoginSchedule
import Mathlib.Data.List.Perm.Subperm

/-! # What every schedule does to the last-login time

No order of the steps is assumed here. A schedule may lose a login or store an older one, but
it never makes a time up, and each login is written once, in time or too late. -/
namespace LastLoginHistory

open LibraryOwnedList LibraryRuns LastLogin LastLoginSchedule

variable {V : Type} [DecidableEq V] {dtf : ℕ → V} {user : String} {s : State Unit (WithBot V)}
  {floor value : WithBot V}

/-! ## What a step writes and stores -/

/-- The LOGIN event whose task writes, the moment it writes, and whether its session is open. -/
structure Write where
  login : Unit × SessionId × ℕ
  moment : ℕ
  inTime : Bool
  deriving DecidableEq, Repr

def writeOf (s : State Unit (WithBot V)) : Action → List Write
  | .writeAttribute k =>
    match s.tasks[k]? with
    | some ⟨user, i, delivered, .clockRead moment⟩ =>
      [⟨(user, i, delivered), moment, !(s.sessions i).committed⟩]
    | _ => []
  | .tick _ | .onEvent _ _ | .readClock _ | .commit _ => []

/-- A write in time sets what its session carries; one that comes too late is lost. -/
def lands (dtf : ℕ → V) (i : SessionId) (carried : WithBot V) (w : Write) : WithBot V :=
  if i = w.login.2.1 ∧ w.inTime = true then WithBot.some (dtf w.moment) else carried

def flushOf (s : State Unit (WithBot V)) : Action → List (WithBot V)
  | .commit i => [(s.sessions i).carried]
  | .tick _ | .onEvent _ _ | .readClock _ | .writeAttribute _ => []

omit [DecidableEq V] in
/-- What is written is written by a task that has read the clock. -/
theorem task_of_write {a : Action} {w : Write} (hw : w ∈ writeOf s a) :
    ∃ task ∈ s.tasks, task.login = w.login ∧ task.phase = .clockRead w.moment := by
  cases a with
  | writeAttribute k =>
    rw [writeOf] at hw
    split at hw
    next hk =>
      obtain rfl := List.mem_singleton.mp hw
      exact ⟨_, List.mem_of_getElem? hk, rfl, rfl⟩
    next => cases hw
  | tick nanos => cases hw
  | onEvent i event => cases hw
  | readClock k => cases hw
  | commit i => cases hw

omit [DecidableEq V] in
theorem carried_of_flush {a : Action} {carried : WithBot V} (hc : carried ∈ flushOf s a) :
    ∃ i, carried = (s.sessions i).carried := by
  cases a with
  | commit i => exact ⟨i, List.mem_singleton.mp hc⟩
  | tick nanos => cases hc
  | onEvent i event => cases hc
  | readClock k => cases hc
  | writeAttribute k => cases hc

theorem next_carried (user : String) (s : State Unit (WithBot V)) (i : SessionId) (a : Action) :
    ((next (onlyUser dtf user) s a).sessions i).carried =
      (writeOf s a).foldl (lands dtf i) (s.sessions i).carried := by
  cases a with
  | tick nanos => rfl
  | onEvent j event =>
    rw [next, onEvent_eq]
    rfl
  | readClock k =>
    rw [next, readClock]
    split <;> rfl
  | writeAttribute k =>
    cases hk : s.tasks[k]? with
    | none => simp only [next, writeAttribute, writeOf, hk, List.foldl_nil]
    | some task =>
      obtain ⟨_, j, delivered, phase⟩ := task
      cases phase with
      | started => simp only [next, writeAttribute, writeOf, hk, List.foldl_nil]
      | done => simp only [next, writeAttribute, writeOf, hk, List.foldl_nil]
      | clockRead moment =>
        by_cases hi : i = j
        · subst hi
          simp [next, writeAttribute, writeOf, hk, writeThrough_carried, lands, onlyUser]
        · simp [next, writeAttribute, writeOf, hk, writeThrough_carried, lands, hi]
  | commit j => exact commit_carried _ s j i

theorem next_stored (user : String) (s : State Unit (WithBot V)) (a : Action) :
    (next (onlyUser dtf user) s a).stored =
      (flushOf s a).foldl (fun stored carried => if carried = ⊥ then stored else carried)
        s.stored := by
  cases a with
  | tick nanos => rfl
  | onEvent i event =>
    rw [next, onEvent_eq]
    rfl
  | readClock k =>
    rw [next, readClock]
    split <;> rfl
  | writeAttribute k =>
    rw [next, writeAttribute]
    split <;> rfl
  | commit i => rfl

/-! ## Where a value comes from -/

/-- The value of a moment at which the task of a LOGIN event can have read the clock. -/
def FromLogin (dtf : ℕ → V) (logins : List (Unit × SessionId × ℕ)) (now : ℕ)
    (value : WithBot V) : Prop :=
  ∃ login ∈ logins, ∃ moment, login.2.2 ≤ moment ∧ moment ≤ now ∧
    value = WithBot.some (dtf moment)

structure Genuine (dtf : ℕ → V) (floor : WithBot V) (s : State Unit (WithBot V)) : Prop where
  delivered_now : ∀ task ∈ s.tasks, task.delivered ≤ s.now
  clock_now : ∀ task ∈ s.tasks, ∀ moment, task.phase = .clockRead moment →
    task.delivered ≤ moment ∧ moment ≤ s.now
  carried : ∀ i, (s.sessions i).carried = ⊥ ∨
    FromLogin dtf (s.tasks.map LoginTask.login) s.now (s.sessions i).carried
  stored : s.stored = floor ∨ FromLogin dtf (s.tasks.map LoginTask.login) s.now s.stored

omit [DecidableEq V] in
theorem begins_genuine (h : Begins s) : Genuine dtf s.stored s where
  delivered_now task ht := by simp [h.tasks] at ht
  clock_now task ht := by simp [h.tasks] at ht
  carried i := Or.inl (by rw [h.sessions i])
  stored := Or.inl rfl

/-- Logins stay in the list and the clock does not go back, so what comes from a login does so
after any step. -/
theorem FromLogin.next (h : FromLogin dtf (s.tasks.map LoginTask.login) s.now value) (a : Action) :
    FromLogin dtf ((next (onlyUser dtf user) s a).tasks.map LoginTask.login)
      (next (onlyUser dtf user) s a).now value := by
  obtain ⟨login, hmem, moment, hle, hnow, hvalue⟩ := h
  refine ⟨login, ?_, moment, hle, hnow.trans (next_now _ s a), hvalue⟩
  rw [next_login]
  exact List.mem_append_left _ hmem

theorem tasks_delivered_now (h : Genuine dtf floor s) (a : Action) :
    ∀ task ∈ (next (onlyUser dtf user) s a).tasks,
      task.delivered ≤ (next (onlyUser dtf user) s a).now := by
  cases a with
  | tick nanos =>
    intro task ht
    exact (h.delivered_now task ht).trans (Nat.le_add_right s.now nanos)
  | onEvent i event =>
    rw [next, onEvent_eq]
    intro task ht
    rcases List.mem_append.mp ht with ht | ht
    · exact h.delivered_now task ht
    · obtain ⟨_, _, rfl⟩ := List.mem_map.mp ht
      exact le_rfl
  | readClock k =>
    rw [next, readClock]
    split
    next => exact h.delivered_now
    next task hk =>
      have hdelivered := h.delivered_now task (List.mem_of_getElem? hk)
      exact forall_mem_set h.delivered_now hdelivered
  | writeAttribute k =>
    rw [next, writeAttribute]
    split
    next hk =>
      have hdelivered := h.delivered_now _ (List.mem_of_getElem? hk)
      exact forall_mem_set h.delivered_now hdelivered
    next => exact h.delivered_now
  | commit i => exact h.delivered_now

theorem tasks_clock_now (h : Genuine dtf floor s) (a : Action) :
    ∀ task ∈ (next (onlyUser dtf user) s a).tasks, ∀ moment, task.phase = .clockRead moment →
      task.delivered ≤ moment ∧ moment ≤ (next (onlyUser dtf user) s a).now := by
  cases a with
  | tick nanos =>
    intro task ht moment hp
    obtain ⟨hd, hm⟩ := h.clock_now task ht moment hp
    exact ⟨hd, hm.trans (Nat.le_add_right s.now nanos)⟩
  | onEvent i event =>
    rw [next, onEvent_eq]
    intro task ht moment hp
    rcases List.mem_append.mp ht with ht | ht
    · exact h.clock_now task ht moment hp
    · obtain ⟨_, _, rfl⟩ := List.mem_map.mp ht
      cases hp
  | readClock k =>
    rw [next, readClock]
    split
    next => exact h.clock_now
    next task hk =>
      refine forall_mem_set h.clock_now fun moment hp => ?_
      cases hp
      exact ⟨h.delivered_now task (List.mem_of_getElem? hk), le_rfl⟩
  | writeAttribute k =>
    rw [next, writeAttribute]
    split
    next =>
      refine forall_mem_set h.clock_now fun moment hp => ?_
      cases hp
    next => exact h.clock_now
  | commit i => exact h.clock_now

/-- What a session carries after a step it carried before, or a login has brought it. -/
theorem carried_next (user : String) (h : Genuine dtf floor s) (a : Action) (i : SessionId) :
    ((next (onlyUser dtf user) s a).sessions i).carried = (s.sessions i).carried ∨
      FromLogin dtf (s.tasks.map LoginTask.login) s.now
        ((next (onlyUser dtf user) s a).sessions i).carried := by
  have hlands (carried : WithBot V) (w : Write) : lands dtf i carried w = carried ∨
      lands dtf i carried w = WithBot.some (dtf w.moment) := by
    rw [lands]
    split
    · exact Or.inr rfl
    · exact Or.inl rfl
  rw [next_carried]
  refine (foldl_or_from (X := fun w carried => carried = WithBot.some (dtf w.moment)) hlands
    (writeOf s a) (s.sessions i).carried).imp_right ?_
  rintro ⟨w, hw, hvalue⟩
  obtain ⟨task, ht, _, hphase⟩ := task_of_write hw
  obtain ⟨hd, hm⟩ := h.clock_now task ht w.moment hphase
  exact ⟨task.login, List.mem_map_of_mem ht, w.moment, hd, hm, hvalue⟩

/-- What is stored after a step was stored before, or is what a session carries. -/
theorem stored_next (dtf : ℕ → V) (user : String) (s : State Unit (WithBot V)) (a : Action) :
    (next (onlyUser dtf user) s a).stored = s.stored ∨ ∃ i, (s.sessions i).carried ≠ ⊥ ∧
      (next (onlyUser dtf user) s a).stored = (s.sessions i).carried := by
  have hputs (stored carried : WithBot V) :
      (if carried = ⊥ then stored else carried) = stored ∨
        carried ≠ ⊥ ∧ (if carried = ⊥ then stored else carried) = carried := by
    by_cases hb : carried = ⊥
    · exact Or.inl (if_pos hb)
    · exact Or.inr ⟨hb, if_neg hb⟩
  rw [next_stored]
  refine (foldl_or_from (X := fun carried stored => carried ≠ ⊥ ∧ stored = carried) hputs
    (flushOf s a) s.stored).imp_right ?_
  rintro ⟨carried, hc, hb, hvalue⟩
  obtain ⟨i, rfl⟩ := carried_of_flush hc
  exact ⟨i, hb, hvalue⟩

theorem next_genuine (h : Genuine dtf floor s) (a : Action) :
    Genuine dtf floor (next (onlyUser dtf user) s a) where
  delivered_now := tasks_delivered_now h a
  clock_now := tasks_clock_now h a
  carried i := by
    rcases carried_next user h a i with hsame | hlogin
    · rw [hsame]
      exact (h.carried i).imp_right fun hf => hf.next a
    · exact Or.inr (hlogin.next a)
  stored := by
    rcases stored_next dtf user s a with hsame | ⟨i, hb, hi⟩
    · rw [hsame]
      exact h.stored.imp_right fun hf => hf.next a
    · rw [hi]
      exact Or.inr (((h.carried i).resolve_left hb).next a)

theorem run_genuine (user : String) (h0 : Begins s) (as : List Action) :
    Genuine dtf s.stored ((system (onlyUser dtf user)).run s as) :=
  Machine.run_invariant (I := Genuine dtf s.stored) (fun _ a h => next_genuine h a)
    (begins_genuine h0) as

/-- Whatever the schedule and the format, what is stored was stored before the run or comes from
a login of the run. -/
theorem stored_genuine (dtf : ℕ → V) (user : String) (h0 : Begins s) (as : List Action) :
    ((system (onlyUser dtf user)).run s as).stored = s.stored ∨
      FromLogin dtf ((system (onlyUser dtf user)).collect (loginOf (onlyUser dtf user)) s as)
        ((system (onlyUser dtf user)).run s as).now
        ((system (onlyUser dtf user)).run s as).stored := by
  rw [← system_login _ s h0.tasks as]
  exact (run_genuine user h0 as).stored

/-- Whatever the schedule, the stored time is the one stored before the run or a second between
a LOGIN event of this user in the run and the present. -/
theorem stored_time_is_a_login (user : String) (s : UserState) (as : List Action)
    (h0 : Begins s) :
    ((machine user).run s as).stored = s.stored ∨
      FromLogin second ((machine user).collect (loginOf (onlyUser second user)) s as)
        ((machine user).run s as).now ((machine user).run s as).stored :=
  stored_genuine second user h0 as

theorem crossed_commits_store_a_login :
    ((machine "u1").run firstBoot crossedCommits).stored = ⊥ ∨
      FromLogin second
        ((machine "u1").collect (loginOf (onlyUser second "u1")) firstBoot crossedCommits)
        ((machine "u1").run firstBoot crossedCommits).now
        ((machine "u1").run firstBoot crossedCommits).stored :=
  stored_time_is_a_login "u1" firstBoot crossedCommits ⟨fun _ => rfl, rfl⟩

/-! ## The ledger of the writes -/

/-- The login of a task that has not written yet. -/
def unwritten (task : LoginTask Unit) : Option (Unit × SessionId × ℕ) :=
  if task.phase = .done then none else some task.login

/-- One step: a login is added to those to be written, or one of them is written. -/
theorem next_unwritten (user : String) {a : Action} (he : Enabled s a) :
    ((writeOf s a).map Write.login ++
        (next (onlyUser dtf user) s a).tasks.filterMap unwritten).Perm
      (s.tasks.filterMap unwritten ++ loginOf (onlyUser dtf user) s a) := by
  cases a with
  | tick nanos => simp [writeOf, next, loginOf]
  | commit i => simp [writeOf, next, commit, loginOf]
  | onEvent i event =>
    have hstarted (users : List Unit) : (users.map fun user =>
        (⟨user, i, s.now, .started⟩ : LoginTask Unit)).filterMap unwritten =
          users.map fun user => (user, i, s.now) := by
      rw [List.filterMap_map]
      exact congrFun List.filterMap_eq_map' users
    rw [next, onEvent_eq, writeOf, loginOf, List.filterMap_append, hstarted]
    exact List.Perm.refl _
  | readClock k =>
    obtain ⟨task, hk, hp⟩ := he
    have hsame : unwritten { task with phase := .clockRead s.now } = unwritten task := by
      simp [unwritten, hp, LoginTask.login]
    simp only [writeOf, next, readClock, hk, loginOf, List.append_nil]
    exact List.Perm.of_eq (filterMap_set_same hk hsame)
  | writeAttribute k =>
    obtain ⟨⟨_, i, delivered, phase⟩, moment, hk, hp⟩ := he
    cases hp
    simp only [writeOf, next, writeAttribute, hk, loginOf, List.append_nil]
    exact filterMap_set_dropped hk rfl rfl

omit [DecidableEq V] in
theorem write_after_login (h : Genuine dtf floor s) (a : Action) :
    ∀ w ∈ writeOf s a, w.login.2.2 ≤ w.moment := by
  intro w hw
  obtain ⟨task, ht, hlogin, hphase⟩ := task_of_write hw
  rw [← hlogin]
  exact (h.clock_now task ht w.moment hphase).1

/-- The account of a run: what was written, what came of it, and what was stored. -/
structure Accounted (dtf : ℕ → V) (user : String) (s : State Unit (WithBot V)) (as : List Action)
    (written : List Write) : Prop where
  once : (written.map Write.login).Subperm
    ((system (onlyUser dtf user)).collect (loginOf (onlyUser dtf user)) s as)
  all : Quiescent ((system (onlyUser dtf user)).run s as) → (written.map Write.login).Perm
    ((system (onlyUser dtf user)).collect (loginOf (onlyUser dtf user)) s as)
  after_login : ∀ w ∈ written, w.login.2.2 ≤ w.moment
  carried : ∀ i, (((system (onlyUser dtf user)).run s as).sessions i).carried =
    written.foldl (lands dtf i) ⊥
  stored : ((system (onlyUser dtf user)).run s as).stored =
    ((system (onlyUser dtf user)).collect flushOf s as).foldl
      (fun stored carried => if carried = ⊥ then stored else carried) s.stored

omit [DecidableEq V] in
theorem quiescent_written {t : State Unit (WithBot V)} (h : Quiescent t) :
    t.tasks.filterMap unwritten = [] := by
  rw [List.filterMap_eq_nil_iff]
  intro task ht
  exact if_pos (h task ht).1

/-- Every write is that of a LOGIN event, none is written twice, and each is written once
everything is done; what a session carries and what is stored follows from these writes. -/
theorem each_login_written_once (dtf : ℕ → V) (user : String) (s : State Unit (WithBot V))
    (as : List Action) (h0 : Begins s) (hv : (system (onlyUser dtf user)).Valid s as) :
    Accounted dtf user s as ((system (onlyUser dtf user)).collect writeOf s as) := by
  have hbalance := Machine.balance_run (M := system (onlyUser dtf user))
    (f := fun s a => (writeOf s a).map Write.login) (g := loginOf (onlyUser dtf user))
    (r := fun s => s.tasks.filterMap unwritten) (fun s a he => next_unwritten user he) hv
  rw [← Machine.map_collect, h0.tasks, List.filterMap_nil, List.nil_append] at hbalance
  have keep (s' : State Unit (WithBot V)) (a : Action) (h : Genuine dtf s.stored s')
      (_ : Enabled s' a) (_ : Enabled s' a) :
      Genuine dtf s.stored (next (onlyUser dtf user) s' a) ∧
        ∀ w ∈ writeOf s' a, w.login.2.2 ≤ w.moment :=
    ⟨next_genuine h a, write_after_login h a⟩
  have hwrites := (Machine.guarded_run (M := system (onlyUser dtf user)) keep
    (begins_genuine h0) hv hv).2
  constructor
  · exact (List.sublist_append_left _ _).subperm.trans hbalance.subperm
  · intro hq
    rwa [quiescent_written hq, List.append_nil] at hbalance
  · exact Machine.forall_mem_collect hwrites
  · intro i
    have hfold := Machine.fold_run (M := system (onlyUser dtf user))
      (r := fun s => (s.sessions i).carried) (fun s a => next_carried user s i a) s as
    rwa [h0.sessions i] at hfold
  · exact Machine.fold_run (M := system (onlyUser dtf user)) (r := State.stored)
      (fun s a => next_stored user s a) s as

/-- In the run of crossed commits both logins are written, and the commits are the last word. -/
theorem crossed_logins_written_once :
    Accounted second "u1" firstBoot crossedCommits
      ((system (onlyUser second "u1")).collect writeOf firstBoot crossedCommits) := by
  refine each_login_written_once second "u1" firstBoot crossedCommits ⟨fun _ => rfl, rfl⟩ ?_
  exact ⟨trivial, trivial, ⟨_, rfl, rfl⟩, trivial, ⟨_, rfl, rfl⟩, ⟨_, _, rfl, rfl⟩,
    ⟨_, _, rfl, rfl⟩, rfl, rfl, trivial⟩

end LastLoginHistory
