import KeycloakExtensions.ConditionalOtpExemption
import KeycloakExtensions.LibraryRuns

/-! # The enrolment step over orders and runs

What `setRequiredActions` leaves is determined by the set of configurations of the realm, so
neither their order nor the past of the user matters. One unresolved role name breaks this:
whether it is reached depends on the configurations before it. -/
namespace ConditionalOtpRuns

open KeycloakModel LibraryRuns ConditionalOtp ConditionalOtpExemption

variable {realm : RealmModel} {user user' : UserModel} {actions : Finset String}

def SomeConfigExempts (realm : RealmModel) (user : UserModel) : Prop :=
  ∃ c ∈ realm.authenticatorConfigs, Exempts realm user c.config

def RolesResolve (realm : RealmModel) : Prop :=
  ∀ c ∈ realm.authenticatorConfigs, RoleResolves realm c.config

/-- The required actions the step is to leave. -/
structure Settles (realm : RealmModel) (user : UserModel) (actions : Finset String) : Prop where
  totp : configureTotp ∉ actions ↔ SomeConfigExempts realm user
  others : ∀ action, action ≠ configureTotp →
    (action ∈ actions ↔ action ∈ user.requiredActions)

theorem Settles.unique {actions' : Finset String} (h : Settles realm user actions)
    (h' : Settles realm user actions') : actions = actions' := by
  apply Finset.ext
  intro action
  by_cases he : action = configureTotp
  · subst he
    exact not_iff_not.mp (h.totp.trans h'.totp.symm)
  · exact (h.others action he).trans (h'.others action he).symm

theorem settled (user : UserModel) (h : RolesResolve realm) :
    ∃ actions, Settles realm user actions ∧
      setRequiredActions realm user = .ok { user with requiredActions := actions } := by
  obtain ⟨actions, hx, totp, others⟩ := setRequiredActions_answers user h
  exact ⟨actions, ⟨totp, others⟩, hx⟩

theorem setRequiredActions_of_settles (h : RolesResolve realm) (hs : Settles realm user actions) :
    setRequiredActions realm user = .ok { user with requiredActions := actions } := by
  obtain ⟨actions', hs', hx⟩ := settled user h
  rw [hx, hs.unique hs']

/-! ## The order of the configurations -/

def withConfigs (realm : RealmModel) (configs : List AuthenticatorConfigModel) : RealmModel :=
  { realm with authenticatorConfigs := configs }

/-- The step returns, with one result for all orders of the configurations, and exempts
exactly the users whom some configuration exempts. -/
def ExemptionOrderFree (realm : RealmModel) (user : UserModel) : Prop :=
  ∃ user', (∀ configs, configs.Perm realm.authenticatorConfigs →
      setRequiredActions (withConfigs realm configs) user = .ok user') ∧
    (configureTotp ∉ user'.requiredActions ↔ SomeConfigExempts realm user)

theorem RolesResolve.perm {configs : List AuthenticatorConfigModel} (h : RolesResolve realm)
    (hp : configs.Perm realm.authenticatorConfigs) : RolesResolve (withConfigs realm configs) := by
  intro c hc
  exact h c (hp.mem_iff.mp hc)

theorem Settles.perm {configs : List AuthenticatorConfigModel} (h : Settles realm user actions)
    (hp : configs.Perm realm.authenticatorConfigs) :
    Settles (withConfigs realm configs) user actions where
  totp := by
    rw [h.totp]
    constructor
    · rintro ⟨c, hc, he⟩
      exact ⟨c, hp.mem_iff.mpr hc, he⟩
    · rintro ⟨c, hc, he⟩
      exact ⟨c, hp.mem_iff.mp hc, he⟩
  others := h.others

theorem voteForUserRole_dangling {config : ConfigMap} (h : ¬ RoleResolves realm config) :
    voteForUserRole realm user config = .error .nullPointer := by
  obtain ⟨hp, hn⟩ := Classical.not_imp.mp h
  have hnone : (config.get skipOtpRole).bind realm.getRoleFromString = none := by
    rw [Option.eq_none_iff_forall_ne_some]
    intro role hr
    obtain ⟨name, hname, hrole⟩ := Option.bind_eq_some_iff.mp hr
    exact hn ⟨name, role, hname, hrole⟩
  simp only [voteForUserRole, if_pos hp, userHasRole, hnone]
  rfl

/-- An unresolved role in the first configuration is always reached. -/
theorem setRequiredActions_dangling {c : AuthenticatorConfigModel}
    {configs : List AuthenticatorConfigModel} (h : ¬ RoleResolves realm c.config) :
    setRequiredActions (withConfigs realm (c :: configs)) user = .error .nullPointer := by
  have hvote : voteForUserRole (withConfigs realm (c :: configs)) user c.config =
      .error .nullPointer := voteForUserRole_dangling h
  have hnr : isOTPNotRequired (withConfigs realm (c :: configs)) user = .error .nullPointer := by
    simp only [isOTPNotRequired, withConfigs, List.anyM] at hvote ⊢
    rw [hvote]
    rfl
  rw [setRequiredActions, hnr]
  rfl

theorem exemption_order_free_iff (realm : RealmModel) (user : UserModel) :
    ExemptionOrderFree realm user ↔ RolesResolve realm := by
  constructor
  · rintro ⟨user', hall, _⟩ c hc
    by_contra hn
    -- some order puts the unresolved configuration first
    obtain ⟨before, after, hsplit⟩ := List.append_of_mem hc
    have hperm : (c :: (before ++ after)).Perm realm.authenticatorConfigs := by
      rw [hsplit]
      exact List.perm_middle.symm
    have hx := hall _ hperm
    rw [setRequiredActions_dangling hn] at hx
    cases hx
  · intro h
    obtain ⟨actions, hs, _⟩ := settled user h
    refine ⟨{ user with requiredActions := actions }, ?_, hs.totp⟩
    intro configs hp
    exact setRequiredActions_of_settles (h.perm hp) (hs.perm hp)

def danglingConfig : ConfigMap := [⟨skipOtpRole, some "DELETED_ROLE"⟩].toAList

/-- A deleted role next to a configuration that exempts the user. -/
theorem dangling_role_breaks_exemption :
    setRequiredActions (roleRealm [roleConfig, danglingConfig]) roleUser = .ok roleUser ∧
    setRequiredActions (roleRealm [danglingConfig, roleConfig]) roleUser = .error .nullPointer ∧
    ¬ ExemptionOrderFree (roleRealm [roleConfig, danglingConfig]) roleUser := by
  refine ⟨rfl, rfl, ?_⟩
  rintro ⟨user', hall, _⟩
  have hx := hall [⟨danglingConfig⟩, ⟨roleConfig⟩] (List.Perm.swap _ _ _)
  cases hx

/-! ## Runs -/

structure EnrolmentState where
  realm : RealmModel
  user : UserModel

/-- What administrators and the user change between the calls, and the call itself. -/
inductive Act where
  | changeUserRoles (roles : List String)
  | changeUserAttributes (attrs : AttributeMap)
  | changeUserRequiredActions (actions : Finset String)
  | changeConfigs (configs : List AuthenticatorConfigModel)
  | changeRealmRoles (getRoleFromString : String → Option RoleModel)
  | callSetRequiredActions

/-- A call that throws has changed nothing: the search stands before every change. -/
def stepEnrolment (s : EnrolmentState) : Act → EnrolmentState
  | .changeUserRoles roles => { s with user := { s.user with roles := roles } }
  | .changeUserAttributes attrs => { s with user := { s.user with attributes := attrs } }
  | .changeUserRequiredActions actions =>
    { s with user := { s.user with requiredActions := actions } }
  | .changeConfigs configs => { s with realm := withConfigs s.realm configs }
  | .changeRealmRoles getRoleFromString =>
    { s with realm := { s.realm with getRoleFromString := getRoleFromString } }
  | .callSetRequiredActions =>
    match setRequiredActions s.realm s.user with
    | .ok user => { s with user := user }
    | .error _ => s

def enrolment : Machine EnrolmentState Act where
  Enabled _ _ := True
  next := stepEnrolment

def CallsResolve (s : EnrolmentState) (a : Act) : Prop :=
  a = .callSetRequiredActions → RolesResolve s.realm

/-- What a call leaves behind, between the state before it and the state after it. -/
structure SettledBy (s t : EnrolmentState) : Prop where
  totp : configureTotp ∈ t.user.requiredActions ↔ ¬ SomeConfigExempts t.realm t.user
  others : ∀ action, action ≠ configureTotp →
    (action ∈ t.user.requiredActions ↔ action ∈ s.user.requiredActions)
  frame : ∃ actions, t = { s with user := { s.user with requiredActions := actions } }
  repeated : stepEnrolment t .callSetRequiredActions = t

def CallsSettle (s : EnrolmentState) (a : Act) : Prop :=
  a = .callSetRequiredActions →
    (∃ user', setRequiredActions s.realm s.user = .ok user') ∧
    SettledBy s (stepEnrolment s .callSetRequiredActions)

/-- Settling a settled user asks for the same required actions again. -/
theorem Settles.again (h : Settles realm user actions) :
    Settles realm { user with requiredActions := actions } actions where
  totp := h.totp
  others _ _ := Iff.rfl

theorem call_settles {s : EnrolmentState} (h : RolesResolve s.realm) :
    (∃ user', setRequiredActions s.realm s.user = .ok user') ∧
      SettledBy s (stepEnrolment s .callSetRequiredActions) := by
  obtain ⟨actions, hs, hx⟩ := settled s.user h
  have hstep : stepEnrolment s .callSetRequiredActions =
      { s with user := { s.user with requiredActions := actions } } := by
    simp only [stepEnrolment, hx]
  refine ⟨⟨_, hx⟩, ?_⟩
  rw [hstep]
  refine ⟨?_, hs.others, ⟨actions, rfl⟩, ?_⟩
  · have hiff := not_iff_not.mpr hs.totp
    rw [not_not] at hiff
    exact hiff
  · have hagain := setRequiredActions_of_settles h hs.again
    simp only [stepEnrolment, hagain]

theorem all_valid (s : EnrolmentState) (as : List Act) : enrolment.Valid s as := by
  induction as generalizing s with
  | nil => trivial
  | cons a as ih => exact ⟨trivial, ih _⟩

/-- Every run settles the user at each of its calls, whatever was changed before. -/
theorem calls_settle_along_runs (s : EnrolmentState) (as : List Act)
    (resolves : enrolment.Along CallsResolve s as) : enrolment.Along CallsSettle s as := by
  have keep (s : EnrolmentState) (a : Act) (_ : True) (_ : enrolment.Enabled s a)
      (h : CallsResolve s a) : True ∧ CallsSettle s a :=
    ⟨trivial, fun hcall => call_settles (h hcall)⟩
  exact (Machine.guarded_run keep trivial (all_valid s as) resolves).2

def exemptedThenNot : List Act :=
  [.changeUserRoles ["r1"], .callSetRequiredActions, .changeUserRoles [], .callSetRequiredActions]

theorem roleConfig_resolves : ∀ c ∈ (roleRealm [roleConfig]).authenticatorConfigs,
    RoleResolves (roleRealm [roleConfig]) c.config := by
  intro c hc
  obtain rfl : c = ⟨roleConfig⟩ := by simpa [roleRealm] using hc
  exact fun _ => ⟨"OTP_ISTISNA_ROL", exemptRole, by decide, by decide⟩

theorem calls_settle_after_exemption :
    enrolment.Along CallsSettle ⟨roleRealm [roleConfig], attributeUser⟩ exemptedThenNot := by
  refine calls_settle_along_runs _ _ ⟨?_, ?_, ?_, ?_, trivial⟩
  · exact fun _ => roleConfig_resolves
  · exact fun _ => roleConfig_resolves
  · exact fun _ => roleConfig_resolves
  · exact fun _ => roleConfig_resolves

end ConditionalOtpRuns
