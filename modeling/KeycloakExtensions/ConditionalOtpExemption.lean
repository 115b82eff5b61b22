import KeycloakExtensions.ConditionalOtp

/-! # Who is exempt from the OTP

A configuration exempts a user by a role or by an attribute. The login step is compared with
this notion, and with the enrolment step, which asks every configuration of the realm. -/
namespace ConditionalOtpExemption

open KeycloakModel LibraryEffects LibraryFallible ConditionalOtp

variable {realm : RealmModel} {user : UserModel} {config : ConfigMap}

def HoldsSkipRole (realm : RealmModel) (user : UserModel) (config : ConfigMap) : Prop :=
  ∃ name role, config.get skipOtpRole = some name ∧
    realm.getRoleFromString name = some role ∧ user.hasRole role = true

def HasControlAttribute (user : UserModel) (config : ConfigMap) : Prop :=
  ∃ name, config.get otpControlUserAttribute = some name ∧ user.getAttributeStream name ≠ []

def Exempts (realm : RealmModel) (user : UserModel) (config : ConfigMap) : Prop :=
  HoldsSkipRole realm user config ∨ HasControlAttribute user config

def RoleResolves (realm : RealmModel) (config : ConfigMap) : Prop :=
  skipOtpRole ∈ config → ∃ name role, config.get skipOtpRole = some name ∧
    realm.getRoleFromString name = some role

theorem configGet_absent {key : String} (h : key ∉ config) : config.get key = none := by
  simp [ConfigMap.get, AList.lookup_eq_none.mpr h]

/-! ## The two votes -/

theorem voteForUserOtpControlAttribute_iff :
    voteForUserOtpControlAttribute user config = .skipOtp ↔ HasControlAttribute user config := by
  simp only [voteForUserOtpControlAttribute, HasControlAttribute]
  cases config.get otpControlUserAttribute with
  | none => simp
  | some name =>
    cases hv : user.getAttributeStream name <;> simp [hv]

theorem voteForUserRole_answers (user : UserModel) (h : RoleResolves realm config) :
    ∃ d, voteForUserRole realm user config = .ok d ∧
      (d = .skipOtp ↔ HoldsSkipRole realm user config) := by
  simp only [voteForUserRole]
  by_cases hp : skipOtpRole ∈ config
  · obtain ⟨name, role, hn, hr⟩ := h hp
    have hu : userHasRole realm user (config.get skipOtpRole) = .ok (user.hasRole role) := by
      simp [userHasRole, hn, hr]
    have hiff : HoldsSkipRole realm user config ↔ user.hasRole role = true := by
      constructor
      · rintro ⟨name', role', hn', hr', hb⟩
        rw [hn] at hn'
        cases hn'
        rw [hr] at hr'
        cases hr'
        exact hb
      · intro hb
        exact ⟨name, role, hn, hr, hb⟩
    rw [if_pos hp, hu, hiff]
    cases user.hasRole role with
    | true => exact ⟨.skipOtp, rfl, by simp⟩
    | false => exact ⟨.showOtp, rfl, by simp⟩
  · refine ⟨.showOtp, by rw [if_neg hp]; rfl, ?_⟩
    have hn : ¬ HoldsSkipRole realm user config := by
      rintro ⟨name, role, hget, _⟩
      rw [configGet_absent hp] at hget
      cases hget
    simp [hn]

/-! ## The login step -/

def actionOf : OtpDecision → OtpAction
  | .skipOtp => .success
  | .showOtp => .otpForm

theorem exec_tryConclude (d : OtpDecision) (before : List OtpAction) :
    exec (tryConcludeBasedOnWithContext d) before = (.ok true, before ++ [actionOf d]) := by
  cases d <;> rfl

/-- The role vote alone decides: the attribute vote is never asked. -/
theorem exec_authenticate {d : OtpDecision} (h : voteForUserRole realm user config = .ok d)
    (before : List OtpAction) :
    exec (authenticate realm user (some ⟨config⟩)) before = (.ok (), before ++ [actionOf d]) := by
  simp [authenticate, h, exec_tryConclude]

/-- The login step exempts exactly the exempt users, and shows the form once to the others. -/
def ExemptionDecided (realm : RealmModel) (user : UserModel) (config : ConfigMap) : Prop :=
  ∀ before,
    (exec (authenticate realm user (some ⟨config⟩)) before = (.ok (), before ++ [.success]) ↔
      Exempts realm user config) ∧
    (¬ Exempts realm user config →
      exec (authenticate realm user (some ⟨config⟩)) before = (.ok (), before ++ [.otpForm]))

theorem succeeds_iff_holdsSkipRole (h : RoleResolves realm config) (before : List OtpAction) :
    exec (authenticate realm user (some ⟨config⟩)) before = (.ok (), before ++ [.success]) ↔
      HoldsSkipRole realm user config := by
  obtain ⟨d, hd, hiff⟩ := voteForUserRole_answers user h
  rw [exec_authenticate hd, ← hiff]
  cases d <;> simp [actionOf]

theorem shows_of_not_holdsSkipRole (h : RoleResolves realm config)
    (hn : ¬ HoldsSkipRole realm user config) (before : List OtpAction) :
    exec (authenticate realm user (some ⟨config⟩)) before = (.ok (), before ++ [.otpForm]) := by
  obtain ⟨d, hd, hiff⟩ := voteForUserRole_answers user h
  rw [exec_authenticate hd]
  cases d with
  | skipOtp => exact (hn (hiff.mp rfl)).elim
  | showOtp => rfl

theorem exemption_decided_iff (h : RoleResolves realm config) :
    ExemptionDecided realm user config ↔
      (HoldsSkipRole realm user config ∨ ¬ HasControlAttribute user config) := by
  constructor
  · intro hd
    by_cases ha : HasControlAttribute user config
    · have hx := ((hd []).1).mpr (Or.inr ha)
      exact Or.inl ((succeeds_iff_holdsSkipRole h []).mp hx)
    · exact Or.inr ha
  · intro hc before
    constructor
    · rw [succeeds_iff_holdsSkipRole h]
      constructor
      · exact Or.inl
      · rintro (hr | ha)
        · exact hr
        · exact hc.resolve_right (fun hn => hn ha)
    · intro hn
      exact shows_of_not_holdsSkipRole h (fun hr => hn (Or.inl hr)) before

def exemptRole : RoleModel := ⟨"r1", "OTP_ISTISNA_ROL"⟩

def attributeConfig : ConfigMap := [⟨otpControlUserAttribute, some "otpExempt"⟩].toAList
def roleConfig : ConfigMap := [⟨skipOtpRole, some "OTP_ISTISNA_ROL"⟩].toAList

def roleRealm (configs : List ConfigMap) : RealmModel :=
  ⟨fun name => if name = "OTP_ISTISNA_ROL" then some exemptRole else none, configs.map (⟨·⟩)⟩

def attributeUser : UserModel :=
  ⟨"u1", "joe", none, [⟨"otpExempt", ["true"]⟩].toAList, [], [], ∅⟩
def roleUser : UserModel := ⟨"u2", "ann", none, ∅, [], ["r1"], ∅⟩

theorem attribute_exemption_ignored :
    RoleResolves (roleRealm [attributeConfig]) attributeConfig ∧
    ¬ ExemptionDecided (roleRealm [attributeConfig]) attributeUser attributeConfig := by
  refine ⟨fun hp => absurd hp (by decide), fun h => ?_⟩
  have hx := (h []).1.mpr (Or.inr ⟨"otpExempt", by decide, by decide⟩)
  have hform : exec (authenticate (roleRealm [attributeConfig]) attributeUser
      (some ⟨attributeConfig⟩)) [] = (.ok (), [.otpForm]) := rfl
  rw [hform] at hx
  cases hx

theorem exemption_decided_iff_role_user :
    ExemptionDecided (roleRealm [roleConfig]) roleUser roleConfig ↔
      (HoldsSkipRole (roleRealm [roleConfig]) roleUser roleConfig ∨
        ¬ HasControlAttribute roleUser roleConfig) :=
  exemption_decided_iff fun _ => ⟨"OTP_ISTISNA_ROL", exemptRole, by decide, by decide⟩

/-! ## The enrolment step -/

theorem isOTPNotRequired_answers (user : UserModel)
    (h : ∀ c ∈ realm.authenticatorConfigs, RoleResolves realm c.config) :
    ∃ b, isOTPNotRequired realm user = .ok b ∧
      (b = true ↔ ∃ c ∈ realm.authenticatorConfigs, Exempts realm user c.config) := by
  rw [isOTPNotRequired]
  apply anyM_answers
  intro c hc
  obtain ⟨d, hd, hrole⟩ := voteForUserRole_answers user (h c hc)
  refine ⟨_, by rw [hd]; rfl, ?_⟩
  simp only [tryConcludeBasedOn, Bool.or_eq_true, decide_eq_true_eq, Exempts,
    voteForUserOtpControlAttribute_iff, hrole]
  exact or_comm

theorem setRequiredActions_answers (user : UserModel)
    (h : ∀ c ∈ realm.authenticatorConfigs, RoleResolves realm c.config) :
    ∃ actions, setRequiredActions realm user = .ok { user with requiredActions := actions } ∧
      (configureTotp ∉ actions ↔
        ∃ c ∈ realm.authenticatorConfigs, Exempts realm user c.config) ∧
      ∀ action, action ≠ configureTotp → (action ∈ actions ↔ action ∈ user.requiredActions) := by
  obtain ⟨b, hb, hiff⟩ := isOTPNotRequired_answers user h
  rw [setRequiredActions, hb, ← hiff]
  cases b with
  | true =>
    refine ⟨user.requiredActions.erase configureTotp, rfl, by simp, ?_⟩
    intro action hne
    simp [hne]
  | false =>
    by_cases hm : configureTotp ∈ user.requiredActions
    · exact ⟨user.requiredActions, by simp [hm, bind, Except.bind, pure, Except.pure],
        by simp [hm], fun _ _ => Iff.rfl⟩
    · refine ⟨insert configureTotp user.requiredActions,
        by simp [hm, bind, Except.bind, pure, Except.pure], by simp, ?_⟩
      intro action hne
      simp [hne]

def SucceedsSilently (realm : RealmModel) (user : UserModel) (config : ConfigMap) : Prop :=
  exec (authenticate realm user (some ⟨config⟩)) [] = (.ok (), [.success])

def StepsAgree (realm : RealmModel) (user : UserModel) (c : AuthenticatorConfigModel) : Prop :=
  ∃ user', setRequiredActions realm user = .ok user' ∧
    (configureTotp ∉ user'.requiredActions ↔ SucceedsSilently realm user c.config)

theorem twoConfigs_cases {c : AuthenticatorConfigModel}
    (hc : c ∈ (roleRealm [∅, roleConfig]).authenticatorConfigs) : c = ⟨∅⟩ ∨ c = ⟨roleConfig⟩ := by
  simpa [roleRealm] using hc

theorem twoConfigs_resolve : ∀ c ∈ (roleRealm [∅, roleConfig]).authenticatorConfigs,
    RoleResolves (roleRealm [∅, roleConfig]) c.config := by
  intro c hc
  rcases twoConfigs_cases hc with rfl | rfl
  · intro hp
    exact absurd hp (by decide)
  · intro _
    exact ⟨"OTP_ISTISNA_ROL", exemptRole, by decide, by decide⟩

theorem other_config_exempts_at_enrolment :
    ⟨∅⟩ ∈ (roleRealm [∅, roleConfig]).authenticatorConfigs ∧
    (∀ c ∈ (roleRealm [∅, roleConfig]).authenticatorConfigs,
      RoleResolves (roleRealm [∅, roleConfig]) c.config) ∧
    ¬ StepsAgree (roleRealm [∅, roleConfig]) roleUser ⟨∅⟩ := by
  refine ⟨by simp [roleRealm], twoConfigs_resolve, ?_⟩
  rintro ⟨user', hu, hiff⟩
  have hu' : setRequiredActions (roleRealm [∅, roleConfig]) roleUser = .ok roleUser := rfl
  rw [hu'] at hu
  cases hu
  have hx := hiff.mp (by decide)
  cases hx

/-- Both steps agree up to which configuration they ask: enrolment asks all of them. A user
with a value of a configured attribute is left out of the comparison with the login step. -/
theorem exemption_steps_agree (realm : RealmModel) (user : UserModel)
    {c : AuthenticatorConfigModel} (hc : c ∈ realm.authenticatorConfigs)
    (h : ∀ c ∈ realm.authenticatorConfigs, RoleResolves realm c.config) :
    ∃ user', setRequiredActions realm user = .ok user' ∧
      (SucceedsSilently realm user c.config → configureTotp ∉ user'.requiredActions) ∧
      (configureTotp ∉ user'.requiredActions ↔
        ∃ c' ∈ realm.authenticatorConfigs, Exempts realm user c'.config) ∧
      ((∀ c' ∈ realm.authenticatorConfigs, ¬ HasControlAttribute user c'.config) →
        (configureTotp ∉ user'.requiredActions ↔
          ∃ c' ∈ realm.authenticatorConfigs, SucceedsSilently realm user c'.config)) := by
  have hrole (c' : AuthenticatorConfigModel) (hc' : c' ∈ realm.authenticatorConfigs) :
      SucceedsSilently realm user c'.config ↔ HoldsSkipRole realm user c'.config :=
    succeeds_iff_holdsSkipRole (h c' hc') []
  obtain ⟨actions, hx, hiff, _⟩ := setRequiredActions_answers user h
  refine ⟨_, hx, ?_, hiff, ?_⟩
  · intro hs
    exact hiff.mpr ⟨c, hc, Or.inl ((hrole c hc).mp hs)⟩
  · intro hn
    rw [show configureTotp ∉ ({ user with requiredActions := actions } : UserModel).requiredActions
      ↔ _ from hiff]
    constructor
    · rintro ⟨c', hc', hr | ha⟩
      · exact ⟨c', hc', (hrole c' hc').mpr hr⟩
      · exact (hn c' hc' ha).elim
    · rintro ⟨c', hc', hs⟩
      exact ⟨c', hc', Or.inl ((hrole c' hc').mp hs)⟩

/-- The login step under the empty configuration asks for a code, and the user is exempt at
enrolment through the other configuration, under which the login step is silent too. -/
theorem exemption_steps_agree_two_configs :
    ∃ user', setRequiredActions (roleRealm [∅, roleConfig]) roleUser = .ok user' ∧
      (SucceedsSilently (roleRealm [∅, roleConfig]) roleUser ∅ →
        configureTotp ∉ user'.requiredActions) ∧
      (configureTotp ∉ user'.requiredActions ↔
        ∃ c' ∈ (roleRealm [∅, roleConfig]).authenticatorConfigs,
          SucceedsSilently (roleRealm [∅, roleConfig]) roleUser c'.config) := by
  obtain ⟨user', hx, hs, _, hiff⟩ := exemption_steps_agree (roleRealm [∅, roleConfig]) roleUser
    (show ⟨∅⟩ ∈ _ by simp [roleRealm]) twoConfigs_resolve
  refine ⟨user', hx, hs, hiff ?_⟩
  intro c hc hcontrol
  rcases hcontrol with ⟨name, hn, _⟩
  have hnone : ConfigMap.get c.config otpControlUserAttribute = none := by
    rcases twoConfigs_cases hc with rfl | rfl <;> decide
  rw [hnone] at hn
  cases hn

end ConditionalOtpExemption
