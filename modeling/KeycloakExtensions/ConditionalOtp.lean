import KeycloakExtensions.LibraryEffects
import KeycloakExtensions.LibraryFallible
import KeycloakExtensions.KeycloakModel

/-! The OTP step of `ConditionalOtpAuthenticator`: the decision at login and the required
action at enrolment. The lookup of a role by its configured name is Keycloak's. -/
namespace ConditionalOtp

open KeycloakModel LibraryEffects LibraryFallible

def skipOtpRole : String := "skipOtpRole"
def otpControlUserAttribute : String := "otpControlAttribute"
def configureTotp : String := "CONFIGURE_TOTP"

structure AuthenticatorConfigModel where
  config : ConfigMap

/-- `getRoleFromString` answers for a role name; a null name resolves to no role. -/
structure RealmModel where
  getRoleFromString : String → Option RoleModel
  authenticatorConfigs : List AuthenticatorConfigModel

inductive OtpDecision where
  | skipOtp
  | showOtp
  deriving DecidableEq, Repr

inductive OtpAction where
  | success
  | otpForm
  deriving DecidableEq, Repr

abbrev OtpM := Effect (List OtpAction) JavaException

def act (a : OtpAction) : OtpM Unit := modify fun done => done ++ [a]

def showOtpForm : OtpM Unit := act .otpForm

/-- The `default` branch of the source is for a third value, which the enum does not have. -/
def tryConcludeBasedOnWithContext (state : OtpDecision) : OtpM Bool :=
  match state with
  | .showOtp => do
    showOtpForm
    pure true
  | .skipOtp => do
    act .success
    pure true

def tryConcludeBasedOn (state : OtpDecision) : Bool := decide (state = .skipOtp)

def voteForUserOtpControlAttribute (user : UserModel) (config : ConfigMap) : OtpDecision :=
  match config.get otpControlUserAttribute with
  | none => .showOtp
  | some attributeName =>
    match (user.getAttributeStream attributeName).head? with
    | some _ => .skipOtp
    | none => .showOtp

/-- The log line reads the name of the role before the null test. -/
def userHasRole (realm : RealmModel) (user : UserModel) (roleName : Option String) :
    Except JavaException Bool :=
  match roleName.bind realm.getRoleFromString with
  | none => .error .nullPointer
  | some role => .ok (user.hasRole role)

def voteForUserRole (realm : RealmModel) (user : UserModel) (config : ConfigMap) :
    Except JavaException OtpDecision :=
  if skipOtpRole ∈ config then do
    if ← userHasRole realm user (config.get skipOtpRole) then pure .skipOtp else pure .showOtp
  else pure .showOtp

def authenticate (realm : RealmModel) (user : UserModel)
    (authenticatorConfig : Option AuthenticatorConfigModel) : OtpM Unit :=
  match authenticatorConfig with
  | none => throw .nullPointer
  | some model => do
    let roleVote ← ofExcept (voteForUserRole realm user model.config)
    if ← tryConcludeBasedOnWithContext roleVote then pure ()
    else
      let attributeVote := voteForUserOtpControlAttribute user model.config
      if ← tryConcludeBasedOnWithContext attributeVote then pure ()
      else showOtpForm

def isOTPNotRequired (realm : RealmModel) (user : UserModel) : Except JavaException Bool :=
  realm.authenticatorConfigs.anyM fun configModel => do
    let skipOTPUserBase :=
      tryConcludeBasedOn (voteForUserOtpControlAttribute user configModel.config)
    let roleVote ← voteForUserRole realm user configModel.config
    let skipOTPUserRoleBase := tryConcludeBasedOn roleVote
    pure (skipOTPUserBase || skipOTPUserRoleBase)

def setRequiredActions (realm : RealmModel) (user : UserModel) :
    Except JavaException UserModel := do
  if ← isOTPNotRequired realm user then
    pure { user with requiredActions := user.requiredActions.erase configureTotp }
  else if configureTotp ∉ user.requiredActions then
    pure { user with requiredActions := insert configureTotp user.requiredActions }
  else pure user

end ConditionalOtp
