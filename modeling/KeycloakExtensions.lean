import KeycloakExtensions.UsernamePasswordForm
import KeycloakExtensions.UsernamePasswordExits
import KeycloakExtensions.UsernamePasswordLogin
import KeycloakExtensions.LibraryRuns
import KeycloakExtensions.UsernamePasswordCaptcha
import KeycloakExtensions.ConditionalOtp
import KeycloakExtensions.ConditionalOtpExemption
import KeycloakExtensions.IPRestricted
import KeycloakExtensions.LibraryOrderFree
import KeycloakExtensions.IPRestrictedOrder
import KeycloakExtensions.GroupClaim
import KeycloakExtensions.GroupClaimIdentity
import KeycloakExtensions.LastLogin
import KeycloakExtensions.LastLoginSchedule
import KeycloakExtensions.SessionLogout
import KeycloakExtensions.ConditionalOtpRuns
import KeycloakExtensions.IPRestrictedAddress
import KeycloakExtensions.UsernamePasswordLdap
import KeycloakExtensions.GroupClaimFold
import KeycloakExtensions.LibraryKeyedSet
import KeycloakExtensions.TokenClaims
import KeycloakExtensions.TokenClaimsCoverage
import KeycloakExtensions.WelcomeMail
import KeycloakExtensions.UsernamePasswordBrowser
import KeycloakExtensions.UsernamePasswordBrowserRuns
import KeycloakExtensions.LastLoginHistory
import KeycloakExtensions.SessionLogoutRuns
import KeycloakExtensions.SessionLogoutInterleaved
import KeycloakExtensions.WelcomeMailRuns
import KeycloakExtensions.TokenClaimsAuthority
import KeycloakExtensions.LibraryFoldedNames
import KeycloakExtensions.LdapObject
import KeycloakExtensions.LdapObjectNames
import KeycloakExtensions.LdapObjectMandatory
import KeycloakExtensions.LdapObjectRanges
import KeycloakExtensions.LibraryOwnedList
import KeycloakExtensions.LastLoginUsers
import KeycloakExtensions.LdapDn
import KeycloakExtensions.LibraryCalendar
import KeycloakExtensions.LibraryDecimal
import KeycloakExtensions.LastLoginText
