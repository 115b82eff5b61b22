import KeycloakExtensions.LibraryEffects
import KeycloakExtensions.LibrarySegments
import KeycloakExtensions.KeycloakModel

/-! The address check of `IPAuthenticator`: one group of the user, one value of its attribute,
and the table of exemptions. -/
namespace IPRestricted

open KeycloakModel LibraryEffects LibrarySegments

def ipAdres : String := "IP_ADRES"

structure FormMessage where
  field : String
  message : String
  deriving DecidableEq, Repr

def noGroupMessage : FormMessage :=
  ⟨"label", "Kullanıcı bir gruba ait olmak zorunda. Lütfen yöneticinize bildiriniz"⟩
def refusedMessage : FormMessage :=
  ⟨"label", "Kullanıcının ip adresi kabul edilebilir değil. Lütfen yöneticinize bildiriniz."⟩

inductive IPOutcome where
  | success
  | forkWithErrorMessage (message : FormMessage)
  deriving DecidableEq, Repr

structure Istisna where
  organizasyonId : Option String
  istisnaTipi : Option ℤ
  aktif : Option Bool
  deriving DecidableEq, Repr

abbrev IPM := Effect (List IPOutcome) JavaException

/-- `SELECT COUNT(*)`; a comparison with a null column holds of no row. -/
def exemptionCount (istisna : List Istisna) (groupId : String) : ℕ :=
  istisna.countP fun row => decide
    (row.organizasyonId = some groupId ∧ row.istisnaTipi = some 0 ∧ row.aktif = some true)

def isGroupHaveIPException (istisna : List Istisna) (group : Option GroupModel) : Bool :=
  match group with
  | none => true
  | some group => decide (0 < exemptionCount istisna group.id)

def conclude (o : IPOutcome) : IPM Unit := modify fun done => done ++ [o]

def authenticate (istisna : List Istisna) (user : UserModel) (remoteIPAddress : String) :
    IPM Unit :=
  match user.groups.head? with
  | none => conclude (.forkWithErrorMessage noGroupMessage)
  | some group =>
    -- `findAny` on the entries of a map: at most one has the key
    match group.attributes.entries.find? fun attributes => decide (attributes.1 = ipAdres) with
    | none => conclude .success
    | some ipAdressMap =>
      if isGroupHaveIPException istisna (some group) then conclude .success
      else do
        let value ← ofExcept (getZero ipAdressMap.2)
        if remoteIPAddress ∈ javaSplit ',' value then conclude .success
        else conclude (.forkWithErrorMessage refusedMessage)

end IPRestricted
