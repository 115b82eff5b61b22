import Mathlib.Data.List.AList
import Mathlib.Data.Finset.Basic

/-! The Keycloak and Java values the extension reads and writes. A Java map is an association
list with distinct keys: its entries stand in the order in which this run enumerates them, and
nothing may depend on that order. A reference that may be null is an `Option`. -/
namespace KeycloakModel

inductive JavaException where
  | nullPointer
  | indexOutOfBounds
  | namingAuthentication
  | other (name : String)
  deriving DecidableEq, Repr

def getZero {α : Type} : List α → Except JavaException α
  | [] => .error .indexOutOfBounds
  | a :: _ => .ok a

abbrev MultivaluedMap := AList fun _ : String => List String

/-- `getFirst`: null when the key is missing or has no value. -/
def getFirst (m : MultivaluedMap) (key : String) : Option String :=
  (m.lookup key).bind List.head?

theorem getFirst_absent {m : MultivaluedMap} {key : String} (h : key ∉ m) :
    getFirst m key = none := by
  simp [getFirst, AList.lookup_eq_none.mpr h]

abbrev AttributeMap := MultivaluedMap

/-- `Map<String, String>`: a key may be present with a null value. -/
abbrev ConfigMap := AList fun _ : String => Option String

def ConfigMap.get (config : ConfigMap) (key : String) : Option String :=
  (config.lookup key).join

structure RoleModel where
  id : String
  name : String
  deriving DecidableEq, Repr

structure GroupModel where
  id : String
  name : String
  parentId : Option String
  attributes : AttributeMap
  deriving DecidableEq

/-- `groups` is in the order in which `getGroupsStream` yields the groups; `roles` are the ids
of all roles `hasRole` answers true for, those held through groups and composites included. -/
structure UserModel where
  id : String
  username : String
  email : Option String
  attributes : AttributeMap
  groups : List GroupModel
  roles : List String
  requiredActions : Finset String
  deriving DecidableEq

def UserModel.hasRole (user : UserModel) (role : RoleModel) : Bool :=
  decide (role.id ∈ user.roles)

def UserModel.getAttributeStream (user : UserModel) (name : String) : List String :=
  (user.attributes.lookup name).getD []

/-- The user of the examples. -/
def joe : UserModel := ⟨"u1", "joe", none, ∅, [], [], ∅⟩

end KeycloakModel
