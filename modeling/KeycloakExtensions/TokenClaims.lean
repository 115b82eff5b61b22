import KeycloakExtensions.GroupClaim
import KeycloakExtensions.LibraryKeyedSet

/-! # The three mappers

`setClaim` of the mappers, up to the value each hands to `mapClaim`. Groups pass through hash
sets, which tell them apart by id and are iterated in an order of their own; a group that does
not exist stands in such a set as null. -/
namespace TokenClaims

open KeycloakModel LibraryFallible LibraryPutFold LibraryKeyedSet GroupClaim

def kullaniciGrupIslemTipi : String := "KULLANICIGRUPISLEMTIPI"
def aidiyetGrup : String := "AIDIYET_GRUP"
def islemGrupAidiyetGrup : String := "ISLEM_GRUP_AIDIYET_GRUP"

structure IslemGrupKullanici where
  kullaniciId : Option String
  islemGrupId : Option ℤ
  deriving DecidableEq, Repr

structure IslemGrup where
  id : ℤ
  deriving DecidableEq, Repr

structure IslemGrupOrganizasyon where
  islemGrupId : Option ℤ
  organizasyonId : Option String
  deriving DecidableEq, Repr

/-- The groups of the realm and the tables the mapper queries. A group that is found has the id
asked for, so none is found under a null id. -/
structure KeycloakSession where
  getGroupById : Option String → Option GroupModel
  islemGrupKullanici : List IslemGrupKullanici
  islemGrup : List IslemGrup
  islemGrupOrganizasyon : List IslemGrupOrganizasyon
  id_eq : ∀ id g, getGroupById id = some g → some g.id = id

/-- Two references to one group are equal, in the groups of the user as in the realm. -/
structure UserSessionModel (keycloakSession : KeycloakSession) where
  user : UserModel
  membership : ∀ g ∈ user.groups, ∀ g' ∈ user.groups, g.id = g'.id → g = g'
  resolved : ∀ g ∈ user.groups, ∀ g', keycloakSession.getGroupById (some g.id) = some g' → g' = g

abbrev HashOrder := IterationOrder (Option GroupModel)

def groupKey (group : Option GroupModel) : Option String := group.map GroupModel.id

def getUserWithAttributes (user : UserModel) : Except JavaException Attributes :=
  user.attributes.entries.foldlM (fun userWithAttributes entry => do
    let value ← getZero entry.2
    return userWithAttributes.insert entry.1 (some value)) ∅

def UserAttributesMapper.setClaim (user : UserModel) : Except JavaException Attributes :=
  getUserWithAttributes user

def groupsOf (user : UserModel) : KeyedSet groupKey := .ofList groupKey (user.groups.map some)

def GroupsWithAttributesMapper.setClaim (order : HashOrder) (user : UserModel) :
    Except JavaException Claim :=
  getGroupsWithAttributes (order.iterate (groupsOf user).elems)

/-- The `SELECT` over the three joined tables. -/
def groupsIdsOfUser (keycloakSession : KeycloakSession) (kullaniciId : String) :
    List (Option String) :=
  keycloakSession.islemGrupKullanici.flatMap fun kullanici =>
    if kullanici.kullaniciId = some kullaniciId then
      keycloakSession.islemGrup.flatMap fun grup =>
        if kullanici.islemGrupId = some grup.id then
          (keycloakSession.islemGrupOrganizasyon.filter fun organizasyon =>
            decide (organizasyon.islemGrupId = some grup.id)).map (·.organizasyonId)
        else []
    else []

def getActionGroupsOfUser (keycloakSession : KeycloakSession) (user : UserModel) :
    KeyedSet groupKey :=
  .ofList groupKey ((groupsIdsOfUser keycloakSession user.id).map keycloakSession.getGroupById)

def ActionableGroupsMapper.setClaim (order : HashOrder) (keycloakSession : KeycloakSession)
    (user : UserModel) : Except JavaException Claim :=
  let userGroups := groupsOf user
  match user.attributes.lookup kullaniciGrupIslemTipi with
  | some actionGroupType =>
    if aidiyetGrup ∈ actionGroupType then
      getGroupsWithAttributes (order.iterate userGroups.elems)
    else if islemGrupAidiyetGrup ∈ actionGroupType then
      let listOfActionGroups := getActionGroupsOfUser keycloakSession user
      let all := userGroups.addAll (order.iterate listOfActionGroups.elems)
      getGroupsWithAttributes (order.iterate all.elems)
    else
      getGroupsWithAttributes (order.iterate (getActionGroupsOfUser keycloakSession user).elems)
  | none =>
    getGroupsWithAttributes (order.iterate (getActionGroupsOfUser keycloakSession user).elems)

/-! ## The groups in the sets -/

variable {keycloakSession : KeycloakSession}

/-- What the query names, null for an id without a group. -/
def actionGroups (keycloakSession : KeycloakSession) (user : UserModel) :
    List (Option GroupModel) :=
  (groupsIdsOfUser keycloakSession user.id).map keycloakSession.getGroupById

theorem id_of_actionGroup {user : UserModel} {g : GroupModel}
    (h : some g ∈ actionGroups keycloakSession user) :
    keycloakSession.getGroupById (some g.id) = some g := by
  obtain ⟨id, _, hg⟩ := List.mem_map.mp h
  rwa [keycloakSession.id_eq id g hg]

/-- Over everything the mappers put into a set, the id of a group determines it. -/
theorem identifies_groups (userSession : UserSessionModel keycloakSession) :
    Identifies groupKey (userSession.user.groups.map some ++
      actionGroups keycloakSession userSession.user) := by
  have mixed {g g' : GroupModel} (hg : g ∈ userSession.user.groups)
      (hg' : some g' ∈ actionGroups keycloakSession userSession.user) (hid : g.id = g'.id) :
      g' = g := by
    have hr := id_of_actionGroup hg'
    rw [← hid] at hr
    exact userSession.resolved g hg g' hr
  intro x hx y hy hk
  cases x with
  | none =>
    cases y with
    | none => rfl
    | some _ => cases hk
  | some g =>
    cases y with
    | none => cases hk
    | some g' =>
      have hid : g.id = g'.id := Option.some.inj hk
      refine congrArg some ?_
      simp only [List.mem_append, List.mem_map, Option.some.injEq, exists_eq_right] at hx hy
      rcases hx with hx | hx
      · rcases hy with hy | hy
        · exact userSession.membership g hx g' hy hid
        · exact (mixed hx hy hid).symm
      · rcases hy with hy | hy
        · exact mixed hy hx hid.symm
        · have hr := id_of_actionGroup hx
          rw [hid, id_of_actionGroup hy] at hr
          exact (Option.some.inj hr).symm

theorem mem_groupsOf (userSession : UserSessionModel keycloakSession) {x : Option GroupModel} :
    x ∈ (groupsOf userSession.user).elems ↔ x ∈ userSession.user.groups.map some :=
  KeyedSet.mem_ofList ((identifies_groups userSession).of_subset (List.subset_append_left _ _))

theorem mem_getActionGroupsOfUser (userSession : UserSessionModel keycloakSession)
    {x : Option GroupModel} : x ∈ (getActionGroupsOfUser keycloakSession userSession.user).elems ↔
      x ∈ actionGroups keycloakSession userSession.user :=
  KeyedSet.mem_ofList ((identifies_groups userSession).of_subset (List.subset_append_right _ _))

theorem mem_combined (order : HashOrder) (userSession : UserSessionModel keycloakSession)
    {x : Option GroupModel} :
    x ∈ ((groupsOf userSession.user).addAll
        (order.iterate (getActionGroupsOfUser keycloakSession userSession.user).elems)).elems ↔
      x ∈ userSession.user.groups.map some ++ actionGroups keycloakSession userSession.user := by
  have hsub : (groupsOf userSession.user).elems ++
      order.iterate (getActionGroupsOfUser keycloakSession userSession.user).elems ⊆
      userSession.user.groups.map some ++ actionGroups keycloakSession userSession.user := by
    intro y hy
    rw [List.mem_append, order.mem_iterate, mem_groupsOf, mem_getActionGroupsOfUser] at hy
    exact List.mem_append.mpr hy
  rw [KeyedSet.mem_addAll ((identifies_groups userSession).of_subset hsub), mem_groupsOf,
    order.mem_iterate, mem_getActionGroupsOfUser, List.mem_append]

end TokenClaims
