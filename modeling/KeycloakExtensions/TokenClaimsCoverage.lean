import KeycloakExtensions.GroupClaimFold
import KeycloakExtensions.TokenClaims
import Mathlib.Data.Set.List

/-! # Which groups the claims of a token cover

Each mapper is compared with the set of groups its mode covers. In the combined mode the claim
is the union of the two single ones; in every mode one attribute without a value, or one id
without a group, leaves the user without a token. -/
namespace TokenClaimsCoverage

open KeycloakModel LibraryFallible LibraryPutFold LibraryKeyedSet GroupClaim GroupClaimFold
  TokenClaims

variable {keycloakSession : KeycloakSession}

/-- The groups the actionable claim is made of, null for an id without a group. -/
def coveredGroups (keycloakSession : KeycloakSession) (user : UserModel) :
    List (Option GroupModel) :=
  match user.attributes.lookup kullaniciGrupIslemTipi with
  | some actionGroupType =>
    if aidiyetGrup ∈ actionGroupType then user.groups.map some
    else if islemGrupAidiyetGrup ∈ actionGroupType then
      user.groups.map some ++ actionGroups keycloakSession user
    else actionGroups keycloakSession user
  | none => actionGroups keycloakSession user

/-- Whatever the mode and the orders, the fold runs over the covered groups. -/
theorem actionable_setClaim_covers (order : HashOrder)
    (userSession : UserSessionModel keycloakSession) :
    ∃ l, ActionableGroupsMapper.setClaim order keycloakSession userSession.user =
        getGroupsWithAttributes l ∧
      ∀ x, x ∈ l ↔ x ∈ coveredGroups keycloakSession userSession.user := by
  simp only [ActionableGroupsMapper.setClaim, coveredGroups]
  cases userSession.user.attributes.lookup kullaniciGrupIslemTipi with
  | none =>
    refine ⟨_, rfl, fun x => ?_⟩
    rw [order.mem_iterate, mem_getActionGroupsOfUser]
  | some actionGroupType =>
    by_cases hmembership : aidiyetGrup ∈ actionGroupType
    · simp only [if_pos hmembership]
      refine ⟨_, rfl, fun x => ?_⟩
      rw [order.mem_iterate, mem_groupsOf]
    by_cases hcombined : islemGrupAidiyetGrup ∈ actionGroupType
    · simp only [if_neg hmembership, if_pos hcombined]
      refine ⟨_, rfl, fun x => ?_⟩
      rw [order.mem_iterate, mem_combined]
    · simp only [if_neg hmembership, if_neg hcombined]
      refine ⟨_, rfl, fun x => ?_⟩
      rw [order.mem_iterate, mem_getActionGroupsOfUser]

theorem exists_map_some {α : Type} {l : List (Option α)} (h : ∀ x ∈ l, ∃ a, x = some a) :
    ∃ as : List α, l = as.map some := by
  have present : l ∈ Set.range (List.map (some : α → Option α)) := by
    rw [Set.range_list_map]
    intro x hx
    obtain ⟨a, rfl⟩ := h x hx
    exact ⟨a, rfl⟩
  obtain ⟨as, rfl⟩ := present
  exact ⟨as, rfl⟩

/-- The claim over null-free groups, by the set of groups only. -/
theorem getGroupsWithAttributes_of_members {groups : List GroupModel} (h : NamedGroups groups)
    {l : List (Option GroupModel)} (hm : ∀ x, x ∈ l ↔ x ∈ groups.map some) :
    getGroupsWithAttributes l = .ok (claimOf groups) := by
  obtain ⟨l, rfl⟩ := exists_map_some fun x hx => by
    obtain ⟨g, _, rfl⟩ := List.mem_map.mp ((hm x).mp hx)
    exact ⟨g, rfl⟩
  have hsame (g : GroupModel) : g ∈ l ↔ g ∈ groups := by
    simpa using hm (some g)
  have hl := h.of_members fun g hg => (hsame g).mp hg
  rw [getGroupsWithAttributes_eq hl.valued, claimOf_members h hsame]

/-! ## The combined mode -/

def existingActionGroups (keycloakSession : KeycloakSession) (user : UserModel) :
    List GroupModel :=
  (groupsIdsOfUser keycloakSession user.id).filterMap keycloakSession.getGroupById

def ownAndActionGroups (keycloakSession : KeycloakSession) (user : UserModel) : List GroupModel :=
  user.groups ++ existingActionGroups keycloakSession user

def AllResolve (keycloakSession : KeycloakSession) (user : UserModel) : Prop :=
  ∀ id ∈ groupsIdsOfUser keycloakSession user.id, ∃ g, keycloakSession.getGroupById id = some g

def CombinedMode (user : UserModel) : Prop :=
  ∃ actionGroupType, user.attributes.lookup kullaniciGrupIslemTipi = some actionGroupType ∧
    islemGrupAidiyetGrup ∈ actionGroupType ∧ aidiyetGrup ∉ actionGroupType

def withoutType (user : UserModel) : UserModel :=
  { user with attributes := user.attributes.erase kullaniciGrupIslemTipi }

def withoutTypeSession (userSession : UserSessionModel keycloakSession) :
    UserSessionModel keycloakSession where
  user := withoutType userSession.user
  membership := userSession.membership
  resolved := userSession.resolved

/-- An entry of the claim for the group. -/
def EntryFor (claim : Claim) (g : GroupModel) (name : String) : Prop :=
  ∃ attrs, claim.lookup name = some attrs ∧ attrs.lookup "id" = some (some g.id)

theorem mem_actionGroups {user : UserModel} (h : AllResolve keycloakSession user)
    {x : Option GroupModel} : x ∈ actionGroups keycloakSession user ↔
      x ∈ (existingActionGroups keycloakSession user).map some := by
  simp only [actionGroups, existingActionGroups, List.mem_map, List.mem_filterMap]
  constructor
  · rintro ⟨id, hid, rfl⟩
    obtain ⟨g, hg⟩ := h id hid
    exact ⟨g, ⟨id, hid, hg⟩, hg.symm⟩
  · rintro ⟨g, ⟨id, hid, hg⟩, rfl⟩
    exact ⟨id, hid, hg⟩

theorem coveredGroups_withoutType (user : UserModel) :
    coveredGroups keycloakSession (withoutType user) = actionGroups keycloakSession user := by
  simp only [coveredGroups, withoutType, AList.lookup_erase]
  rfl

theorem coveredGroups_combined {user : UserModel} (h : CombinedMode user) :
    coveredGroups keycloakSession user =
      user.groups.map some ++ actionGroups keycloakSession user := by
  obtain ⟨actionGroupType, hl, hcombined, hmembership⟩ := h
  simp only [coveredGroups, hl, if_neg hmembership, if_pos hcombined]

theorem declares_unique_entry {groups : List GroupModel} {claim : Claim}
    (hd : Declares groups claim) (hi : Identifies GroupModel.id groups) {g : GroupModel}
    (hg : g ∈ groups) : ∃! name, EntryFor claim g name := by
  obtain ⟨attrs, hl, hf⟩ := hd.entries g hg
  refine ⟨g.name, ⟨attrs, hl, hf "id"⟩, ?_⟩
  rintro name ⟨attrs', hl', hid⟩
  obtain ⟨g', hg', rfl⟩ := (hd.names name).mp (Finmap.mem_of_lookup_eq_some hl')
  obtain ⟨attrs'', hl'', fields'⟩ := hd.entries g' hg'
  rw [hl'] at hl''
  cases hl''
  have hfield := fields' "id"
  rw [hfield] at hid
  have hids : g'.id = g.id := Option.some.inj (Option.some.inj hid)
  rw [hi g' hg' g hg hids]

theorem identifies_existing (userSession : UserSessionModel keycloakSession) :
    Identifies GroupModel.id (ownAndActionGroups keycloakSession userSession.user) := by
  have reference {g : GroupModel}
      (hg : g ∈ ownAndActionGroups keycloakSession userSession.user) : some g ∈
      userSession.user.groups.map some ++ actionGroups keycloakSession userSession.user := by
    rcases List.mem_append.mp hg with hg | hg
    · exact List.mem_append_left _ (List.mem_map.mpr ⟨g, hg, rfl⟩)
    · obtain ⟨id, hid, hr⟩ := List.mem_filterMap.mp hg
      exact List.mem_append_right _ (List.mem_map.mpr ⟨id, hid, hr⟩)
  intro g hg g' hg' hid
  have hkey : groupKey (some g) = groupKey (some g') := congrArg some hid
  exact Option.some.inj
    (identifies_groups userSession _ (reference hg) _ (reference hg') hkey)

theorem union_swapped {groups others : List GroupModel} (h : NamedGroups (groups ++ others)) :
    claimOf (groups ++ others) = claimOf others ∪ claimOf groups := by
  have hm (g : GroupModel) : g ∈ others ++ groups ↔ g ∈ groups ++ others := by
    simp only [List.mem_append]
    exact or_comm
  have hs := h.of_members fun g hg => (hm g).mp hg
  rw [← claimOf_members h hm]
  exact putAll_append_union hs.coherent

theorem combined_mode_is_union (order order' order'' : HashOrder)
    (userSession : UserSessionModel keycloakSession) (mode : CombinedMode userSession.user)
    (resolve : AllResolve keycloakSession userSession.user)
    (named : NamedGroups (ownAndActionGroups keycloakSession userSession.user)) :
    ∃ membership action,
      GroupsWithAttributesMapper.setClaim order userSession.user = .ok membership ∧
      ActionableGroupsMapper.setClaim order' keycloakSession (withoutType userSession.user) =
        .ok action ∧
      ActionableGroupsMapper.setClaim order'' keycloakSession userSession.user =
        .ok (membership ∪ action) ∧
      membership ∪ action = action ∪ membership ∧
      Declares (ownAndActionGroups keycloakSession userSession.user) (membership ∪ action) ∧
      ∀ g ∈ ownAndActionGroups keycloakSession userSession.user,
        ∃! name, EntryFor (membership ∪ action) g name := by
  rw [ownAndActionGroups] at named
  have hM := named.of_members fun g hg => List.mem_append_left _ hg
  have hA := named.of_members fun g hg => List.mem_append_right userSession.user.groups hg
  have hunion := putAll_append_union named.coherent
  obtain ⟨actions, hx, hactions⟩ :=
    actionable_setClaim_covers order' (withoutTypeSession userSession)
  obtain ⟨all, hx', hall⟩ := actionable_setClaim_covers order'' userSession
  have hcombined (x : Option GroupModel) : x ∈ all ↔ x ∈ (userSession.user.groups ++
      existingActionGroups keycloakSession userSession.user).map some := by
    rw [hall, coveredGroups_combined mode, List.mem_append, mem_actionGroups resolve,
      ← List.mem_append, List.map_append]
  have hdeclares := claimOf_declares named
  rw [claimOf, hunion] at hdeclares
  refine ⟨_, _, ?_, hx.trans ?_, hx'.trans ?_, ?_, hdeclares, ?_⟩
  · refine getGroupsWithAttributes_of_members hM fun x => ?_
    rw [order.mem_iterate, mem_groupsOf]
  · refine getGroupsWithAttributes_of_members hA fun x => ?_
    rw [hactions, withoutTypeSession, coveredGroups_withoutType, mem_actionGroups resolve]
  · rw [getGroupsWithAttributes_of_members named hcombined]
    exact congrArg Except.ok hunion
  · exact hunion.symm.trans (union_swapped named)
  · intro g hg
    exact declares_unique_entry hdeclares (identifies_existing userSession) hg

def hall : GroupModel := ⟨"g3", "hall", some "g1", ∅⟩

/-- The user `u1` may act in `team` and `hall`; the tables also name a group `g7`, which does
not exist, for the user `u7`. -/
def actionSession : KeycloakSession where
  getGroupById id := [team, office, hall].find? fun g => decide (some g.id = id)
  islemGrupKullanici := [⟨some "u1", some 1⟩, ⟨some "u7", some 2⟩]
  islemGrup := [⟨1⟩, ⟨2⟩]
  islemGrupOrganizasyon :=
    [⟨some 1, some "g1"⟩, ⟨some 1, some "g3"⟩, ⟨some 2, some "g7"⟩, ⟨some 2, some "g3"⟩]
  id_eq id g h := by simpa using List.find?_some h

def memberSession (id : String) (attrs : AttributeMap) : UserSessionModel actionSession where
  user := ⟨id, "joe", none, attrs, [team, office], [], ∅⟩
  membership g hg g' hg' hid := by
    have distinct : ([team, office].map GroupModel.id).Nodup := by decide
    exact List.inj_on_of_nodup_map distinct hg hg' hid
  resolved g hg g' hr := by
    have distinct : ([team, office, hall].map GroupModel.id).Nodup := by decide
    have hm : g ∈ [team, office, hall] := List.mem_append_left [hall] hg
    have hfound : [team, office, hall].find? (fun x => decide (some x.id = some g.id)) = some g' :=
      hr
    have hm' : g' ∈ [team, office, hall] := List.mem_of_find?_eq_some hfound
    exact List.inj_on_of_nodup_map distinct hm' hm (Option.some.inj (actionSession.id_eq _ _ hr))

def combinedUser : UserSessionModel actionSession :=
  memberSession "u1" [⟨kullaniciGrupIslemTipi, [islemGrupAidiyetGrup]⟩].toAList

theorem combined_mode_of_overlap :
    ∃ membership action,
      GroupsWithAttributesMapper.setClaim insertionOrder combinedUser.user = .ok membership ∧
      ActionableGroupsMapper.setClaim insertionOrder actionSession
        (withoutType combinedUser.user) = .ok action ∧
      ActionableGroupsMapper.setClaim insertionOrder actionSession combinedUser.user =
        .ok (membership ∪ action) ∧
      ∃! name, EntryFor (membership ∪ action) team name := by
  have distinct : ([team, office, hall].map GroupModel.name).Nodup := by decide
  have named : NamedGroups [team, office, team, hall] :=
    ⟨sameGroup_of_nodup distinct (by simp), by decide, by decide⟩
  have resolve : AllResolve actionSession combinedUser.user := by
    intro id hid
    have hids : groupsIdsOfUser actionSession "u1" = [some "g1", some "g3"] := by decide
    rw [show combinedUser.user.id = "u1" from rfl, hids] at hid
    simp only [List.mem_cons, List.not_mem_nil, or_false] at hid
    rcases hid with rfl | rfl
    · exact ⟨team, rfl⟩
    · exact ⟨hall, rfl⟩
  obtain ⟨membership, action, hm, ha, hu, _, _, hentry⟩ :=
    combined_mode_is_union insertionOrder insertionOrder insertionOrder combinedUser
      ⟨_, rfl, by decide, by decide⟩ resolve named
  exact ⟨membership, action, hm, ha, hu, hentry team List.mem_cons_self⟩

/-! ## One bad record -/

/-- The claims of all three mappers come about and carry what there is to carry. -/
structure TokenComplete (order : HashOrder) (keycloakSession : KeycloakSession)
    (user : UserModel) : Prop where
  attributes : ∃ claim, UserAttributesMapper.setClaim user = .ok claim ∧
    ∀ key value, getFirst user.attributes key = some value → claim.lookup key = some (some value)
  membership : ∃ claim, GroupsWithAttributesMapper.setClaim order user = .ok claim ∧
    ∀ g ∈ user.groups, g.name ∈ claim
  actionable : ∃ claim, ActionableGroupsMapper.setClaim order keycloakSession user = .ok claim ∧
    ∀ g, some g ∈ coveredGroups keycloakSession user → g.name ∈ claim

def UsesActionGroups (user : UserModel) : Prop :=
  ∀ actionGroupType, user.attributes.lookup kullaniciGrupIslemTipi = some actionGroupType →
    aidiyetGrup ∉ actionGroupType

/-- Every attribute has a value, and every id the actionable claim asks for has a group. -/
structure NoBadRecord (keycloakSession : KeycloakSession) (user : UserModel) : Prop where
  user_valued : ∀ entry ∈ user.attributes.entries, entry.2 ≠ []
  groups_valued : ∀ g ∈ user.groups, AllValued g
  action_groups : UsesActionGroups user → ∀ id ∈ groupsIdsOfUser keycloakSession user.id,
    ∃ g, keycloakSession.getGroupById id = some g ∧ AllValued g

theorem present_map_some {groups : List GroupModel} :
    (∀ x ∈ groups.map some, Present x) ↔ ∀ g ∈ groups, AllValued g := by
  rw [List.forall_mem_map]
  constructor
  · intro h g hg
    obtain ⟨g', he, hv⟩ := h g hg
    exact Option.some.inj he ▸ hv
  · intro h g hg
    exact ⟨g, rfl, h g hg⟩

/-- What the covered groups need, mode by mode. -/
theorem present_covered_iff (user : UserModel) (h : ∀ g ∈ user.groups, AllValued g) :
    (∀ x ∈ coveredGroups keycloakSession user, Present x) ↔
      (UsesActionGroups user → ∀ x ∈ actionGroups keycloakSession user, Present x) := by
  have hown := present_map_some.mpr h
  simp only [coveredGroups, UsesActionGroups]
  cases user.attributes.lookup kullaniciGrupIslemTipi with
  | none => simp
  | some actionGroupType =>
    by_cases hmembership : aidiyetGrup ∈ actionGroupType
    · simp only [if_pos hmembership]
      refine ⟨fun _ huses => (huses _ rfl hmembership).elim, fun _ => hown⟩
    have huses : ∀ types, some actionGroupType = some types → aidiyetGrup ∉ types := by
      rintro types he
      cases he
      exact hmembership
    by_cases hcombined : islemGrupAidiyetGrup ∈ actionGroupType
    · simp only [if_neg hmembership, if_pos hcombined, List.forall_mem_append]
      exact ⟨fun hall _ => hall.2, fun hall => ⟨hown, hall huses⟩⟩
    · simp only [if_neg hmembership, if_neg hcombined]
      exact ⟨fun hall _ => hall, fun hall => hall huses⟩

/-- A claim over a set of references comes about, with an entry for each of its groups,
exactly when no reference is null and every attribute has a value. -/
theorem claim_covers_iff {l l' : List (Option GroupModel)} (hm : ∀ x, x ∈ l ↔ x ∈ l') :
    (∃ claim, getGroupsWithAttributes l = .ok claim ∧ ∀ g, some g ∈ l' → g.name ∈ claim) ↔
      ∀ x ∈ l', Present x := by
  constructor
  · rintro ⟨claim, hx, _⟩ x hm'
    exact getGroupsWithAttributes_ok_iff.mp ⟨claim, hx⟩ x ((hm x).mpr hm')
  · intro h
    obtain ⟨groups, rfl⟩ := exists_map_some fun x hx => by
      obtain ⟨g, hg, _⟩ := h x ((hm x).mp hx)
      exact ⟨g, hg⟩
    have hvalued : ∀ g ∈ groups, AllValued g :=
      present_map_some.mp fun x hx => h x ((hm x).mp hx)
    refine ⟨claimOf groups, getGroupsWithAttributes_eq hvalued, fun g hg => ?_⟩
    exact mem_putAll_empty.mpr ⟨g, by simpa using (hm (some g)).mpr hg, rfl⟩

theorem user_claim_iff (user : UserModel) :
    (∃ claim, UserAttributesMapper.setClaim user = .ok claim ∧
      ∀ key value, getFirst user.attributes key = some value →
        claim.lookup key = some (some value)) ↔
      ∀ entry ∈ user.attributes.entries, entry.2 ≠ [] := by
  constructor
  · rintro ⟨claim, hx, _⟩
    exact (foldlM_ok_iff putFirst_ok_iff ∅).mp ⟨claim, hx⟩
  · intro h
    refine ⟨_, putFirst_eq h ∅, fun key value hfirst => ?_⟩
    obtain ⟨values, hl, hv⟩ := Option.bind_eq_some_iff.mp hfirst
    have he : (⟨key, values⟩ : (_ : String) × List String) ∈ user.attributes.entries :=
      AList.mem_lookup_iff.mp hl
    have hput := lookup_putAll_mem (m := ∅) (entries_coherent user.attributes) he
    rw [← hv]
    exact hput

theorem token_complete_iff (order : HashOrder) (userSession : UserSessionModel keycloakSession) :
    TokenComplete order keycloakSession userSession.user ↔
      NoBadRecord keycloakSession userSession.user := by
  obtain ⟨l, hx, hl⟩ := actionable_setClaim_covers order userSession
  have hown (x : Option GroupModel) : x ∈ order.iterate (groupsOf userSession.user).elems ↔
      x ∈ userSession.user.groups.map some := by
    rw [order.mem_iterate, mem_groupsOf]
  have hmembership := claim_covers_iff hown
  have hactionable := claim_covers_iff hl
  have hids : (∀ x ∈ actionGroups keycloakSession userSession.user, Present x) ↔
      ∀ id ∈ groupsIdsOfUser keycloakSession userSession.user.id,
        ∃ g, keycloakSession.getGroupById id = some g ∧ AllValued g := List.forall_mem_map
  constructor
  · rintro ⟨hattributes, ⟨claim, hclaim, hnames⟩, hcovered⟩
    have hvalued := present_map_some.mp
      (hmembership.mp ⟨claim, hclaim, by simpa using hnames⟩)
    rw [hx] at hcovered
    refine ⟨(user_claim_iff _).mp hattributes, hvalued, ?_⟩
    rw [← hids]
    exact (present_covered_iff _ hvalued).mp (hactionable.mp hcovered)
  · rintro ⟨huser, hvalued, haction⟩
    rw [← hids] at haction
    refine ⟨(user_claim_iff _).mpr huser, ?_, ?_⟩
    · obtain ⟨claim, hclaim, hnames⟩ := hmembership.mpr (present_map_some.mpr hvalued)
      exact ⟨claim, hclaim, by simpa using hnames⟩
    · rw [hx]
      exact hactionable.mpr ((present_covered_iff _ hvalued).mpr haction)

def unvaluedUser : UserModel :=
  ⟨"u1", "joe", none, [⟨"phone", ["5"]⟩, ⟨"title", []⟩].toAList, [], [], ∅⟩

theorem bad_record_blocks_token :
    UserAttributesMapper.setClaim unvaluedUser = .error .indexOutOfBounds ∧
    ActionableGroupsMapper.setClaim insertionOrder actionSession (memberSession "u7" ∅).user =
      .error .nullPointer ∧
    ¬ TokenComplete insertionOrder actionSession (memberSession "u7" ∅).user := by
  have blocked : ActionableGroupsMapper.setClaim insertionOrder actionSession
      (memberSession "u7" ∅).user = .error .nullPointer := rfl
  refine ⟨rfl, blocked, ?_⟩
  rintro ⟨_, _, claim, hx, _⟩
  rw [blocked] at hx
  cases hx

end TokenClaimsCoverage
