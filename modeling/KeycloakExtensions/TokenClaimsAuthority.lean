import KeycloakExtensions.TokenClaimsCoverage

/-! # On what authority a group stands in a token

A group is in the actionable claim because the user is a member, or because rows of the three
tables lead from the user to it. Nothing else in the database or in the order of its answers
has a say. -/
namespace TokenClaimsAuthority

open KeycloakModel LibraryFallible LibraryPutFold LibraryKeyedSet GroupClaim GroupClaimFold
  TokenClaims TokenClaimsCoverage

variable {keycloakSession keycloakSession' : KeycloakSession} {user user' : UserModel}
  {kullaniciId : String} {id : Option String}

/-! ## The paths through the tables -/

/-- Rows of the three tables lead from the user to the id of a group. -/
def TablePath (keycloakSession : KeycloakSession) (kullaniciId : String)
    (organizasyonId : Option String) : Prop :=
  ∃ kullanici ∈ keycloakSession.islemGrupKullanici, ∃ grup ∈ keycloakSession.islemGrup,
    ∃ organizasyon ∈ keycloakSession.islemGrupOrganizasyon,
      kullanici.kullaniciId = some kullaniciId ∧ kullanici.islemGrupId = some grup.id ∧
      organizasyon.islemGrupId = some grup.id ∧ organizasyon.organizasyonId = organizasyonId

theorem mem_groupsIdsOfUser : id ∈ groupsIdsOfUser keycloakSession kullaniciId ↔
    TablePath keycloakSession kullaniciId id := by
  simp only [groupsIdsOfUser, List.mem_flatMap, List.mem_ite_nil_right, List.mem_map,
    List.mem_filter, decide_eq_true_eq]
  constructor
  · intro hcase
    rcases hcase with ⟨kullanici, hk, hu, grup, hg, hkg, organizasyon, ⟨ho, hog⟩, hid⟩
    exact ⟨kullanici, hk, grup, hg, organizasyon, ho, hu, hkg, hog, hid⟩
  · intro hcase
    rcases hcase with ⟨kullanici, hk, grup, hg, organizasyon, ho, hu, hkg, hog, hid⟩
    exact ⟨kullanici, hk, hu, grup, hg, hkg, organizasyon, ⟨ho, hog⟩, hid⟩

def MembershipCounts (user : UserModel) : Prop :=
  ∃ types, user.attributes.lookup kullaniciGrupIslemTipi = some types ∧
    (aidiyetGrup ∈ types ∨ islemGrupAidiyetGrup ∈ types)

/-- Why the actionable claim may name the group, in the mode of the user. -/
def Authorised (keycloakSession : KeycloakSession) (user : UserModel) (g : GroupModel) : Prop :=
  (MembershipCounts user ∧ g ∈ user.groups) ∨
  (UsesActionGroups user ∧ ∃ id, TablePath keycloakSession user.id id ∧
    keycloakSession.getGroupById id = some g)

theorem mem_actionGroups_iff {x : Option GroupModel} : x ∈ actionGroups keycloakSession user ↔
    ∃ id, TablePath keycloakSession user.id id ∧ keycloakSession.getGroupById id = x := by
  simp only [actionGroups, List.mem_map, mem_groupsIdsOfUser]

theorem mem_coveredGroups {x : Option GroupModel} : x ∈ coveredGroups keycloakSession user ↔
    (MembershipCounts user ∧ x ∈ user.groups.map some) ∨
    (UsesActionGroups user ∧ x ∈ actionGroups keycloakSession user) := by
  simp only [coveredGroups, MembershipCounts, UsesActionGroups]
  cases user.attributes.lookup kullaniciGrupIslemTipi with
  | none => simp
  | some types =>
    by_cases hmembership : aidiyetGrup ∈ types
    · simp [hmembership]
    by_cases hcombined : islemGrupAidiyetGrup ∈ types
    · simp [hmembership, hcombined]
    · simp [hmembership, hcombined]

theorem some_mem_coveredGroups {g : GroupModel} :
    some g ∈ coveredGroups keycloakSession user ↔ Authorised keycloakSession user g := by
  rw [mem_coveredGroups, mem_actionGroups_iff, Authorised]
  simp

/-! ## What a built claim is -/

theorem claim_of_built {l : List (Option GroupModel)} {claim : Claim}
    (h : getGroupsWithAttributes l = .ok claim) :
    ∃ groups : List GroupModel, l = groups.map some ∧ (∀ g ∈ groups, AllValued g) ∧
      claim = claimOf groups := by
  have present := getGroupsWithAttributes_ok_iff.mp ⟨claim, h⟩
  obtain ⟨groups, rfl⟩ := exists_map_some fun x hx => by
    obtain ⟨g, hg, _⟩ := present x hx
    exact ⟨g, hg⟩
  have valued := present_map_some.mp present
  rw [getGroupsWithAttributes_eq valued] at h
  exact ⟨groups, rfl, valued, (Except.ok.inj h).symm⟩

/-- The names in the actionable claim are those of the authorised groups, and each entry carries
the attributes of one of them. -/
theorem actionable_claim_authorised (order : HashOrder)
    (userSession : UserSessionModel keycloakSession) (claim : Claim)
    (built : ActionableGroupsMapper.setClaim order keycloakSession userSession.user = .ok claim) :
    (∀ name, name ∈ claim ↔ ∃ g, g.name = name ∧ Authorised keycloakSession userSession.user g) ∧
    ∀ name attrs, claim.lookup name = some attrs →
      ∃ g, g.name = name ∧ Authorised keycloakSession userSession.user g ∧ attrs = fields g := by
  obtain ⟨l, hx, hl⟩ := actionable_setClaim_covers order userSession
  rw [hx] at built
  obtain ⟨groups, rfl, _, rfl⟩ := claim_of_built built
  have hgroups (g : GroupModel) :
      g ∈ groups ↔ Authorised keycloakSession userSession.user g := by
    rw [← some_mem_coveredGroups, ← hl]
    simp
  constructor
  · intro name
    rw [claimOf, mem_putAll_empty]
    constructor
    · intro hcase
      rcases hcase with ⟨g, hg, hn⟩
      exact ⟨g, hn, (hgroups g).mp hg⟩
    · intro hcase
      rcases hcase with ⟨g, hn, hg⟩
      exact ⟨g, (hgroups g).mpr hg, hn⟩
  · intro name attrs hlookup
    obtain ⟨g, hg, hn, hf⟩ := lookup_claimOf hlookup
    exact ⟨g, hn, (hgroups g).mp hg, hf.symm⟩

theorem combined_claim_authorised :
    ∃ claim, ActionableGroupsMapper.setClaim insertionOrder actionSession combinedUser.user =
      .ok claim ∧ ∀ name, name ∈ claim ↔
        ∃ g, g.name = name ∧ Authorised actionSession combinedUser.user g := by
  have built : ∃ claim, ActionableGroupsMapper.setClaim insertionOrder actionSession
      combinedUser.user = .ok claim := ⟨_, rfl⟩
  obtain ⟨claim, hclaim⟩ := built
  exact ⟨claim, hclaim,
    (actionable_claim_authorised insertionOrder combinedUser claim hclaim).1⟩

/-! ## What the claim hides -/

/-- The id tells the groups apart that may stand in the claim. -/
theorem authorised_identified (userSession : UserSessionModel keycloakSession) {g g' : GroupModel}
    (hg : Authorised keycloakSession userSession.user g)
    (hg' : Authorised keycloakSession userSession.user g') (hid : g.id = g'.id) : g = g' := by
  have reference {g : GroupModel} (hg : Authorised keycloakSession userSession.user g) :
      some g ∈ userSession.user.groups.map some ++
        actionGroups keycloakSession userSession.user := by
    rcases hg with ⟨_, hmember⟩ | ⟨_, id, path, hr⟩
    · exact List.mem_append_left _ (List.mem_map.mpr ⟨g, hmember, rfl⟩)
    · exact List.mem_append_right _ (mem_actionGroups_iff.mpr ⟨id, path, hr⟩)
  have hkey : groupKey (some g) = groupKey (some g') := congrArg some hid
  have hsame := identifies_groups userSession _ (reference hg) _ (reference hg') hkey
  exact Option.some.inj hsame

/-- A claim that comes about has an entry for every authorised group, whatever the order, exactly
when no two of them share their name. -/
theorem every_authorised_named_iff (order : HashOrder)
    (userSession : UserSessionModel keycloakSession) (claim : Claim)
    (built : ActionableGroupsMapper.setClaim order keycloakSession userSession.user = .ok claim)
    (unreserved : ∀ g, Authorised keycloakSession userSession.user g →
      "id" ∉ g.attributes ∧ "parent_id" ∉ g.attributes) :
    (∀ g, Authorised keycloakSession userSession.user g → ∃ name, EntryFor claim g name) ↔
      ∀ g g', Authorised keycloakSession userSession.user g →
        Authorised keycloakSession userSession.user g' → g.name = g'.name → g = g' := by
  obtain ⟨l, hx, hl⟩ := actionable_setClaim_covers order userSession
  rw [hx] at built
  obtain ⟨groups, rfl, valued, rfl⟩ := claim_of_built built
  have hgroups (g : GroupModel) :
      g ∈ groups ↔ Authorised keycloakSession userSession.user g := by
    rw [← some_mem_coveredGroups, ← hl]
    simp
  have hids (g : GroupModel) (hg : g ∈ groups) :
      (fields g).lookup "id" = some (some g.id) := by
    have hfield := lookup_fields_declared (valued g hg) (unreserved g ((hgroups g).mp hg)) "id"
    exact hfield.trans (if_pos rfl)
  constructor
  · intro named
    have complete : ∀ g ∈ groups, (claimOf groups).lookup g.name = some (fields g) := by
      intro g hg
      obtain ⟨name, attrs, hlookup, hid⟩ := named g ((hgroups g).mp hg)
      obtain ⟨g', hg', rfl, rfl⟩ := lookup_claimOf hlookup
      rw [hids g' hg'] at hid
      have hsame : g' = g := authorised_identified userSession ((hgroups g').mp hg')
        ((hgroups g).mp hg) (Option.some.inj (Option.some.inj hid))
      rwa [hsame] at hlookup
    intro g g' hg hg' hn
    have hf : fields g = fields g' :=
      coherent_of_complete complete g ((hgroups g).mpr hg) g' ((hgroups g').mpr hg') hn
    have hid := congrArg (Finmap.lookup "id") hf
    rw [hids g ((hgroups g).mpr hg), hids g' ((hgroups g').mpr hg')] at hid
    exact authorised_identified userSession hg hg' (Option.some.inj (Option.some.inj hid))
  · intro distinct g hg
    have coherent : Coherent GroupModel.name fields groups := by
      intro a ha b hb hn
      exact congrArg fields (distinct a b ((hgroups a).mp ha) ((hgroups b).mp hb) hn)
    have hmem := (hgroups g).mpr hg
    exact ⟨g.name, fields g, lookup_putAll_mem coherent hmem, hids g hmem⟩

theorem combined_names_iff :
    ∃ claim, ActionableGroupsMapper.setClaim insertionOrder actionSession combinedUser.user =
      .ok claim ∧
      ((∀ g, Authorised actionSession combinedUser.user g → ∃ name, EntryFor claim g name) ↔
        ∀ g g', Authorised actionSession combinedUser.user g →
          Authorised actionSession combinedUser.user g' → g.name = g'.name → g = g') := by
  have built : ∃ claim, ActionableGroupsMapper.setClaim insertionOrder actionSession
      combinedUser.user = .ok claim := ⟨_, rfl⟩
  obtain ⟨claim, hclaim⟩ := built
  refine ⟨claim, hclaim,
    every_authorised_named_iff insertionOrder combinedUser claim hclaim fun g hg => ?_⟩
  have hcovered : some g ∈ coveredGroups actionSession combinedUser.user :=
    some_mem_coveredGroups.mpr hg
  have hlist : g ∈ [team, office, team, hall] := by
    have hmap : some g ∈ [team, office, team, hall].map some := hcovered
    simpa using hmap
  have plain : ∀ g ∈ [team, office, team, hall],
      "id" ∉ g.attributes ∧ "parent_id" ∉ g.attributes := by decide
  exact plain g hlist

/-! ## What has no say -/

/-- Two databases and two users that agree on which ids of groups rows of all three tables lead
to and on the groups under these ids, as far as the mode asks for them. Rows on no such path, of
other users or of the user, how often and in what order rows and groups come, and the attributes
of the user beyond the mode may all differ. -/
structure SameForUser (keycloakSession keycloakSession' : KeycloakSession)
    (user user' : UserModel) : Prop where
  mode : user.attributes.lookup kullaniciGrupIslemTipi =
    user'.attributes.lookup kullaniciGrupIslemTipi
  groups : MembershipCounts user → ∀ g, g ∈ user.groups ↔ g ∈ user'.groups
  paths : UsesActionGroups user → ∀ id,
    TablePath keycloakSession user.id id ↔ TablePath keycloakSession' user'.id id
  resolved : UsesActionGroups user → ∀ id, TablePath keycloakSession user.id id →
    keycloakSession.getGroupById id = keycloakSession'.getGroupById id

theorem SameForUser.membershipCounts
    (same : SameForUser keycloakSession keycloakSession' user user') :
    MembershipCounts user ↔ MembershipCounts user' := by
  simp only [MembershipCounts, same.mode]

theorem SameForUser.usesActionGroups
    (same : SameForUser keycloakSession keycloakSession' user user') :
    UsesActionGroups user ↔ UsesActionGroups user' := by
  simp only [UsesActionGroups, same.mode]

theorem SameForUser.mem_actionGroups
    (same : SameForUser keycloakSession keycloakSession' user user')
    (uses : UsesActionGroups user) (x : Option GroupModel) :
    x ∈ actionGroups keycloakSession user ↔ x ∈ actionGroups keycloakSession' user' := by
  rw [mem_actionGroups_iff, mem_actionGroups_iff]
  constructor
  · intro h
    obtain ⟨id, path, hx⟩ := h
    have hr := same.resolved uses id path
    exact ⟨id, (same.paths uses id).mp path, hr.symm.trans hx⟩
  · intro h
    obtain ⟨id, path', hx⟩ := h
    have path := (same.paths uses id).mpr path'
    exact ⟨id, path, (same.resolved uses id path).trans hx⟩

theorem SameForUser.mem_coveredGroups
    (same : SameForUser keycloakSession keycloakSession' user user') (x : Option GroupModel) :
    x ∈ coveredGroups keycloakSession user ↔ x ∈ coveredGroups keycloakSession' user' := by
  have own : (MembershipCounts user ∧ x ∈ user.groups.map some) ↔
      (MembershipCounts user' ∧ x ∈ user'.groups.map some) := by
    rw [← same.membershipCounts]
    refine and_congr_right fun counts => ?_
    simp only [List.mem_map, same.groups counts]
  have action : (UsesActionGroups user ∧ x ∈ actionGroups keycloakSession user) ↔
      (UsesActionGroups user' ∧ x ∈ actionGroups keycloakSession' user') := by
    rw [← same.usesActionGroups]
    exact and_congr_right fun uses => same.mem_actionGroups uses x
  rw [TokenClaimsAuthority.mem_coveredGroups, TokenClaimsAuthority.mem_coveredGroups, own, action]

/-- Both tokens come about or neither does; and where names tell the authorised groups apart,
the claims are equal. -/
theorem claim_of_own_rows (order order' : HashOrder)
    (userSession : UserSessionModel keycloakSession)
    (userSession' : UserSessionModel keycloakSession')
    (same : SameForUser keycloakSession keycloakSession' userSession.user userSession'.user) :
    ((∃ claim, ActionableGroupsMapper.setClaim order keycloakSession userSession.user =
        .ok claim) ↔
      ∃ claim, ActionableGroupsMapper.setClaim order' keycloakSession' userSession'.user =
        .ok claim) ∧
    ((∀ g g', Authorised keycloakSession userSession.user g →
        Authorised keycloakSession userSession.user g' → g.name = g'.name → g = g') →
      ActionableGroupsMapper.setClaim order keycloakSession userSession.user =
        ActionableGroupsMapper.setClaim order' keycloakSession' userSession'.user ∨
      ∃ ex ex', ActionableGroupsMapper.setClaim order keycloakSession userSession.user =
          .error ex ∧
        ActionableGroupsMapper.setClaim order' keycloakSession' userSession'.user =
          .error ex') := by
  obtain ⟨l, hx, hl⟩ := actionable_setClaim_covers order userSession
  obtain ⟨l', hx', hl'⟩ := actionable_setClaim_covers order' userSession'
  have members (x : Option GroupModel) : x ∈ l ↔ x ∈ l' := by
    rw [hl, hl', same.mem_coveredGroups]
  have ends : (∃ claim, getGroupsWithAttributes l = .ok claim) ↔
      ∃ claim, getGroupsWithAttributes l' = .ok claim := by
    simp only [getGroupsWithAttributes_ok_iff, members]
  rw [hx, hx']
  refine ⟨ends, fun named => ?_⟩
  cases hclaim : getGroupsWithAttributes l with
  | error ex =>
    cases hclaim' : getGroupsWithAttributes l' with
    | error ex' => exact Or.inr ⟨ex, ex', rfl, rfl⟩
    | ok claim' =>
      obtain ⟨claim, hok⟩ := ends.mpr ⟨claim', hclaim'⟩
      rw [hclaim] at hok
      cases hok
  | ok claim =>
    obtain ⟨claim', hclaim'⟩ := ends.mp ⟨claim, hclaim⟩
    obtain ⟨groups, rfl, _, rfl⟩ := claim_of_built hclaim
    obtain ⟨groups', rfl, _, rfl⟩ := claim_of_built hclaim'
    have authorised (g : GroupModel) (hg : g ∈ groups) :
        Authorised keycloakSession userSession.user g := by
      rw [← some_mem_coveredGroups, ← hl]
      exact List.mem_map.mpr ⟨g, hg, rfl⟩
    have coherent : Coherent GroupModel.name fields groups := by
      intro g hg g' hg' hn
      exact congrArg fields (named g g' (authorised g hg) (authorised g' hg') hn)
    refine Or.inl ?_
    rw [hclaim']
    exact congrArg Except.ok (putAll_congr coherent fun g => by simpa using members (some g))

/-- The rows of `u1` in another order and one of them twice, without those of `u7` but with a
row that leads nowhere. -/
def ownRowsSession : KeycloakSession :=
  { actionSession with
    islemGrupKullanici := [⟨some "u1", some 9⟩, ⟨some "u1", some 1⟩]
    islemGrup := [⟨1⟩]
    islemGrupOrganizasyon :=
      [⟨some 1, some "g3"⟩, ⟨some 1, some "g1"⟩, ⟨some 1, some "g3"⟩] }

def ownRowsUser : UserSessionModel ownRowsSession where
  user := { combinedUser.user with groups := [office, team] }
  membership g hg g' hg' hid := by
    have distinct : ([office, team].map GroupModel.id).Nodup := by decide
    exact List.inj_on_of_nodup_map distinct hg hg' hid
  resolved g hg g' hr := by
    refine combinedUser.resolved g ?_ g' hr
    rcases List.mem_cons.mp hg with rfl | hg
    · exact List.mem_cons_of_mem team List.mem_cons_self
    · exact List.mem_singleton.mp hg ▸ List.mem_cons_self

theorem same_own_rows :
    SameForUser actionSession ownRowsSession combinedUser.user ownRowsUser.user := by
  refine ⟨rfl, ?_, ?_, fun _ _ _ => rfl⟩
  · intro _ g
    have swapped : [team, office].Perm [office, team] := List.Perm.swap _ _ _
    exact swapped.mem_iff
  · intro _ id
    have hids : groupsIdsOfUser actionSession "u1" = [some "g1", some "g3"] := by decide
    have hids' : groupsIdsOfUser ownRowsSession "u1" = [some "g3", some "g1", some "g3"] := by
      decide
    rw [← mem_groupsIdsOfUser, ← mem_groupsIdsOfUser]
    change id ∈ groupsIdsOfUser actionSession "u1" ↔ id ∈ groupsIdsOfUser ownRowsSession "u1"
    rw [hids, hids']
    simp only [List.mem_cons, List.not_mem_nil, or_false]
    tauto

theorem claim_of_own_rows_agrees :
    (∃ claim, ActionableGroupsMapper.setClaim insertionOrder actionSession combinedUser.user =
        .ok claim) ↔
      ∃ claim, ActionableGroupsMapper.setClaim insertionOrder ownRowsSession ownRowsUser.user =
        .ok claim :=
  (claim_of_own_rows insertionOrder insertionOrder combinedUser ownRowsUser same_own_rows).1

end TokenClaimsAuthority
