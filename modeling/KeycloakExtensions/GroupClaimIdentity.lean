import KeycloakExtensions.GroupClaim

/-! # Which groups the claim names

The claim is keyed by group names while a set of groups is told apart by ids, and free-form
attributes are put over the identity fields. -/
namespace GroupClaimIdentity

open KeycloakModel LibraryPutFold GroupClaim

/-- A set of groups in one iteration order, whose attributes leave the identity fields alone. -/
structure PlainGroups (groups : List GroupModel) : Prop where
  ids : (groups.map GroupModel.id).Nodup
  unreserved : ∀ g ∈ groups, "id" ∉ g.attributes ∧ "parent_id" ∉ g.attributes
  valued : ∀ g ∈ groups, AllValued g

/-- Every group has an entry under its id, and no iteration order changes the claim. -/
def NoGroupLost (groups : List GroupModel) : Prop :=
  ∃ claim, getGroupsWithAttributes (groups.map some) = .ok claim ∧
    (∀ g ∈ groups, ∃ name attrs, claim.lookup name = some attrs ∧
      attrs.lookup "id" = some (some g.id)) ∧
    ∀ groups' : List GroupModel, groups'.Perm groups →
      getGroupsWithAttributes (groups'.map some) = .ok claim

def Authentic (groups : List GroupModel) (claim : Claim) : Prop :=
  ∀ name attrs, claim.lookup name = some attrs → ∃ g ∈ groups, g.name = name ∧
    attrs.lookup "id" = some (some g.id) ∧ attrs.lookup "parent_id" = some g.parentId

theorem fields_id (group : GroupModel) (h : AllValued group) :
    (fields group).lookup "id" = some (some ((getFirst group.attributes "id").getD group.id)) := by
  rw [lookup_fields, getFirst]
  cases hl : group.attributes.lookup "id" with
  | none => exact putIdentity_id group
  | some values =>
    cases values with
    | nil => exact (h _ (AList.mem_lookup_iff.mp hl) rfl).elim
    | cons value values => rfl

theorem fields_parent_id (group : GroupModel) (h : AllValued group) :
    (fields group).lookup "parent_id" =
      some ((getFirst group.attributes "parent_id").or group.parentId) := by
  rw [lookup_fields, getFirst]
  cases hl : group.attributes.lookup "parent_id" with
  | none => exact putIdentity_parent_id group
  | some values =>
    cases values with
    | nil => exact (h _ (AList.mem_lookup_iff.mp hl) rfl).elim
    | cons value values => rfl

theorem fields_id_plain {groups : List GroupModel} (h : PlainGroups groups) {g : GroupModel}
    (hg : g ∈ groups) : (fields g).lookup "id" = some (some g.id) := by
  rw [fields_id g (h.valued g hg), getFirst_absent (h.unreserved g hg).1]
  rfl

theorem lookup_of_id {groups : List GroupModel} (h : PlainGroups groups) {g : GroupModel}
    (hg : g ∈ groups) {name : String} {attrs : Attributes}
    (hl : (claimOf groups).lookup name = some attrs)
    (hid : attrs.lookup "id" = some (some g.id)) :
    (claimOf groups).lookup g.name = some (fields g) := by
  obtain ⟨g', hg', rfl, rfl⟩ := lookup_claimOf hl
  rw [fields_id_plain h hg'] at hid
  have hids : g'.id = g.id := Option.some.inj (Option.some.inj hid)
  have he : g' = g := List.inj_on_of_nodup_map h.ids hg' hg hids
  rwa [he] at hl

theorem names_nodup {groups : List GroupModel} (h : PlainGroups groups)
    (hc : ∀ g ∈ groups, (claimOf groups).lookup g.name = some (fields g)) :
    (groups.map GroupModel.name).Nodup := by
  refine (h.ids.of_map _).map_on fun g hg g' hg' hn => ?_
  -- two groups of one name would have to have the same fields, hence the same id
  have hf : fields g = fields g' := coherent_of_complete hc g hg g' hg' hn
  have hid := congrArg (Finmap.lookup "id") hf
  rw [fields_id_plain h hg, fields_id_plain h hg'] at hid
  exact List.inj_on_of_nodup_map h.ids hg hg' (Option.some.inj (Option.some.inj hid))

/-- The claim keeps every group, in every iteration order, exactly when no two groups share
their name. -/
theorem no_group_lost_iff (groups : List GroupModel) (h : PlainGroups groups) :
    NoGroupLost groups ↔ (groups.map GroupModel.name).Nodup := by
  have hok := getGroupsWithAttributes_eq h.valued
  constructor
  · rintro ⟨claim, hclaim, hall, -⟩
    rw [hok] at hclaim
    cases hclaim
    refine names_nodup h fun g hg => ?_
    obtain ⟨name, attrs, hl, hid⟩ := hall g hg
    exact lookup_of_id h hg hl hid
  · intro hn
    have hc : Coherent GroupModel.name fields groups := coherent_of_nodup hn
    refine ⟨claimOf groups, hok, ?_, ?_⟩
    · intro g hg
      exact ⟨g.name, fields g, lookup_putAll_mem hc hg, fields_id_plain h hg⟩
    · intro groups' hp
      rw [getGroupsWithAttributes_eq fun g hg => h.valued g (hp.mem_iff.mp hg)]
      exact congrArg Except.ok (putAll_congr hc fun g => hp.symm.mem_iff).symm

def namesakes : List GroupModel :=
  [⟨"g1", "team", some "p1", ∅⟩, ⟨"g2", "team", some "p2", ∅⟩]

theorem namesake_lost : PlainGroups namesakes ∧ ¬ NoGroupLost namesakes := by
  refine ⟨⟨by decide, by decide, by decide⟩, ?_⟩
  rintro ⟨claim, hclaim, hall, -⟩
  rw [getGroupsWithAttributes_eq (by decide)] at hclaim
  cases hclaim
  obtain ⟨name, attrs, hl, hid⟩ := hall ⟨"g1", "team", some "p1", ∅⟩ List.mem_cons_self
  have hname : name ∈ (claimOf namesakes).keys :=
    Finmap.mem_keys.mpr (Finmap.mem_of_lookup_eq_some hl)
  have hlost : ∀ key ∈ (claimOf namesakes).keys,
      ((claimOf namesakes).lookup key).bind (Finmap.lookup "id") ≠ some (some "g1") := by decide
  refine hlost name hname ?_
  rw [hl]
  exact hid

theorem no_group_lost_distinct_names :
    NoGroupLost [⟨"g1", "team", none, ∅⟩, ⟨"g2", "office", none, ∅⟩] ↔
      ["team", "office"].Nodup :=
  no_group_lost_iff [⟨"g1", "team", none, ∅⟩, ⟨"g2", "office", none, ∅⟩]
    ⟨by decide, by decide, by decide⟩

/-- Every entry is one listed group's; its identity fields are the group's own unless the group
has an attribute of that name, which then supplies the field. -/
theorem identity_fields_of_group (groups : List GroupModel) (h : ∀ g ∈ groups, AllValued g) :
    ∃ claim, getGroupsWithAttributes (groups.map some) = .ok claim ∧
      ∀ name attrs, claim.lookup name = some attrs → ∃ g ∈ groups, g.name = name ∧
        attrs.lookup "id" = some (some ((getFirst g.attributes "id").getD g.id)) ∧
        attrs.lookup "parent_id" =
          some ((getFirst g.attributes "parent_id").or g.parentId) := by
  refine ⟨claimOf groups, getGroupsWithAttributes_eq h, fun name attrs hl => ?_⟩
  obtain ⟨g, hg, hn, rfl⟩ := lookup_claimOf hl
  exact ⟨g, hg, hn, fields_id g (h g hg), fields_parent_id g (h g hg)⟩

def impersonator : GroupModel := ⟨"g1", "team", none, [⟨"id", ["g9"]⟩].toAList⟩

theorem attribute_overrides_id :
    AllValued impersonator ∧
      ∃ claim, getGroupsWithAttributes [some impersonator] = .ok claim ∧
        ¬ Authentic [impersonator] claim := by
  refine ⟨by decide, claimOf [impersonator], rfl, fun h => ?_⟩
  obtain ⟨g, hg, -, hid, -⟩ := h "team" (fields impersonator) rfl
  rw [List.mem_singleton.mp hg] at hid
  exact absurd hid (by decide)

theorem identity_fields_of_impersonator :
    ∃ claim, getGroupsWithAttributes [some impersonator] = .ok claim ∧
      ∀ name attrs, claim.lookup name = some attrs → ∃ g ∈ [impersonator], g.name = name ∧
        attrs.lookup "id" = some (some ((getFirst g.attributes "id").getD g.id)) ∧
        attrs.lookup "parent_id" =
          some ((getFirst g.attributes "parent_id").or g.parentId) :=
  identity_fields_of_group [impersonator] (by decide)

end GroupClaimIdentity
