import KeycloakExtensions.GroupClaim

/-! # What the group fold computes

The two nested loops are compared with a declarative claim: which names it has and what each
field of an entry is. The claim depends on the set of groups only, and it turns a list made of
two lists into the union of their claims. -/
namespace GroupClaimFold

open KeycloakModel LibraryPutFold GroupClaim

variable {groups others : List GroupModel}

/-- One group read twice; the order in which its attributes are listed does not count. -/
structure SameGroup (g g' : GroupModel) : Prop where
  id : g.id = g'.id
  parentId : g.parentId = g'.parentId
  attrs : ∀ key, g.attributes.lookup key = g'.attributes.lookup key

/-- Groups that their names tell apart, whose attributes are valued and leave `id` and
`parent_id` alone. -/
structure NamedGroups (groups : List GroupModel) : Prop where
  named : ∀ g ∈ groups, ∀ g' ∈ groups, g.name = g'.name → SameGroup g g'
  valued : ∀ g ∈ groups, AllValued g
  unreserved : ∀ g ∈ groups, "id" ∉ g.attributes ∧ "parent_id" ∉ g.attributes

/-- The fields a group is to have in the claim. -/
def declaredField (group : GroupModel) (key : String) : Option (Option String) :=
  if key = "id" then some (some group.id)
  else if key = "parent_id" then some group.parentId
  else (getFirst group.attributes key).map some

/-- The claim has an entry for the name of each group, no other entry, and in each entry the
declared fields and no others. -/
structure Declares (groups : List GroupModel) (claim : Claim) : Prop where
  names : ∀ name, name ∈ claim ↔ ∃ g ∈ groups, g.name = name
  entries : ∀ g ∈ groups, ∃ attrs, claim.lookup g.name = some attrs ∧
    ∀ key, attrs.lookup key = declaredField g key

/-- Repetitions of groups with different names. -/
theorem sameGroup_of_nodup {distinct : List GroupModel}
    (hd : (distinct.map GroupModel.name).Nodup) (hs : groups ⊆ distinct) :
    ∀ g ∈ groups, ∀ g' ∈ groups, g.name = g'.name → SameGroup g g' := by
  intro g hg g' hg' hn
  obtain rfl : g = g' := List.inj_on_of_nodup_map hd (hs hg) (hs hg') hn
  exact ⟨rfl, rfl, fun _ => rfl⟩

theorem fields_congr {g g' : GroupModel} (h : SameGroup g g') : fields g = fields g' := by
  refine Finmap.ext_lookup fun key => ?_
  rw [lookup_fields, lookup_fields, h.attrs key, putIdentity, putIdentity, h.id, h.parentId]

theorem NamedGroups.coherent (h : NamedGroups groups) :
    Coherent GroupModel.name fields groups :=
  fun g hg g' hg' hn => fields_congr (h.named g hg g' hg' hn)

theorem NamedGroups.of_members (h : NamedGroups groups)
    (hm : ∀ g, g ∈ others → g ∈ groups) : NamedGroups others where
  named g hg g' hg' := h.named g (hm g hg) g' (hm g' hg')
  valued g hg := h.valued g (hm g hg)
  unreserved g hg := h.unreserved g (hm g hg)

/-- Lists without a common name keep their groups apart. -/
theorem NamedGroups.append (h : NamedGroups groups) (h' : NamedGroups others)
    (apart : ∀ g ∈ groups, ∀ g' ∈ others, g.name ≠ g'.name) : NamedGroups (groups ++ others) where
  named g hg g' hg' hn := by
    rcases List.mem_append.mp hg with hg | hg <;> rcases List.mem_append.mp hg' with hg' | hg'
    · exact h.named g hg g' hg' hn
    · exact (apart g hg g' hg' hn).elim
    · exact (apart g' hg' g hg hn.symm).elim
    · exact h'.named g hg g' hg' hn
  valued g hg := (List.mem_append.mp hg).elim (h.valued g) (h'.valued g)
  unreserved g hg := (List.mem_append.mp hg).elim (h.unreserved g) (h'.unreserved g)

theorem lookup_identity {group : GroupModel} {key : String} (hid : key ≠ "id")
    (hparent : key ≠ "parent_id") : (putIdentity group).lookup key = none := by
  rw [putIdentity, Finmap.lookup_insert_of_ne _ hparent, Finmap.lookup_insert_of_ne _ hid]
  exact Finmap.lookup_empty key

theorem lookup_fields_declared {group : GroupModel} (hv : AllValued group)
    (hu : "id" ∉ group.attributes ∧ "parent_id" ∉ group.attributes) (key : String) :
    (fields group).lookup key = declaredField group key := by
  rw [lookup_fields, declaredField]
  by_cases hid : key = "id"
  · subst hid
    rw [AList.lookup_eq_none.mpr hu.1, if_pos rfl]
    exact putIdentity_id group
  rw [if_neg hid]
  by_cases hparent : key = "parent_id"
  · subst hparent
    rw [AList.lookup_eq_none.mpr hu.2, if_pos rfl]
    exact putIdentity_parent_id group
  rw [if_neg hparent, getFirst]
  cases hl : group.attributes.lookup key with
  | none => exact lookup_identity hid hparent
  | some values =>
    -- an attribute without a value would be missing from the declared fields
    have hne : values ≠ [] := hv _ (AList.mem_lookup_iff.mp hl)
    obtain ⟨value, rest, rfl⟩ := List.exists_cons_of_ne_nil hne
    rfl

theorem claimOf_declares (h : NamedGroups groups) : Declares groups (claimOf groups) where
  names _ := mem_putAll_empty
  entries g hg := ⟨fields g, lookup_putAll_mem h.coherent hg,
    lookup_fields_declared (h.valued g hg) (h.unreserved g hg)⟩

theorem claimOf_members (h : NamedGroups groups) (hm : ∀ g, g ∈ others ↔ g ∈ groups) :
    claimOf others = claimOf groups :=
  (putAll_congr h.coherent fun g => (hm g).symm).symm

theorem claimOf_disjoint (apart : ∀ g ∈ groups, ∀ g' ∈ others, g.name ≠ g'.name) :
    (claimOf groups).Disjoint (claimOf others) := by
  intro name hn hn'
  obtain ⟨g, hg, rfl⟩ := mem_putAll_empty.mp hn
  obtain ⟨g', hg', he⟩ := mem_putAll_empty.mp hn'
  exact apart g hg g' hg' he.symm

theorem group_fold_declares (groups : List GroupModel) (h : NamedGroups groups) :
    ∃ claim, getGroupsWithAttributes (groups.map some) = .ok claim ∧ Declares groups claim ∧
      (∀ others : List GroupModel, (∀ g, g ∈ others ↔ g ∈ groups) →
        getGroupsWithAttributes (others.map some) = .ok claim) ∧
      (∀ others : List GroupModel, NamedGroups others →
        (∀ g ∈ groups, ∀ g' ∈ others, g.name ≠ g'.name) →
        ∃ claim', getGroupsWithAttributes (others.map some) = .ok claim' ∧
          claim.Disjoint claim' ∧
          getGroupsWithAttributes ((groups ++ others).map some) = .ok (claim ∪ claim')) := by
  refine ⟨claimOf groups, getGroupsWithAttributes_eq h.valued, claimOf_declares h, ?_, ?_⟩
  · intro others hm
    have ho := h.of_members fun g hg => (hm g).mp hg
    rw [getGroupsWithAttributes_eq ho.valued, claimOf_members h hm]
  · intro others ho apart
    have hall := h.append ho apart
    refine ⟨claimOf others, getGroupsWithAttributes_eq ho.valued, claimOf_disjoint apart, ?_⟩
    rw [getGroupsWithAttributes_eq hall.valued]
    exact congrArg Except.ok (putAll_append_union hall.coherent)

def team : GroupModel := ⟨"g1", "team", some "g9", [⟨"level", ["3", "5"]⟩].toAList⟩
def office : GroupModel := ⟨"g2", "office", none, ∅⟩

theorem repeated_team_declared :
    ∃ claim, getGroupsWithAttributes ([team, office, team].map some) = .ok claim ∧
      Declares [team, office, team] claim ∧
      getGroupsWithAttributes ([office, team].map some) = .ok claim := by
  have distinct : ([team, office].map GroupModel.name).Nodup := by decide
  have named : NamedGroups [team, office, team] :=
    ⟨sameGroup_of_nodup distinct (by simp), by decide, by decide⟩
  obtain ⟨claim, hx, hd, hsame, _⟩ := group_fold_declares [team, office, team] named
  refine ⟨claim, hx, hd, hsame [office, team] ?_⟩
  intro g
  simp only [List.mem_cons, List.not_mem_nil, or_false]
  tauto

end GroupClaimFold
