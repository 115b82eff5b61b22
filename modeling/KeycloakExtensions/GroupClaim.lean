import KeycloakExtensions.KeycloakModel
import KeycloakExtensions.LibraryFallible
import KeycloakExtensions.LibraryPutFold

/-! # The claim that lists groups with their attributes

`GroupModelUtil` as the mappers call it, and the declarative map it builds. A list of groups is
one iteration of the collection; an iterated group may be null. -/
namespace GroupClaim

open KeycloakModel LibraryFallible LibraryPutFold

abbrev Attributes := Finmap fun _ : String => Option String
abbrev Claim := Finmap fun _ : String => Attributes

def putIdentity (groupModel : GroupModel) : Attributes :=
  ((∅ : Attributes).insert "id" (some groupModel.id)).insert "parent_id" groupModel.parentId

def putAttributes (groupModel : GroupModel) : Except JavaException Attributes :=
  groupModel.attributes.entries.foldlM (fun attrs entry => do
    let value ← getZero entry.2
    return attrs.insert entry.1 (some value)) (putIdentity groupModel)

def getGroupsWithAttributes (groups : List (Option GroupModel)) : Except JavaException Claim :=
  groups.foldlM (fun groupsWithAttributes groupModel =>
    match groupModel with
    | none => .error .nullPointer
    | some groupModel => do
      let attrs ← putAttributes groupModel
      return groupsWithAttributes.insert groupModel.name attrs) ∅

/-- What the claim says of a group: its attributes by their first values, over `id` and
`parent_id`. -/
def fields (group : GroupModel) : Attributes :=
  putAll Sigma.fst (fun entry => entry.2.head?) (putIdentity group) group.attributes.entries

def claimOf (groups : List GroupModel) : Claim := putAll GroupModel.name fields ∅ groups

def AllValued (group : GroupModel) : Prop := ∀ entry ∈ group.attributes.entries, entry.2 ≠ []

instance (group : GroupModel) : Decidable (AllValued group) :=
  inferInstanceAs (Decidable (∀ entry ∈ group.attributes.entries, entry.2 ≠ []))

/-- One put of the loops over attributes, of a group as of a user. -/
def putFirst (attrs : Attributes) (entry : (_ : String) × List String) :
    Except JavaException Attributes := do
  let value ← getZero entry.2
  return attrs.insert entry.1 (some value)

theorem putFirst_eq {entries : List ((_ : String) × List String)}
    (h : ∀ entry ∈ entries, entry.2 ≠ []) (attrs : Attributes) :
    entries.foldlM putFirst attrs =
      .ok (putAll Sigma.fst (fun entry => entry.2.head?) attrs entries) := by
  refine foldlM_of_ok (fun entry he attrs => ?_) attrs
  obtain ⟨key, values⟩ := entry
  cases values with
  | nil => exact (h _ he rfl).elim
  | cons value values => rfl

theorem putAttributes_eq {group : GroupModel} (h : AllValued group) :
    putAttributes group = .ok (fields group) := putFirst_eq h (putIdentity group)

theorem getGroupsWithAttributes_eq {groups : List GroupModel} (h : ∀ g ∈ groups, AllValued g) :
    getGroupsWithAttributes (groups.map some) = .ok (claimOf groups) := by
  rw [getGroupsWithAttributes, List.foldlM_map]
  refine foldlM_of_ok (fun group hg claim => ?_) ∅
  simp only [putAttributes_eq (h group hg)]
  rfl

theorem putFirst_ok_iff (attrs : Attributes) (entry : (_ : String) × List String) :
    (∃ attrs', putFirst attrs entry = .ok attrs') ↔ entry.2 ≠ [] := by
  obtain ⟨key, values⟩ := entry
  cases values with
  | nil =>
    constructor
    · rintro ⟨_, hx⟩
      cases hx
    · intro hn
      exact (hn rfl).elim
  | cons value values => exact ⟨fun _ => List.cons_ne_nil _ _, fun _ => ⟨_, rfl⟩⟩

/-- The group is there and each of its attributes has a value. -/
def Present (group : Option GroupModel) : Prop := ∃ g, group = some g ∧ AllValued g

theorem getGroupsWithAttributes_ok_iff {groups : List (Option GroupModel)} :
    (∃ claim, getGroupsWithAttributes groups = .ok claim) ↔ ∀ group ∈ groups, Present group := by
  refine foldlM_ok_iff (fun claim group => ?_) ∅
  cases group with
  | none =>
    constructor
    · rintro ⟨_, hx⟩
      cases hx
    · rintro ⟨_, hx, _⟩
      cases hx
  | some g =>
    have hg : (∃ attrs, putAttributes g = .ok attrs) ↔ AllValued g :=
      foldlM_ok_iff putFirst_ok_iff (putIdentity g)
    constructor
    · rintro ⟨claim', hx⟩
      refine ⟨g, rfl, hg.mp ?_⟩
      cases hp : putAttributes g with
      | ok attrs => exact ⟨attrs, rfl⟩
      | error ex =>
        simp only [hp] at hx
        cases hx
    · rintro ⟨g', hx, hv⟩
      cases hx
      obtain ⟨attrs, hp⟩ := hg.mpr hv
      exact ⟨claim.insert g.name attrs, by simp only [hp]; rfl⟩

theorem entries_coherent (attrs : AttributeMap) :
    Coherent Sigma.fst (fun entry : (_ : String) × List String => entry.2.head?) attrs.entries :=
  coherent_of_nodup attrs.keys_nodup

theorem lookup_fields (group : GroupModel) (key : String) :
    (fields group).lookup key =
      match group.attributes.lookup key with
      | some values => some values.head?
      | none => (putIdentity group).lookup key := by
  cases hl : group.attributes.lookup key with
  | none =>
    refine lookup_putAll_fresh fun entry he hk => AList.lookup_eq_none.mp hl ?_
    exact List.mem_map.mpr ⟨entry, he, hk⟩
  | some values =>
    have he : (⟨key, values⟩ : (_ : String) × List String) ∈ group.attributes.entries :=
      AList.mem_lookup_iff.mp hl
    exact lookup_putAll_mem (entries_coherent group.attributes) he

theorem lookup_claimOf {groups : List GroupModel} {name : String} {attrs : Attributes}
    (h : (claimOf groups).lookup name = some attrs) :
    ∃ g ∈ groups, g.name = name ∧ fields g = attrs := by
  rcases lookup_putAll_source h with hm | hg
  · simp at hm
  · exact hg

theorem putIdentity_id (group : GroupModel) :
    (putIdentity group).lookup "id" = some (some group.id) := by
  rw [putIdentity, Finmap.lookup_insert_of_ne _ (by decide), Finmap.lookup_insert]

theorem putIdentity_parent_id (group : GroupModel) :
    (putIdentity group).lookup "parent_id" = some group.parentId :=
  Finmap.lookup_insert _

end GroupClaim
