import KeycloakExtensions.IPRestricted
import KeycloakExtensions.LibraryOrderFree

/-! # The address check and the order of groups and values

The decision is compared with a verdict for one group and one value of its `IP_ADRES`. The
enumeration order chooses which group and which value are asked. -/
namespace IPRestrictedOrder

open KeycloakModel LibraryEffects LibraryOrderFree LibrarySegments IPRestricted

/-- The verdict on an address for a group, under a value of `IP_ADRES` or without one. -/
def admits (istisna : List Istisna) (remoteIPAddress : String) (groupId : String) :
    Option String → Bool
  | none => true
  | some value => decide (0 < exemptionCount istisna groupId) ||
      decide (remoteIPAddress ∈ javaSplit ',' value)

def outcomeOf (admitted : Bool) : IPOutcome :=
  if admitted then .success else .forkWithErrorMessage refusedMessage

def firstValue (group : GroupModel) : Option String := getFirst group.attributes ipAdres

def candidates (group : GroupModel) : List (Option String) :=
  match group.attributes.lookup ipAdres with
  | none => [none]
  | some values => values.map some

def HasValues (group : GroupModel) : Prop := group.attributes.lookup ipAdres ≠ some []

instance (group : GroupModel) : Decidable (HasValues group) := inferInstanceAs (Decidable (_ ≠ _))

/-- The same group with the values of `IP_ADRES` in another order. -/
structure ValuesReordered (g g' : GroupModel) : Prop where
  id : g'.id = g.id
  name : g'.name = g.name
  parentId : g'.parentId = g.parentId
  values : Option.Rel List.Perm (g.attributes.lookup ipAdres) (g'.attributes.lookup ipAdres)
  others : ∀ key, key ≠ ipAdres → g'.attributes.lookup key = g.attributes.lookup key

theorem find_entry (key : String) (attributes : AttributeMap) :
    (attributes.entries.find? fun e => decide (e.1 = key)) =
      (attributes.lookup key).map fun values => ⟨key, values⟩ := by
  simp only [AList.lookup]
  induction attributes.entries with
  | nil => rfl
  | cons e entries ih =>
    obtain ⟨k, values⟩ := e
    by_cases hk : k = key
    · subst hk
      simp
    · rw [List.find?_cons_of_neg (by simpa using hk), List.dlookup_cons_ne _ _ (Ne.symm hk), ih]

theorem exec_authenticate {istisna : List Istisna} {user : UserModel} {address : String}
    {group : GroupModel} (hg : user.groups.head? = some group) (hv : HasValues group)
    (before : List IPOutcome) :
    exec (authenticate istisna user address) before =
      (.ok (), before ++ [outcomeOf (admits istisna address group.id (firstValue group))]) := by
  simp only [authenticate, hg, find_entry, firstValue, getFirst, HasValues] at hv ⊢
  cases hl : group.attributes.lookup ipAdres with
  | none => rfl
  | some values =>
    cases values with
    | nil => exact (hv hl).elim
    | cons value values =>
      by_cases he : 0 < exemptionCount istisna group.id
      · simp [isGroupHaveIPException, conclude, admits, outcomeOf, he]
      · by_cases hm : address ∈ javaSplit ',' value
        · simp [isGroupHaveIPException, conclude, admits, outcomeOf, he, hm, getZero]
        · simp [isGroupHaveIPException, conclude, admits, outcomeOf, he, hm, getZero]

theorem valuesReordered_refl (g : GroupModel) : ValuesReordered g g := by
  refine ⟨rfl, rfl, rfl, ?_, fun _ _ => rfl⟩
  cases g.attributes.lookup ipAdres with
  | none => exact .none
  | some values => exact .some (List.Perm.refl values)

theorem values_cases {g g' : GroupModel} (h : ValuesReordered g g') :
    (g.attributes.lookup ipAdres = none ∧ g'.attributes.lookup ipAdres = none) ∨
    ∃ values values', g.attributes.lookup ipAdres = some values ∧
      g'.attributes.lookup ipAdres = some values' ∧ values.Perm values' := by
  have hr := h.values
  generalize g.attributes.lookup ipAdres = x at hr ⊢
  generalize g'.attributes.lookup ipAdres = y at hr ⊢
  cases hr with
  | none => exact Or.inl ⟨rfl, rfl⟩
  | some hp => exact Or.inr ⟨_, _, rfl, rfl, hp⟩

theorem hasValues_of_reordered {g g' : GroupModel} (h : ValuesReordered g g')
    (hv : HasValues g) : HasValues g' := by
  intro he
  rcases values_cases h with ⟨_, hn⟩ | ⟨values, values', hl, hl', hp⟩
  · rw [hn] at he
    cases he
  · rw [hl'] at he
    cases he
    exact hv (hl.trans (congrArg some hp.eq_nil))

theorem firstValue_mem_candidates {g g' : GroupModel} (h : ValuesReordered g g')
    (hv : HasValues g) : firstValue g' ∈ candidates g := by
  have hv' := hasValues_of_reordered h hv
  simp only [firstValue, getFirst, candidates]
  rcases values_cases h with ⟨hl, hl'⟩ | ⟨values, values', hl, hl', hp⟩
  · simp [hl, hl']
  · rw [hl, hl']
    cases values' with
    | nil => exact (hv' hl').elim
    | cons value rest => exact List.mem_map.mpr ⟨value, hp.mem_iff.mpr List.mem_cons_self, rfl⟩

theorem candidate_comes_first {g : GroupModel} {v : Option String} (hm : v ∈ candidates g) :
    ∃ g', ValuesReordered g g' ∧ firstValue g' = v := by
  simp only [candidates] at hm
  cases hl : g.attributes.lookup ipAdres with
  | none =>
    rw [hl] at hm
    refine ⟨g, valuesReordered_refl g, ?_⟩
    rw [List.mem_singleton.mp hm]
    simp [firstValue, getFirst, hl]
  | some values =>
    rw [hl] at hm
    obtain ⟨value, hvalue, rfl⟩ := List.mem_map.mp hm
    refine ⟨{ g with attributes := g.attributes.insert ipAdres (value :: values.erase value) },
      ⟨rfl, rfl, rfl, ?_, ?_⟩, ?_⟩
    · rw [hl, AList.lookup_insert]
      exact .some (List.perm_cons_erase hvalue)
    · intro key hk
      exact AList.lookup_insert_ne hk
    · simp [firstValue, getFirst]

def outcome (istisna : List Istisna) (user : UserModel) (address : String)
    (groups : List GroupModel) : Except JavaException Unit × List IPOutcome :=
  exec (authenticate istisna { user with groups := groups } address) []

/-- The outcome is the same for every order of the groups and of the values of `IP_ADRES`. -/
def OrderFree (istisna : List Istisna) (user : UserModel) (address : String) : Prop :=
  ∀ groups, Reordered ValuesReordered user.groups groups →
    outcome istisna user address groups = outcome istisna user address user.groups

def decisionOf : Option Bool → IPOutcome
  | none => .forkWithErrorMessage noGroupMessage
  | some admitted => outcomeOf admitted

theorem decisionOf_injective : Function.Injective decisionOf := by
  intro x y h
  rcases x with _ | _ | _ <;> rcases y with _ | _ | _ <;> first | rfl | exact absurd h (by decide)

section

variable (istisna : List Istisna) (address : String)

def verdict (group : GroupModel) : Bool := admits istisna address group.id (firstValue group)

theorem outcome_eq (user : UserModel) {groups : List GroupModel}
    (hv : ∀ g ∈ groups, HasValues g) :
    outcome istisna user address groups =
      (.ok (), [decisionOf (groups.head?.map (verdict istisna address))]) := by
  rw [outcome]
  cases groups with
  | nil => rfl
  | cons group groups => exact exec_authenticate rfl (hv group List.mem_cons_self) []

theorem hasValues_of_reordered_list {groups groups' : List GroupModel}
    (hr : Reordered ValuesReordered groups groups') (hv : ∀ g ∈ groups, HasValues g) :
    ∀ g ∈ groups', HasValues g := by
  obtain ⟨mid, hmid, hperm⟩ := hr
  intro g' hg'
  obtain ⟨g, hg, hgg'⟩ := mem_of_forall₂ hmid (hperm.mem_iff.mpr hg')
  exact hasValues_of_reordered hgg' (hv g hg)

/-- All verdicts that an enumeration can bring to decide are the same. -/
def VerdictsAgree (groups : List GroupModel) : Prop :=
  ∀ g ∈ groups, ∀ v ∈ candidates g, ∀ g' ∈ groups, ∀ v' ∈ candidates g',
    admits istisna address g.id v = admits istisna address g'.id v'

theorem verdictsAgree_iff {groups : List GroupModel} (hv : ∀ g ∈ groups, HasValues g) :
    (∀ a ∈ groups, ∀ a', ValuesReordered a a' → ∀ b ∈ groups, ∀ b', ValuesReordered b b' →
      verdict istisna address a' = verdict istisna address b') ↔
    VerdictsAgree istisna address groups := by
  constructor
  · intro h a ha v hva b hb w hwb
    obtain ⟨a', hra, rfl⟩ := candidate_comes_first hva
    obtain ⟨b', hrb, rfl⟩ := candidate_comes_first hwb
    have hab := h a ha a' hra b hb b' hrb
    simp only [verdict] at hab
    rwa [hra.id, hrb.id] at hab
  · intro h a ha a' hra b hb b' hrb
    rw [verdict, verdict, hra.id, hrb.id]
    exact h a ha _ (firstValue_mem_candidates hra (hv a ha)) b hb _
      (firstValue_mem_candidates hrb (hv b hb))

/-- The first group and the first value decide, so the outcome is free of the order exactly
when every group gives one verdict under each of its values. -/
theorem first_group_decides (user : UserModel) (hv : ∀ g ∈ user.groups, HasValues g) :
    (∀ groups, Reordered ValuesReordered user.groups groups →
      outcome istisna user address groups =
        (.ok (), [decisionOf (groups.head?.map (verdict istisna address))])) ∧
    (OrderFree istisna user address ↔ VerdictsAgree istisna address user.groups) := by
  have hfirst (groups : List GroupModel) (hr : Reordered ValuesReordered user.groups groups) :
      outcome istisna user address groups =
        (.ok (), [decisionOf (groups.head?.map (verdict istisna address))]) :=
    outcome_eq istisna address user (hasValues_of_reordered_list hr hv)
  refine ⟨hfirst, ?_⟩
  rw [← verdictsAgree_iff istisna address hv,
    ← head_invariant_iff valuesReordered_refl (verdict istisna address) user.groups]
  constructor
  · intro h groups hr
    have he := h groups hr
    rw [hfirst groups hr, outcome_eq istisna address user hv] at he
    exact decisionOf_injective (List.singleton_inj.mp (congrArg Prod.snd he))
  · intro h groups hr
    rw [hfirst groups hr, outcome_eq istisna address user hv, h groups hr]

end

def restrictedGroup : GroupModel := ⟨"g1", "branch", none, [⟨ipAdres, ["10.0.0.1"]⟩].toAList⟩
def openGroup : GroupModel := ⟨"g2", "office", none, ∅⟩
def memberOf (groups : List GroupModel) : UserModel :=
  ⟨"u1", "joe", none, ∅, groups, [], ∅⟩

theorem group_order_decides :
    (∀ g ∈ (memberOf [restrictedGroup, openGroup]).groups, HasValues g) ∧
    ¬ OrderFree [] (memberOf [restrictedGroup, openGroup]) "10.0.0.9" := by
  refine ⟨by decide, fun h => ?_⟩
  have hx := h [openGroup, restrictedGroup] ⟨_, forall₂_refl valuesReordered_refl _, .swap _ _ _⟩
  exact absurd (congrArg Prod.snd hx) (by decide)

/-- Two groups with opposite verdicts, so the group that comes first decides. -/
theorem first_group_decides_two_groups :
    (∀ groups,
      Reordered ValuesReordered (memberOf [restrictedGroup, openGroup]).groups groups →
      outcome [] (memberOf [restrictedGroup, openGroup]) "10.0.0.9" groups =
        (.ok (), [decisionOf (groups.head?.map (verdict [] "10.0.0.9"))])) ∧
    (OrderFree [] (memberOf [restrictedGroup, openGroup]) "10.0.0.9" ↔
      VerdictsAgree [] "10.0.0.9" [restrictedGroup, openGroup]) ∧
    verdict [] "10.0.0.9" restrictedGroup ≠ verdict [] "10.0.0.9" openGroup := by
  obtain ⟨hfirst, hfree⟩ := first_group_decides [] "10.0.0.9"
    (memberOf [restrictedGroup, openGroup]) (by decide)
  exact ⟨hfirst, hfree, by decide⟩

end IPRestrictedOrder
