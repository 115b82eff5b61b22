import KeycloakExtensions.IPRestrictedOrder

/-! # Which addresses a value of `IP_ADRES` lists

The `split` of the stored value is compared with the text itself: an address is admitted when
it fills the place between two commas, so neither a prefix nor a substring of a listed address
is. -/
namespace IPRestrictedAddress

open KeycloakModel LibraryEffects LibrarySegments IPRestricted IPRestrictedOrder

variable {istisna : List Istisna} {user : UserModel} {group : GroupModel} {address s : String}

/-- `address` is one of the comma-delimited segments of the stored text. -/
def Listed (address s : String) : Prop :=
  ∃ p q : String, s = p ++ address ++ q ∧ (p = "" ∨ ∃ p', p = p' ++ ",") ∧
    (q = "" ∨ ∃ q', q = "," ++ q')

/-- One call is made on the context: success for the listed addresses, a fork for the others. -/
def AdmitsExactly (istisna : List Istisna) (user : UserModel) (address : String)
    (listed : Prop) : Prop :=
  ∀ before,
    (exec (authenticate istisna user address) before = (.ok (), before ++ [.success]) ↔ listed) ∧
    (¬ listed → exec (authenticate istisna user address) before =
      (.ok (), before ++ [.forkWithErrorMessage refusedMessage]))

theorem listed_iff_isSegment : Listed address s ↔ IsSegment ',' address.toList s.toList := by
  constructor
  · rintro ⟨p, q, rfl, hp, hq⟩
    refine ⟨p.toList, q.toList, by simp, ?_, ?_⟩
    · rcases hp with rfl | ⟨p', rfl⟩
      · exact Or.inl rfl
      · exact Or.inr ⟨p'.toList, by simp⟩
    · rcases hq with rfl | ⟨q', rfl⟩
      · exact Or.inl rfl
      · exact Or.inr ⟨q'.toList, by simp⟩
  · rintro ⟨p, q, hs, hp, hq⟩
    refine ⟨String.ofList p, String.ofList q, ?_, ?_, ?_⟩
    · apply String.toList_injective
      simpa using hs
    · rcases hp with rfl | ⟨p', rfl⟩
      · exact Or.inl rfl
      · exact Or.inr ⟨String.ofList p', by simp [String.ofList_append]⟩
    · rcases hq with rfl | ⟨q', rfl⟩
      · exact Or.inl rfl
      · refine Or.inr ⟨String.ofList q', ?_⟩
        apply String.toList_injective
        simp

theorem mem_javaSplit_iff_listed (ha : address ≠ "") (hc : ',' ∉ address.toList) :
    address ∈ javaSplit ',' s ↔ Listed address s := by
  rw [mem_javaSplit_iff ha, mem_splitOn_iff hc, listed_iff_isSegment]

theorem admitsExactly_of_value (address : String) (hg : user.groups.head? = some group)
    (hs : getFirst group.attributes ipAdres = some s)
    (he : exemptionCount istisna group.id = 0) :
    AdmitsExactly istisna user address (address ∈ javaSplit ',' s) := by
  have hv : HasValues group := by
    intro hl
    simp [getFirst, hl] at hs
  intro before
  have hadmits : admits istisna address group.id (firstValue group) =
      decide (address ∈ javaSplit ',' s) := by
    rw [firstValue, hs]
    simp [admits, he]
  rw [exec_authenticate hg hv, hadmits]
  by_cases hm : address ∈ javaSplit ',' s
  · simp [outcomeOf, hm]
  · simp [outcomeOf, hm]

theorem allow_list_admits_exactly (istisna : List Istisna) (user : UserModel)
    (address : String) (hg : user.groups.head? = some group)
    (hs : getFirst group.attributes ipAdres = some s)
    (he : exemptionCount istisna group.id = 0) (ha : address ≠ "")
    (hc : ',' ∉ address.toList) :
    AdmitsExactly istisna user address (Listed address s) ∧
    ∀ addresses : List String, addresses ≠ [] →
      (∀ b ∈ addresses, b ≠ "" ∧ ',' ∉ b.toList) → s = ",".intercalate addresses →
      AdmitsExactly istisna user address (address ∈ addresses) := by
  have hvalue := admitsExactly_of_value address hg hs he
  constructor
  · rwa [← mem_javaSplit_iff_listed ha hc]
  · rintro addresses hne hall rfl
    rwa [← mem_javaSplit_intercalate hne (fun b hb => (hall b hb).2) ha]

def listedAddresses : List String := ["10.0.0.11", "10.0.0.7"]

def listedGroup : GroupModel :=
  ⟨"g1", "office", none, [⟨ipAdres, ["10.0.0.11,10.0.0.7"]⟩].toAList⟩

def listedUser : UserModel := ⟨"u1", "joe", none, ∅, [listedGroup], [], ∅⟩

/-- A prefix of a listed address is not listed. -/
theorem prefix_address_not_admitted :
    AdmitsExactly [] listedUser "10.0.0.1" (Listed "10.0.0.1" "10.0.0.11,10.0.0.7") ∧
    AdmitsExactly [] listedUser "10.0.0.1" ("10.0.0.1" ∈ listedAddresses) := by
  have stored : getFirst listedGroup.attributes ipAdres = some "10.0.0.11,10.0.0.7" := by decide
  obtain ⟨listed, joined⟩ := allow_list_admits_exactly [] listedUser "10.0.0.1" rfl stored
    (by decide) (by decide) (by decide)
  exact ⟨listed, joined listedAddresses (by decide) (by decide) (by decide)⟩

end IPRestrictedAddress
