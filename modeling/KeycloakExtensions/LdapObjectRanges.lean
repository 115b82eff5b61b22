import KeycloakExtensions.LdapObjectNames

/-! # Attributes read range by range

A directory returns a large attribute in ranges, each in an entry of its own. Populating one
entry from these is a loop over shared sets: what it collects, when it is complete, and what it
leaves alone. -/
namespace LdapObjectRanges

open KeycloakModel LibraryEffects LibraryFoldedNames LibraryKeyedSet LibraryRuns LdapObject
  LdapObjectNames

variable {Consumer : Type} {lower : String → String} {w : World Consumer} {this obj : ObjectId}
  {name : String} {ref : SetRef}

/-- The attribute of the entry gets the values of the attribute in every entry read, nothing else
changes, and the range is complete exactly when the one read last was. -/
structure RangesRead (w w' : World Consumer) (this : ObjectId) (name : String) (ref : SetRef)
    (reads : List ObjectId) : Prop where
  values : ∀ v, v ∈ (w'.sets ref).elems ↔ v ∈ (w.sets ref).elems ∨ ∃ obj ∈ reads, ∃ r,
    (w.objects obj).attributes.lookup name = some r ∧ v ∈ (w.sets r).elems
  other_sets : ∀ r, r ≠ ref → w'.sets r = w.sets r
  other_objects : ∀ i, i ≠ this → w'.objects i = w.objects i
  entry : ∃ ranges, w'.objects this = withRanges (w.objects this) ranges ∧
    ∀ name', name' ≠ name → ranges.lookup name' = (w.objects this).rangedAttributes.lookup name'
  complete : isRangeComplete (w'.objects this) name =
    isRangeComplete (w.objects (reads.getLast?.getD this)) name

theorem isRangeCompleteForAllAttributes_iff (o : LDAPObject Consumer) :
    isRangeCompleteForAllAttributes o = true ↔ ∀ name, isRangeComplete o name = true := by
  simp only [isRangeCompleteForAllAttributes, isRangeComplete, decide_eq_true_eq]
  constructor
  · intro hnone name hname
    rw [hnone] at hname
    exact Finmap.notMem_empty hname
  · intro hall
    apply Finmap.ext_lookup
    intro name
    rw [Finmap.lookup_eq_none.mpr (hall name)]
    rfl

theorem RangesRead.cons {w' w'' : World Consumer} {reads : List ObjectId}
    (first : RangesRead w w' this name ref [obj]) (rest : RangesRead w' w'' this name ref reads)
    (hreads : ∀ obj ∈ reads, obj ≠ this) : RangesRead w w'' this name ref (obj :: reads) := by
  obtain ⟨ranges, hfirst, hranges⟩ := first.entry
  obtain ⟨ranges', hrest, hranges'⟩ := rest.entry
  have hvalues (v : String) := first.values v
  simp only [List.mem_singleton, exists_eq_left] at hvalues
  refine ⟨fun v => ?_, fun r hr => ?_, fun i hi => ?_, ⟨ranges', ?_, fun name' hname => ?_⟩, ?_⟩
  · rw [rest.values, hvalues, List.exists_mem_cons_iff, or_assoc]
    have later : (∃ o ∈ reads, ∃ r, (w'.objects o).attributes.lookup name = some r ∧
        v ∈ (w'.sets r).elems) → v ∈ (w.sets ref).elems ∨
        (∃ r, (w.objects obj).attributes.lookup name = some r ∧ v ∈ (w.sets r).elems) ∨
        ∃ o ∈ reads, ∃ r, (w.objects o).attributes.lookup name = some r ∧
          v ∈ (w.sets r).elems := by
      intro hcase
      rcases hcase with ⟨o, ho, r, hl, hv⟩
      rw [first.other_objects o (hreads o ho)] at hl
      -- the set read may be the one that has just grown
      by_cases hr : r = ref
      · subst hr
        rcases (hvalues v).mp hv with hv | hv
        · exact Or.inl hv
        · exact Or.inr (Or.inl hv)
      · rw [first.other_sets r hr] at hv
        exact Or.inr (Or.inr ⟨o, ho, r, hl, hv⟩)
    have earlier : (∃ o ∈ reads, ∃ r, (w.objects o).attributes.lookup name = some r ∧
        v ∈ (w.sets r).elems) → v ∈ (w.sets ref).elems ∨
        ∃ o ∈ reads, ∃ r, (w'.objects o).attributes.lookup name = some r ∧
          v ∈ (w'.sets r).elems := by
      intro hcase
      rcases hcase with ⟨o, ho, r, hl, hv⟩
      by_cases hr : r = ref
      · subst hr
        exact Or.inl hv
      · rw [← first.other_objects o (hreads o ho)] at hl
        rw [← first.other_sets r hr] at hv
        exact Or.inr ⟨o, ho, r, hl, hv⟩
    constructor
    · intro hcase
      rcases hcase with hv | hv | hv
      · exact Or.inl hv
      · exact Or.inr (Or.inl hv)
      · exact later hv
    · intro hcase
      rcases hcase with hv | hv | hv
      · exact Or.inl hv
      · exact Or.inr (Or.inl hv)
      · exact (earlier hv).imp_right Or.inr
  · rw [rest.other_sets r hr, first.other_sets r hr]
  · rw [rest.other_objects i hi, first.other_objects i hi]
  · rw [hrest, hfirst]
    rfl
  · rw [hranges' name' hname, hfirst]
    exact hranges name' hname
  · rw [rest.complete]
    cases reads using List.reverseRecOn with
    | nil => exact first.complete
    | append_singleton reads last =>
      have hlast : last ≠ this := hreads last (by simp)
      have hends : (obj :: (reads ++ [last])).getLast?.getD this = last := by
        rw [← List.cons_append, List.getLast?_concat]
        rfl
      rw [hends]
      simp [first.other_objects last hlast]

end LdapObjectRanges
