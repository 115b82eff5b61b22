import Mathlib.Data.Finmap

/-! Finite maps filled from a list: every element puts its value under its key, over what stood
there before. Elements may share keys. -/
namespace LibraryPutFold

variable {α K V : Type} [DecidableEq K] (key : α → K) (value : α → V)

def putAll (m : Finmap fun _ : K => V) (l : List α) : Finmap fun _ : K => V :=
  l.foldl (fun m a => m.insert (key a) (value a)) m

def Coherent (l : List α) : Prop := ∀ a ∈ l, ∀ b ∈ l, key a = key b → value a = value b

variable {key value} {m : Finmap fun _ : K => V} {l l' : List α} {k : K}

theorem putAll_cons (a : α) :
    putAll key value m (a :: l) = putAll key value (m.insert (key a) (value a)) l := rfl

theorem lookup_putAll_fresh (h : ∀ a ∈ l, key a ≠ k) :
    (putAll key value m l).lookup k = m.lookup k := by
  induction l generalizing m with
  | nil => rfl
  | cons a l ih =>
    rw [putAll_cons, ih fun x hx => h x (List.mem_cons_of_mem a hx)]
    exact Finmap.lookup_insert_of_ne m (Ne.symm (h a List.mem_cons_self))

theorem lookup_putAll_source {v : V} (h : (putAll key value m l).lookup k = some v) :
    m.lookup k = some v ∨ ∃ a ∈ l, key a = k ∧ value a = v := by
  induction l generalizing m with
  | nil => exact Or.inl h
  | cons a l ih =>
    rcases ih h with hm | ⟨b, hb, hk, hv⟩
    · by_cases ha : key a = k
      · subst ha
        rw [Finmap.lookup_insert] at hm
        exact Or.inr ⟨a, List.mem_cons_self, rfl, Option.some.inj hm⟩
      · rw [Finmap.lookup_insert_of_ne m (Ne.symm ha)] at hm
        exact Or.inl hm
    · exact Or.inr ⟨b, List.mem_cons_of_mem a hb, hk, hv⟩

theorem lookup_putAll_mem (hc : Coherent key value l) {a : α} (ha : a ∈ l) :
    (putAll key value m l).lookup (key a) = some (value a) := by
  induction l generalizing m a with
  | nil => cases ha
  | cons b l ih =>
    have hl : Coherent key value l := fun x hx y hy =>
      hc x (List.mem_cons_of_mem b hx) y (List.mem_cons_of_mem b hy)
    -- a later element puts under the key again, or this one is the last to do so
    by_cases hr : ∃ c ∈ l, key c = key a
    · obtain ⟨c, hcl, hk⟩ := hr
      rw [putAll_cons, ← hk, ih hl hcl, hc c (List.mem_cons_of_mem b hcl) a ha hk]
    · have hab : a = b := (List.mem_cons.mp ha).resolve_right fun hal => hr ⟨a, hal, rfl⟩
      subst hab
      rw [putAll_cons, lookup_putAll_fresh fun c hcl hk => hr ⟨c, hcl, hk⟩]
      exact Finmap.lookup_insert m

/-- Nothing is lost, that is every element finds its value under its key, only where elements
that share a key put the same value. -/
theorem coherent_of_complete
    (h : ∀ a ∈ l, (putAll key value m l).lookup (key a) = some (value a)) :
    Coherent key value l := by
  intro a ha b hb hk
  have hab := h a ha
  rw [hk, h b hb] at hab
  exact (Option.some.inj hab).symm

/-- Order and repetition do not matter where elements that share a key put the same value. -/
theorem putAll_congr (hc : Coherent key value l) (hm : ∀ a, a ∈ l ↔ a ∈ l') :
    putAll key value m l = putAll key value m l' := by
  have hc' : Coherent key value l' := fun a ha b hb => hc a ((hm a).mpr ha) b ((hm b).mpr hb)
  refine Finmap.ext_lookup fun k => ?_
  by_cases hk : ∃ a ∈ l, key a = k
  · obtain ⟨a, ha, rfl⟩ := hk
    rw [lookup_putAll_mem hc ha, lookup_putAll_mem hc' ((hm a).mp ha)]
  · rw [lookup_putAll_fresh fun a ha he => hk ⟨a, ha, he⟩,
      lookup_putAll_fresh fun a ha he => hk ⟨a, (hm a).mpr ha, he⟩]

theorem mem_putAll : k ∈ putAll key value m l ↔ k ∈ m ∨ ∃ a ∈ l, key a = k := by
  induction l generalizing m with
  | nil => simp [putAll]
  | cons a l ih =>
    rw [putAll_cons, ih, Finmap.mem_insert]
    constructor
    · rintro ((rfl | hm) | ⟨b, hb, hk⟩)
      · exact Or.inr ⟨a, List.mem_cons_self, rfl⟩
      · exact Or.inl hm
      · exact Or.inr ⟨b, List.mem_cons_of_mem a hb, hk⟩
    · rintro (hm | ⟨b, hb, hk⟩)
      · exact Or.inl (Or.inr hm)
      · rcases List.mem_cons.mp hb with rfl | hb
        · exact Or.inl (Or.inl hk.symm)
        · exact Or.inr ⟨b, hb, hk⟩

theorem mem_putAll_empty : k ∈ putAll key value ∅ l ↔ ∃ a ∈ l, key a = k := by
  rw [mem_putAll]
  exact or_iff_right Finmap.notMem_empty

omit [DecidableEq K] in
theorem Coherent.subset (hc : Coherent key value l) (hs : l' ⊆ l) : Coherent key value l' :=
  fun a ha b hb => hc a (hs ha) b (hs hb)

/-- Filling from two lists one after the other is filling from each and joining the maps. -/
theorem putAll_append_union (hc : Coherent key value (l ++ l')) :
    putAll key value ∅ (l ++ l') = putAll key value ∅ l ∪ putAll key value ∅ l' := by
  have hl := hc.subset (List.subset_append_left l l')
  have hl' := hc.subset (List.subset_append_right l l')
  refine Finmap.ext_lookup fun k => ?_
  by_cases hk : ∃ a ∈ l, key a = k
  · have hm : k ∈ putAll key value ∅ l := mem_putAll_empty.mpr hk
    rw [Finmap.lookup_union_left hm]
    obtain ⟨a, ha, rfl⟩ := hk
    rw [lookup_putAll_mem hc (List.mem_append_left l' ha), lookup_putAll_mem hl ha]
  · have hm : k ∉ putAll key value ∅ l := fun hm => hk (mem_putAll_empty.mp hm)
    rw [Finmap.lookup_union_right hm]
    by_cases hk' : ∃ a ∈ l', key a = k
    · obtain ⟨a, ha, rfl⟩ := hk'
      rw [lookup_putAll_mem hc (List.mem_append_right l ha), lookup_putAll_mem hl' ha]
    · rw [lookup_putAll_fresh fun a ha he => hk' ⟨a, ha, he⟩, lookup_putAll_fresh]
      intro a ha he
      rcases List.mem_append.mp ha with ha | ha
      · exact hk ⟨a, ha, he⟩
      · exact hk' ⟨a, ha, he⟩

omit [DecidableEq K] in
theorem coherent_of_nodup (h : (l.map key).Nodup) : Coherent key value l :=
  fun _ ha _ hb hk => congrArg value (List.inj_on_of_nodup_map h ha hb hk)

end LibraryPutFold
