import Mathlib.Data.List.Nodup

/-! Sets whose elements are told apart by a key, as a hash set over objects with an identifier
is: an element is refused when its key is there already. The order in which such a set is
iterated is not its own and may differ from one iteration to the next. -/
namespace LibraryKeyedSet

variable {α K : Type*}

structure KeyedSet (key : α → K) where
  elems : List α
  nodup : (elems.map key).Nodup

/-- A choice of iteration order for every list of elements. -/
structure IterationOrder (α : Type*) where
  iterate : List α → List α
  perm : ∀ l, (iterate l).Perm l

theorem IterationOrder.mem_iterate (order : IterationOrder α) {l : List α} {a : α} :
    a ∈ order.iterate l ↔ a ∈ l := (order.perm l).mem_iff

def insertionOrder : IterationOrder α := ⟨id, List.Perm.refl⟩

def Identifies (key : α → K) (l : List α) : Prop := ∀ a ∈ l, ∀ b ∈ l, key a = key b → a = b

theorem Identifies.of_subset {key : α → K} {l l' : List α} (h : Identifies key l)
    (hs : l' ⊆ l) : Identifies key l' := fun a ha b hb => h a (hs ha) b (hs hb)

variable [DecidableEq K] {key : α → K} {s : KeyedSet key} {l : List α} {a : α}

namespace KeyedSet

def empty (key : α → K) : KeyedSet key := ⟨[], List.nodup_nil⟩

def add (s : KeyedSet key) (a : α) : KeyedSet key :=
  if h : key a ∈ s.elems.map key then s
  else ⟨s.elems ++ [a], by
    rw [List.map_append]
    refine List.Nodup.append s.nodup (List.nodup_singleton _) ?_
    exact List.disjoint_singleton.mpr h⟩

def addAll (s : KeyedSet key) (l : List α) : KeyedSet key := l.foldl add s

def ofList (key : α → K) (l : List α) : KeyedSet key := (empty key).addAll l

theorem mem_add (hi : Identifies key (a :: s.elems)) {b : α} :
    b ∈ (s.add a).elems ↔ b ∈ s.elems ∨ b = a := by
  rw [add]
  split
  next h =>
    -- the element that has the key is the refused one
    obtain ⟨c, hc, hk⟩ := List.mem_map.mp h
    have hca : c = a := hi c (List.mem_cons_of_mem a hc) a List.mem_cons_self hk
    constructor
    · exact Or.inl
    · rintro (hb | rfl)
      · exact hb
      · exact hca ▸ hc
  next h => simp

theorem mem_addAll (hi : Identifies key (s.elems ++ l)) :
    a ∈ (s.addAll l).elems ↔ a ∈ s.elems ∨ a ∈ l := by
  induction l generalizing s with
  | nil => simp [addAll]
  | cons b l ih =>
    have hb : Identifies key (b :: s.elems) := by
      refine hi.of_subset (List.cons_subset.mpr ⟨?_, List.subset_append_left _ _⟩)
      exact List.mem_append_right _ List.mem_cons_self
    have hrest : (s.add b).elems ++ l ⊆ s.elems ++ b :: l := by
      apply List.append_subset.mpr
      constructor
      · intro x hx
        rcases (mem_add hb).mp hx with hx | rfl
        · exact List.mem_append_left _ hx
        · exact List.mem_append_right _ List.mem_cons_self
      · exact fun x hx => List.mem_append_right _ (List.mem_cons_of_mem b hx)
    have htail := hi.of_subset hrest
    have hstep : a ∈ ((s.add b).addAll l).elems ↔ a ∈ (s.add b).elems ∨ a ∈ l := ih htail
    rw [mem_add hb, or_assoc, ← List.mem_cons] at hstep
    exact hstep

theorem mem_ofList (hi : Identifies key l) : a ∈ (ofList key l).elems ↔ a ∈ l := by
  have hempty : Identifies key ((empty key).elems ++ l) := hi
  have hm : a ∈ (ofList key l).elems ↔ a ∈ (empty key).elems ∨ a ∈ l := mem_addAll hempty
  rw [hm]
  exact or_iff_right List.not_mem_nil

end KeyedSet

end LibraryKeyedSet
