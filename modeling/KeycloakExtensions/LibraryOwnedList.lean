import Mathlib.Data.List.Basic

/-! The part of a list that one owner sees, and where the elements of the list stand in it. -/
namespace LibraryOwnedList

variable {α β : Type*} {f : α → Option β} {l : List α} {k : ℕ} {a a' : α} {b b' : β}

/-- The position, in the part `f` picks, of an element at position `k`. -/
def position (f : α → Option β) (l : List α) (k : ℕ) : ℕ := ((l.take k).filterMap f).length

theorem position_succ_of_some {x : α} (hx : f x = some b) :
    position f (x :: l) (k + 1) = position f l k + 1 := by
  simp [position, hx]

theorem position_succ_of_none {x : α} (hx : f x = none) :
    position f (x :: l) (k + 1) = position f l k := by
  simp [position, hx]

theorem position_total (hk : l[k]? = some a) : position some l k = k := by
  obtain ⟨hlt, _⟩ := List.getElem?_eq_some_iff.mp hk
  simp [position, Nat.min_eq_left (Nat.le_of_lt hlt)]

theorem getElem?_owned (hk : l[k]? = some a) (ha : f a = some b) :
    (l.filterMap f)[position f l k]? = some b := by
  induction l generalizing k with
  | nil => simp at hk
  | cons x l ih =>
    cases k with
    | zero =>
      obtain rfl : x = a := by simpa using hk
      simp [position, ha]
    | succ k =>
      have hrest : l[k]? = some a := by simpa using hk
      cases hx : f x with
      | none =>
        rw [position_succ_of_none hx, List.filterMap_cons_none hx]
        exact ih hrest
      | some y =>
        rw [position_succ_of_some hx, List.filterMap_cons_some hx, List.getElem?_cons_succ]
        exact ih hrest

theorem filterMap_set_owned (hk : l[k]? = some a) (ha : f a = some b) (ha' : f a' = some b') :
    (l.set k a').filterMap f = (l.filterMap f).set (position f l k) b' := by
  induction l generalizing k with
  | nil => simp at hk
  | cons x l ih =>
    cases k with
    | zero =>
      obtain rfl : x = a := by simpa using hk
      simp [position, ha, ha']
    | succ k =>
      have hrest : l[k]? = some a := by simpa using hk
      rw [List.set_cons_succ]
      cases hx : f x with
      | none =>
        rw [position_succ_of_none hx, List.filterMap_cons_none hx, List.filterMap_cons_none hx]
        exact ih hrest
      | some y =>
        rw [position_succ_of_some hx, List.filterMap_cons_some hx, List.filterMap_cons_some hx,
          List.set_cons_succ, ih hrest]

theorem filterMap_set_foreign (hk : l[k]? = some a) (ha : f a = none) (ha' : f a' = none) :
    (l.set k a').filterMap f = l.filterMap f := by
  induction l generalizing k with
  | nil => simp at hk
  | cons x l ih =>
    cases k with
    | zero =>
      obtain rfl : x = a := by simpa using hk
      simp [ha, ha']
    | succ k =>
      have hrest : l[k]? = some a := by simpa using hk
      rw [List.set_cons_succ]
      cases hx : f x with
      | none => rw [List.filterMap_cons_none hx, List.filterMap_cons_none hx, ih hrest]
      | some y => rw [List.filterMap_cons_some hx, List.filterMap_cons_some hx, ih hrest]

/-- An element that is picked no longer leaves the part. -/
theorem filterMap_set_dropped (hk : l[k]? = some a) (ha : f a = some b) (ha' : f a' = none) :
    (b :: (l.set k a').filterMap f).Perm (l.filterMap f) := by
  induction l generalizing k with
  | nil => simp at hk
  | cons x l ih =>
    cases k with
    | zero =>
      obtain rfl : x = a := by simpa using hk
      simp [ha, ha']
    | succ k =>
      have hrest : l[k]? = some a := by simpa using hk
      rw [List.set_cons_succ]
      cases hx : f x with
      | none =>
        rw [List.filterMap_cons_none hx, List.filterMap_cons_none hx]
        exact ih hrest
      | some y =>
        rw [List.filterMap_cons_some hx, List.filterMap_cons_some hx]
        exact (List.Perm.swap y b _).trans ((ih hrest).cons y)

theorem filterMap_set_same (hk : l[k]? = some a) (hsame : f a' = f a) :
    (l.set k a').filterMap f = l.filterMap f := by
  cases ha : f a with
  | none => exact filterMap_set_foreign hk ha (hsame.trans ha)
  | some b =>
    obtain ⟨hlt, hb⟩ := List.getElem?_eq_some_iff.mp (getElem?_owned hk ha)
    rw [filterMap_set_owned hk ha (hsame.trans ha)]
    subst hb
    exact List.set_getElem_self hlt

theorem map_set_same {g : α → β} (hk : l[k]? = some a) (hsame : g a' = g a) :
    (l.set k a').map g = l.map g := by
  have hsome := filterMap_set_same (f := some ∘ g) hk (congrArg some hsame)
  rwa [List.filterMap_eq_map] at hsome

theorem forall_mem_set {P : α → Prop} (hold : ∀ x ∈ l, P x) (hnew : P a') :
    ∀ x ∈ l.set k a', P x := by
  intro x hx
  have hcase := List.mem_or_eq_of_mem_set hx
  exact hcase.elim (hold x) (fun he => he ▸ hnew)

end LibraryOwnedList
