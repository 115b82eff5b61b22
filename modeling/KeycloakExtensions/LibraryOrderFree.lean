import Mathlib.Data.List.Forall2
import Mathlib.Data.List.Perm.Basic

/-! Decisions that look at the first element of an enumeration whose order is not fixed. The
elements may also vary themselves, within a relation. -/
namespace LibraryOrderFree

variable {α β : Type*} {R : α → α → Prop}

/-- Another enumeration: every element may vary within `R`, and the order is free. -/
def Reordered (R : α → α → Prop) (l l' : List α) : Prop :=
  ∃ mid, List.Forall₂ R l mid ∧ mid.Perm l'

theorem forall₂_refl (hR : ∀ a, R a a) (l : List α) : List.Forall₂ R l l :=
  List.forall₂_same.mpr fun a _ => hR a

theorem mem_of_forall₂ {l mid : List α} (h : List.Forall₂ R l mid) {a' : α} (ha : a' ∈ mid) :
    ∃ a ∈ l, R a a' := by
  induction h with
  | nil => cases ha
  | @cons b b' l mid hb _ ih =>
    rcases List.mem_cons.mp ha with rfl | ha
    · exact ⟨b, List.mem_cons_self, hb⟩
    · obtain ⟨a, hm, hr⟩ := ih ha
      exact ⟨a, List.mem_cons_of_mem b hm, hr⟩

theorem exists_reordered_head (hR : ∀ a, R a a) {l : List α} {a a' : α} (ha : a ∈ l)
    (hr : R a a') : ∃ rest, Reordered R l (a' :: rest) := by
  obtain ⟨before, after, rfl⟩ := List.append_of_mem ha
  refine ⟨before ++ after, before ++ a' :: after, ?_, List.perm_middle⟩
  exact List.rel_append (forall₂_refl hR before) (.cons hr (forall₂_refl hR after))

/-- A value read off the first element is the same in every enumeration exactly when all
elements, however varied, give one value. -/
theorem head_invariant_iff (hR : ∀ a, R a a) (f : α → β) (l : List α) :
    (∀ l', Reordered R l l' → l'.head?.map f = l.head?.map f) ↔
    ∀ a ∈ l, ∀ a', R a a' → ∀ b ∈ l, ∀ b', R b b' → f a' = f b' := by
  constructor
  · intro h a ha a' hra b hb b' hrb
    obtain ⟨resta, hla⟩ := exists_reordered_head hR ha hra
    obtain ⟨restb, hlb⟩ := exists_reordered_head hR hb hrb
    exact Option.some.inj ((h _ hla).trans (h _ hlb).symm)
  · rintro h l' ⟨mid, hmid, hperm⟩
    cases l with
    | nil =>
      cases hmid
      rw [hperm.nil_eq]
    | cons b l =>
      cases l' with
      | nil =>
        cases hperm.eq_nil
        cases hmid
      | cons a' l' =>
        obtain ⟨a, ha, hr⟩ := mem_of_forall₂ hmid (hperm.mem_iff.mpr List.mem_cons_self)
        exact congrArg some (h a ha a' hr b List.mem_cons_self b (hR b))

end LibraryOrderFree
