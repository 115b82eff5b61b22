import Mathlib.Data.List.Basic

/-! Loops over a list whose body may fail, in `Except`: a search that stops at the first hit
and a fold, each with what it gives when no body it reaches fails. -/
namespace LibraryFallible

variable {ε α β : Type}

theorem anyM_answers {p : α → Except ε Bool} {q : α → Prop} {l : List α}
    (h : ∀ a ∈ l, ∃ b, p a = .ok b ∧ (b = true ↔ q a)) :
    ∃ b, l.anyM p = .ok b ∧ (b = true ↔ ∃ a ∈ l, q a) := by
  induction l with
  | nil => exact ⟨false, rfl, by simp⟩
  | cons a l ih =>
    obtain ⟨b, hp, hb⟩ := h a List.mem_cons_self
    obtain ⟨b', hp', hb'⟩ := ih fun x hx => h x (List.mem_cons_of_mem a hx)
    cases b with
    | true =>
      refine ⟨true, by rw [List.anyM, hp]; rfl, ?_⟩
      simpa using Or.inl (hb.mp rfl)
    | false =>
      refine ⟨b', by rw [List.anyM, hp]; exact hp', ?_⟩
      have hn : ¬ q a := fun hq => Bool.false_ne_true (hb.mpr hq)
      simpa [hn] using hb'

theorem foldlM_of_ok {f : β → α → Except ε β} {g : β → α → β} {l : List α}
    (h : ∀ a ∈ l, ∀ b, f b a = .ok (g b a)) (b : β) :
    l.foldlM f b = .ok (l.foldl g b) := by
  induction l generalizing b with
  | nil => rfl
  | cons a l ih =>
    rw [List.foldlM_cons, h a List.mem_cons_self b]
    exact ih (fun x hx => h x (List.mem_cons_of_mem a hx)) (g b a)

/-- Where the accumulator does not decide whether the body fails, the elements do. -/
theorem foldlM_ok_iff {f : β → α → Except ε β} {q : α → Prop} {l : List α}
    (h : ∀ b a, (∃ c, f b a = .ok c) ↔ q a) (b : β) :
    (∃ c, l.foldlM f b = .ok c) ↔ ∀ a ∈ l, q a := by
  induction l generalizing b with
  | nil => exact ⟨fun _ _ hm => (List.not_mem_nil hm).elim, fun _ => ⟨b, rfl⟩⟩
  | cons a l ih =>
    rw [List.foldlM_cons, List.forall_mem_cons, ← h b a]
    cases hx : f b a with
    | error e =>
      constructor
      · rintro ⟨_, hc⟩
        cases hc
      · rintro ⟨⟨_, hc⟩, _⟩
        cases hc
    | ok c =>
      have hrest : (∃ c', l.foldlM f c = .ok c') ↔ ∀ a ∈ l, q a := ih c
      constructor
      · intro hok
        exact ⟨⟨c, rfl⟩, hrest.mp hok⟩
      · intro hall
        exact hrest.mpr hall.2

end LibraryFallible
