import Mathlib.Data.List.Forall2
import Mathlib.Order.Basic

/-! Systems that take labelled steps, their finite runs, and what a guard on every step of a
run gives. A label may stand for the choice of an adversary or of a scheduler. -/
namespace LibraryRuns

/-- Where a fold ends it began, or one of what it was folded over has put it there. -/
theorem foldl_or_from {B T : Type*} {put : T → B → T} {X : B → T → Prop}
    (puts : ∀ t b, put t b = t ∨ X b (put t b)) (bs : List B) (t : T) :
    bs.foldl put t = t ∨ ∃ b ∈ bs, X b (bs.foldl put t) := by
  induction bs generalizing t with
  | nil => exact Or.inl rfl
  | cons b bs ih =>
    rw [List.foldl_cons]
    rcases ih (put t b) with hsame | ⟨c, hc, hx⟩
    · rw [hsame]
      exact (puts t b).imp_right fun hx => ⟨b, List.mem_cons_self, hx⟩
    · exact Or.inr ⟨c, List.mem_cons_of_mem b hc, hx⟩

structure Machine (S A : Type*) where
  Enabled : S → A → Prop
  next : S → A → S

variable {S A : Type*} (M : Machine S A)

namespace Machine

def run (s : S) (as : List A) : S := as.foldl M.next s

/-- `P` holds at every step of the run, in the state before the step. -/
def Along (P : S → A → Prop) : S → List A → Prop
  | _, [] => True
  | s, a :: as => P s a ∧ Along P (M.next s a) as

def Valid (s : S) (as : List A) : Prop := M.Along M.Enabled s as

variable {M} {P Q : S → A → Prop}

/-- The run rule: a guard under which every possible step keeps the invariant keeps it at the
end, and gives at each step whatever it implies there. -/
theorem guarded_run {I : S → Prop}
    (keep : ∀ s a, I s → M.Enabled s a → P s a → I (M.next s a) ∧ Q s a)
    {s : S} {as : List A} (h0 : I s) (hv : M.Valid s as) (hg : M.Along P s as) :
    I (M.run s as) ∧ M.Along Q s as := by
  induction as generalizing s with
  | nil => exact ⟨h0, trivial⟩
  | cons a as ih =>
    obtain ⟨hi, hq⟩ := keep s a h0 hv.1 hg.1
    obtain ⟨hi', hq'⟩ := ih hi hv.2 hg.2
    exact ⟨hi', hq, hq'⟩

/-- The invariant rule: what every step keeps is kept by every run. -/
theorem run_invariant {I : S → Prop} (keep : ∀ s a, I s → I (M.next s a)) {s : S} (h0 : I s)
    (as : List A) : I (M.run s as) := by
  induction as generalizing s with
  | nil => exact h0
  | cons a as ih => exact ih (keep s a h0)

theorem valid_invariant {I : S → Prop}
    (keep : ∀ s a, I s → M.Enabled s a → I (M.next s a)) {s : S} {as : List A} (h0 : I s)
    (hv : M.Valid s as) : I (M.run s as) :=
  (guarded_run (P := M.Enabled) (Q := fun _ _ => True)
    (fun s a hi he _ => ⟨keep s a hi he, trivial⟩) h0 hv hv).1

theorem run_append (s : S) (as bs : List A) : M.run s (as ++ bs) = M.run (M.run s as) bs :=
  List.foldl_append

theorem along_append {s : S} {as bs : List A} :
    M.Along P s (as ++ bs) ↔ M.Along P s as ∧ M.Along P (M.run s as) bs := by
  induction as generalizing s with
  | nil => exact ⟨fun h => ⟨trivial, h⟩, And.right⟩
  | cons a as ih =>
    rw [List.cons_append]
    exact (and_congr_right fun _ => ih).trans and_assoc.symm

theorem along_of_forall {G : A → Prop} {as : List A} (h : ∀ a ∈ as, G a) (s : S) :
    M.Along (fun _ a => G a) s as := by
  induction as generalizing s with
  | nil => trivial
  | cons a as ih =>
    exact ⟨h a List.mem_cons_self, ih (fun b hb => h b (List.mem_cons_of_mem a hb)) _⟩

/-- The rule for what some steps bring about and others end: it holds after a run exactly when
it held before and nothing ended it, or some step brought it about and nothing ended it since. -/
theorem since_iff {X : S → Prop} {creates keeps : S → A → Prop}
    (spec : ∀ s a, M.Enabled s a → (X (M.next s a) ↔ creates s a ∨ X s ∧ keeps s a))
    {s : S} {as : List A} (hv : M.Valid s as) :
    X (M.run s as) ↔ (X s ∧ M.Along keeps s as) ∨
      ∃ before a after, as = before ++ a :: after ∧ creates (M.run s before) a ∧
        M.Along keeps (M.next (M.run s before) a) after := by
  induction as generalizing s with
  | nil => simp [run, Along]
  | cons a as ih =>
    have hrun : M.run s (a :: as) = M.run (M.next s a) as := rfl
    rw [hrun, ih hv.2, spec s a hv.1]
    constructor
    · rintro (⟨hcreates | ⟨hx, hk⟩, halong⟩ | ⟨before, b, after, rfl, hcreates, halong⟩)
      · exact Or.inr ⟨[], a, as, rfl, hcreates, halong⟩
      · exact Or.inl ⟨hx, hk, halong⟩
      · exact Or.inr ⟨a :: before, b, after, rfl, hcreates, halong⟩
    · rintro (⟨hx, hk, halong⟩ | ⟨before, b, after, hsplit, hcreates, halong⟩)
      · exact Or.inl ⟨Or.inr ⟨hx, hk⟩, halong⟩
      · cases before with
        | nil =>
          cases hsplit
          exact Or.inl ⟨Or.inl hcreates, halong⟩
        | cons c before =>
          cases hsplit
          exact Or.inr ⟨before, b, after, rfl, hcreates, halong⟩

/-- The simulation rule: where every guarded step keeps the relation to a step of the other
machine, every guarded run keeps it to a run of that machine. -/
theorem run_simulates {T B : Type*} {N : Machine T B} {R : S → T → Prop} {observe : A → B}
    (keep : ∀ s t a, R s t → P s a → R (M.next s a) (N.next t (observe a)))
    {s : S} {t : T} {as : List A} (h0 : R s t) (hg : M.Along P s as) :
    R (M.run s as) (N.run t (as.map observe)) := by
  induction as generalizing s t with
  | nil => exact h0
  | cons a as ih => exact ih (keep s t a h0 hg.1) hg.2

/-- Two runs with related labels stay related where their steps do. -/
theorem run_related {T B : Type*} {N : Machine T B} {R : S → T → Prop} {G : A → B → Prop}
    (keep : ∀ s t a b, R s t → G a b → R (M.next s a) (N.next t b))
    {s : S} {t : T} {as : List A} {bs : List B} (h0 : R s t) (hg : List.Forall₂ G as bs) :
    R (M.run s as) (N.run t bs) := by
  induction hg generalizing s t with
  | nil => exact h0
  | cons hab _ ih => exact ih (keep s t _ _ h0 hab)

/-- What the steps of a run produce, in order. -/
def collect {B : Type*} (f : S → A → List B) : S → List A → List B
  | _, [] => []
  | s, a :: as => f s a ++ collect f (M.next s a) as

theorem map_collect {B C : Type*} (f : S → A → List B) (g : B → C) (s : S) (as : List A) :
    (M.collect f s as).map g = M.collect (fun s a => (f s a).map g) s as := by
  induction as generalizing s with
  | nil => rfl
  | cons a as ih => simp only [collect, List.map_append, ih]

/-- The projection rule: where every possible step is, on the other side of the relation, a run
of the other machine, every run is one too. -/
theorem run_projects {T B : Type*} {N : Machine T B} {R : S → T → Prop} {observe : S → A → List B}
    (keep : ∀ s t a, R s t → M.Enabled s a →
      N.Valid t (observe s a) ∧ R (M.next s a) (N.run t (observe s a)))
    {s : S} {t : T} {as : List A} (h0 : R s t) (hv : M.Valid s as) :
    N.Valid t (M.collect observe s as) ∧ R (M.run s as) (N.run t (M.collect observe s as)) := by
  induction as generalizing s t with
  | nil => exact ⟨trivial, h0⟩
  | cons a as ih =>
    obtain ⟨hvalid, hstep⟩ := keep s t a h0 hv.1
    obtain ⟨hvalid', hrun⟩ := ih hstep hv.2
    have hcollect : M.collect observe s (a :: as) =
        observe s a ++ M.collect observe (M.next s a) as := rfl
    rw [hcollect, run_append]
    exact ⟨along_append.mpr ⟨hvalid, hvalid'⟩, hrun⟩

/-- A record to which every step appends what it produces holds, after a run, what the run
produced. -/
theorem record_run {B : Type*} {f : S → A → List B} {r : S → List B}
    (appends : ∀ s a, r (M.next s a) = r s ++ f s a) (s : S) (as : List A) :
    r (M.run s as) = r s ++ M.collect f s as := by
  induction as generalizing s with
  | nil => exact (List.append_nil _).symm
  | cons a as ih =>
    have hrest := ih (M.next s a)
    rw [appends, List.append_assoc] at hrest
    exact hrest

/-- The balance rule: where every possible step turns some of what is left, and some of what it
adds to it, into what it yields, all that was left or added in a run is yielded or still left. -/
theorem balance_run {B : Type*} {f g : S → A → List B} {r : S → List B}
    (balances : ∀ s a, M.Enabled s a → (f s a ++ r (M.next s a)).Perm (r s ++ g s a))
    {s : S} {as : List A} (hv : M.Valid s as) :
    (M.collect f s as ++ r (M.run s as)).Perm (r s ++ M.collect g s as) := by
  induction as generalizing s with
  | nil => simp [collect, run]
  | cons a as ih =>
    have hstep := (balances s a hv.1).append_right (M.collect g (M.next s a) as)
    have hrest := (ih hv.2).append_left (f s a)
    simp only [List.append_assoc] at hstep hrest
    simp only [collect, List.append_assoc]
    exact hrest.trans hstep

/-- What holds of all that each step of a run produces holds of all that the run produces. -/
theorem forall_mem_collect {B : Type*} {f : S → A → List B} {G : B → Prop} {s : S} {as : List A}
    (h : M.Along (fun s a => ∀ b ∈ f s a, G b) s as) : ∀ b ∈ M.collect f s as, G b := by
  induction as generalizing s with
  | nil => simp [collect]
  | cons a as ih =>
    intro b hb
    rcases List.mem_append.mp hb with hb | hb
    · exact h.1 b hb
    · exact ih h.2 b hb

/-- What every step changes by a fold over what it produces is changed by a run by the fold over
what the run produced. -/
theorem fold_run {B T : Type*} {f : S → A → List B} {r : S → T} {put : T → B → T}
    (folds : ∀ s a, r (M.next s a) = (f s a).foldl put (r s)) (s : S) (as : List A) :
    r (M.run s as) = (M.collect f s as).foldl put (r s) := by
  induction as generalizing s with
  | nil => rfl
  | cons a as ih =>
    have hrest := ih (M.next s a)
    rw [folds, ← List.foldl_append] at hrest
    exact hrest

/-- The history rule: what every possible, guarded step keeps between the steps so far and the
state reached holds between a run and its end. -/
theorem run_history {I : List A → S → Prop}
    (keep : ∀ before s a, I before s → M.Enabled s a → P s a → I (before ++ [a]) (M.next s a))
    {s : S} {before as : List A} (h0 : I before s) (hv : M.Valid s as) (hg : M.Along P s as) :
    I (before ++ as) (M.run s as) := by
  induction as generalizing s before with
  | nil => rwa [List.append_nil]
  | cons a as ih =>
    have hstep := ih (keep before s a h0 hv.1 hg.1) hv.2 hg.2
    rwa [List.append_assoc] at hstep

/-- What the steps of a run add up to. -/
def total (f : S → A → ℕ) : S → List A → ℕ
  | _, [] => 0
  | s, a :: as => f s a + total f (M.next s a) as

/-- The potential rule: costs that are covered, step by step, by a potential of the state and by
what the step earns are covered over the whole run. -/
theorem total_le {cost gain : S → A → ℕ} {potential : S → ℕ}
    (covered : ∀ s a, P s a →
      cost s a + potential (M.next s a) ≤ potential s + gain s a)
    {s : S} {as : List A} (hg : M.Along P s as) :
    M.total cost s as + potential (M.run s as) ≤ potential s + M.total gain s as := by
  induction as generalizing s with
  | nil => simp [total, run]
  | cons a as ih =>
    have hstep := covered s a hg.1
    have hrest := ih hg.2
    simp only [total]
    simp only [run, List.foldl_cons] at hrest ⊢
    omega

end Machine

end LibraryRuns
