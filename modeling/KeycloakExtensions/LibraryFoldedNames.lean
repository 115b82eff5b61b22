import Mathlib.Data.Finmap

/-! Names that count as one when their keys are equal, as names do up to their case. A table of
values is kept twice, under the names as they were first spelled and under their keys with that
spelling. -/
namespace LibraryFoldedNames

variable {N K V : Type} [DecidableEq N] [DecidableEq K] (fold : N → K)

structure FoldedTable (N K V : Type) where
  spelled : Finmap fun _ : N => V
  folded : Finmap fun _ : K => N × V

def spelling (t : FoldedTable N K V) (name : N) : N :=
  ((t.folded.lookup (fold name)).map Prod.fst).getD name

def put (t : FoldedTable N K V) (name : N) (v : V) : FoldedTable N K V where
  spelled := t.spelled.insert (spelling fold t name) v
  folded := t.folded.insert (fold name) (spelling fold t name, v)

/-- The two maps say the same, and a spelling stands under its own key. -/
structure Mirrors (t : FoldedTable N K V) : Prop where
  key : ∀ k name v, t.folded.lookup k = some (name, v) → fold name = k
  mirror : ∀ name v, t.spelled.lookup name = some v ↔
    t.folded.lookup (fold name) = some (name, v)

variable {fold} {t : FoldedTable N K V} {name : N} {v : V}

theorem fold_spelling (h : Mirrors fold t) : fold (spelling fold t name) = fold name := by
  rw [spelling]
  cases hl : t.folded.lookup (fold name) with
  | none => rfl
  | some entry => exact h.key (fold name) entry.1 entry.2 hl

theorem mirrors_put (h : Mirrors fold t) (name : N) (v : V) : Mirrors fold (put fold t name v) := by
  have hs : fold (spelling fold t name) = fold name := fold_spelling h
  constructor
  · intro k name' v' hl
    by_cases hk : k = fold name
    · subst hk
      rw [put, Finmap.lookup_insert] at hl
      cases hl
      exact hs
    · rw [put, Finmap.lookup_insert_of_ne _ hk] at hl
      exact h.key k name' v' hl
  · intro name' v'
    by_cases hn : name' = spelling fold t name
    · subst hn
      rw [put, hs, Finmap.lookup_insert, Finmap.lookup_insert]
      simp
    rw [put, Finmap.lookup_insert_of_ne _ hn, h.mirror]
    by_cases hk : fold name' = fold name
    · -- another name of this key: it has no entry of its own, before or after
      rw [hk, Finmap.lookup_insert]
      have hfree : t.folded.lookup (fold name) ≠ some (name', v') := by
        intro hl
        apply hn
        rw [spelling, hl]
        rfl
      have hother : some (spelling fold t name, v) ≠ some (name', v') := by
        intro he
        cases he
        exact hn rfl
      exact iff_of_false hfree hother
    · rw [Finmap.lookup_insert_of_ne _ hk]

/-- Two names of one key are not both in the table. -/
theorem Mirrors.spelling_unique (h : Mirrors fold t) {name' : N} (hn : name ∈ t.spelled)
    (hn' : name' ∈ t.spelled) (hk : fold name = fold name') : name = name' := by
  obtain ⟨v, hv⟩ := Finmap.mem_iff.mp hn
  obtain ⟨v', hv'⟩ := Finmap.mem_iff.mp hn'
  have hl := (h.mirror name v).mp hv
  rw [hk, (h.mirror name' v').mp hv'] at hl
  cases hl
  rfl

/-! ## The table of a history -/

def empty : FoldedTable N K V := ⟨∅, ∅⟩

theorem mirrors_empty : Mirrors fold (empty : FoldedTable N K V) := by
  constructor
  · intro k name v hl
    cases hl
  · intro name v
    exact iff_of_false (fun hl => by cases hl) (fun hl => by cases hl)

variable (fold) in
def putAll (l : List (N × V)) : FoldedTable N K V :=
  l.foldl (fun t entry => put fold t entry.1 entry.2) empty

variable (fold) in
/-- What was put under the key, in order. -/
def putsAt (k : K) (l : List (N × V)) : List (N × V) :=
  l.filter fun entry => decide (fold entry.1 = k)

theorem putAll_concat (l : List (N × V)) (entry : N × V) :
    putAll fold (l ++ [entry]) = put fold (putAll fold l) entry.1 entry.2 :=
  List.foldl_concat ..

theorem mirrors_putAll (l : List (N × V)) : Mirrors fold (putAll fold l) := by
  induction l using List.reverseRecOn with
  | nil => exact mirrors_empty
  | append_singleton l entry ih =>
    rw [putAll_concat]
    exact mirrors_put ih entry.1 entry.2

/-- The table holds, under each key, the first spelling and the last value put there. -/
theorem folded_putAll (l : List (N × V)) (k : K) : (putAll fold l).folded.lookup k =
    (putsAt fold k l).head?.bind fun first =>
      (putsAt fold k l).getLast?.map fun last => (first.1, last.2) := by
  induction l using List.reverseRecOn with
  | nil => rfl
  | append_singleton l entry ih =>
    rw [putAll_concat, put]
    by_cases hk : fold entry.1 = k
    · have hputs : putsAt fold k (l ++ [entry]) = putsAt fold k l ++ [entry] := by
        simp [putsAt, hk]
      rw [hputs, hk, Finmap.lookup_insert, spelling, hk, ih]
      cases hl : putsAt fold k l with
      | nil => simp
      | cons first rest => simp [List.getLast?_cons]
    · have hputs : putsAt fold k (l ++ [entry]) = putsAt fold k l := by
        simp [putsAt, hk]
      rw [hputs, ← ih, Finmap.lookup_insert_of_ne _ (Ne.symm hk)]

theorem spelled_putAll (l : List (N × V)) (name : N) (v : V) :
    (putAll fold l).spelled.lookup name = some v ↔
      ∃ first ∈ (putsAt fold (fold name) l).head?, ∃ last ∈ (putsAt fold (fold name) l).getLast?,
        first.1 = name ∧ last.2 = v := by
  rw [(mirrors_putAll l).mirror, folded_putAll]
  simp [Option.bind_eq_some_iff]

variable (fold) in
theorem value_putAll (l : List (N × V)) (k : K) :
    ((putAll fold l).folded.lookup k).map Prod.snd = (putsAt fold k l).getLast?.map Prod.snd := by
  rw [folded_putAll]
  cases putsAt fold k l with
  | nil => rfl
  | cons first rest => simp [List.getLast?_cons]

end LibraryFoldedNames
