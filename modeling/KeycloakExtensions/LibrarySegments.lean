import Mathlib.Data.List.DropRight

/-! Segments of a list between the occurrences of a separator: the pieces of a split are
exactly the separator-free segments that reach from one separator, or an end of the list, to
the next. The split of a text on one character, as Java has it, is a case of it. -/
namespace LibrarySegments

variable {α : Type*} {sep : α} {a l : List α}

/-- `a` stands in `l` between two places where a separator or an end of the list is. -/
def IsSegment (sep : α) (a l : List α) : Prop :=
  ∃ p q, l = p ++ a ++ q ∧ (p = [] ∨ ∃ p', p = p' ++ [sep]) ∧ (q = [] ∨ ∃ q', q = sep :: q')

theorem IsSegment.after (front : List α) (h : IsSegment sep a l) :
    IsSegment sep a (front ++ sep :: l) := by
  obtain ⟨p, q, rfl, hp, hq⟩ := h
  refine ⟨front ++ sep :: p, q, by simp, Or.inr ?_, hq⟩
  rcases hp with rfl | ⟨p', rfl⟩
  · exact ⟨front, rfl⟩
  · exact ⟨front ++ sep :: p', by simp⟩

/-- Every piece of a joined list is a segment of the result. -/
theorem isSegment_intercalate {pieces : List (List α)} (h : a ∈ pieces) :
    IsSegment sep a ([sep].intercalate pieces) := by
  induction pieces with
  | nil => cases h
  | cons x pieces ih =>
    cases pieces with
    | nil =>
      obtain rfl := List.mem_singleton.mp h
      exact ⟨[], [], by simp, Or.inl rfl, Or.inl rfl⟩
    | cons y rest =>
      have hjoin : [sep].intercalate (x :: y :: rest) =
          x ++ sep :: [sep].intercalate (y :: rest) := by simp
      rw [hjoin]
      rcases List.mem_cons.mp h with rfl | hm
      · exact ⟨[], sep :: [sep].intercalate (y :: rest), by simp, Or.inl rfl, Or.inr ⟨_, rfl⟩⟩
      · exact (ih hm).after x

variable [DecidableEq α]

theorem mem_splitOn_front {q : List α} (h : sep ∉ a) (hq : q = [] ∨ ∃ q', q = sep :: q') :
    a ∈ (a ++ q).splitOn sep := by
  rcases hq with rfl | ⟨q', rfl⟩
  · rw [List.append_nil, List.splitOn_eq_singleton h]
    exact List.mem_singleton.mpr rfl
  · rw [List.splitOn_append_cons_self_of_not_mem h]
    exact List.mem_cons_self

theorem mem_splitOn_iff (h : sep ∉ a) : a ∈ l.splitOn sep ↔ IsSegment sep a l := by
  constructor
  · intro hm
    have hs : IsSegment sep a ([sep].intercalate (l.splitOn sep)) := isSegment_intercalate hm
    rwa [List.intercalate_splitOn] at hs
  · rintro ⟨p, q, rfl, rfl | ⟨p', rfl⟩, hq⟩
    · exact mem_splitOn_front h hq
    · have hsplit : p' ++ [sep] ++ a ++ q = p' ++ sep :: (a ++ q) := by simp
      rw [hsplit, List.splitOn_append_cons_self]
      exact List.mem_append_right _ (mem_splitOn_front h hq)

/-- Dropping pieces from the end loses only pieces of the dropped kind. -/
theorem mem_rdropWhile_of_not {β : Type*} {p : β → Bool} {pieces : List β} {x : β}
    (hx : p x = false) : x ∈ pieces.rdropWhile p ↔ x ∈ pieces := by
  induction pieces using List.reverseRecOn with
  | nil => simp
  | append_singleton pieces y ih =>
    cases hy : p y with
    | true =>
      rw [List.rdropWhile_concat_pos _ _ _ hy, ih, List.mem_append, List.mem_singleton]
      constructor
      · exact Or.inl
      · rintro (hm | rfl)
        · exact hm
        · rw [hy] at hx
          cases hx
    | false => rw [List.rdropWhile_concat_neg _ _ _ (by simp [hy])]

/-! ## Texts -/

/-- `String.split` on one character: a text without the separator is returned whole, otherwise
the empty pieces at the end are dropped. -/
def javaSplit (sep : Char) (s : String) : List String :=
  let pieces := s.toList.splitOn sep
  (if pieces.length = 1 then pieces else pieces.rdropWhile List.isEmpty).map String.ofList

variable {sep : Char} {s t : String}

theorem isEmpty_of_ne_empty (h : t ≠ "") : t.toList.isEmpty = false := by
  rw [List.isEmpty_eq_false_iff]
  intro hl
  exact h (String.toList_eq_nil_iff.mp hl)

/-- The pieces that `split` drops are empty. -/
theorem mem_javaSplit_iff (ht : t ≠ "") :
    t ∈ javaSplit sep s ↔ t.toList ∈ s.toList.splitOn sep := by
  have hmap (pieces : List (List Char)) :
      t ∈ pieces.map String.ofList ↔ t.toList ∈ pieces := by
    rw [List.mem_map]
    constructor
    · rintro ⟨piece, hm, rfl⟩
      simpa using hm
    · intro hm
      exact ⟨_, hm, by simp⟩
  rw [javaSplit, hmap]
  split
  · exact Iff.rfl
  · exact mem_rdropWhile_of_not (isEmpty_of_ne_empty ht)

/-- Storing a list of texts and splitting it again loses none and adds none. -/
theorem mem_javaSplit_intercalate {texts : List String} (hne : texts ≠ [])
    (hall : ∀ u ∈ texts, sep ∉ u.toList) (ht : t ≠ "") :
    t ∈ javaSplit sep ((String.singleton sep).intercalate texts) ↔ t ∈ texts := by
  have hseps : ∀ piece ∈ texts.map String.toList, sep ∉ piece := by
    intro piece hm
    obtain ⟨u, hu, rfl⟩ := List.mem_map.mp hm
    exact hall u hu
  have hsplit : ((String.singleton sep).intercalate texts).toList.splitOn sep =
      texts.map String.toList := by
    rw [String.toList_intercalate, String.toList_singleton]
    exact List.splitOn_intercalate sep hseps (by simpa using hne)
  rw [mem_javaSplit_iff ht, hsplit, List.mem_map]
  constructor
  · rintro ⟨u, hu, he⟩
    rwa [← String.toList_injective he]
  · intro hm
    exact ⟨t, hm, rfl⟩

/-- A text of two pieces is split into them. -/
theorem javaSplit_pair (hs : sep ∉ s.toList) (hne : t ≠ "") (ht : sep ∉ t.toList) :
    javaSplit sep (s ++ String.singleton sep ++ t) = [s, t] := by
  have hsplit : (s ++ String.singleton sep ++ t).toList.splitOn sep = [s.toList, t.toList] := by
    have hlist : (s ++ String.singleton sep ++ t).toList = s.toList ++ sep :: t.toList := by simp
    rw [hlist, List.splitOn_append_cons_self_of_not_mem hs, List.splitOn_eq_singleton ht]
  have hdrop : [s.toList, t.toList].rdropWhile List.isEmpty = [s.toList, t.toList] := by
    rw [List.rdropWhile_eq_self_iff]
    intro _ h
    simp [isEmpty_of_ne_empty hne] at h
  simp only [javaSplit, hsplit, hdrop]
  simp

example : javaSplit ',' "10.0.0.1,,10.0.0.7,," = ["10.0.0.1", "", "10.0.0.7"] := by decide
example : javaSplit ',' "" = [""] := by decide

end LibrarySegments
