import Mathlib.Data.List.Forall2
import Mathlib.Data.List.Induction
import Mathlib.Logic.Relation

/-! # Distinguished names

`LDAPDn` over the name it holds. A name is the list of its parts with the root part first, so
that the part read first in the text is the last of the list; `same` is how two parts compare
equal, which ignores case. -/
namespace LdapDn

variable {Rdn : Type} (same : Rdn → Rdn → Prop) [DecidableRel same]

abbrev LdapName (Rdn : Type) := List Rdn

/-- `LdapName.equals`: as many parts, each equal to its counterpart. -/
def equals : LdapName Rdn → LdapName Rdn → Bool
  | [], [] => true
  | rdn :: name, rdn' :: name' => decide (same rdn rdn') && equals name name'
  | _, _ => false

/-- `LdapName.startsWith`, on the parts that count from the root. -/
def startsWith : LdapName Rdn → LdapName Rdn → Bool
  | _, [] => true
  | [], _ :: _ => false
  | rdn :: name, rdn' :: name' => decide (same rdn rdn') && startsWith name name'

def getParentDn (dn : LdapName Rdn) : Option (LdapName Rdn) :=
  if 0 < dn.length then some (dn.take (dn.length - 1)) else none

def isDescendantOf (dn expectedParentDn : LdapName Rdn) : Bool :=
  match getParentDn dn with
  | none => false
  | some parent => startsWith same parent expectedParentDn

/-- `addFirst` of a part, as the name it leaves. -/
def addFirst (dn : LdapName Rdn) (entry : Rdn) : LdapName Rdn := dn ++ [entry]

/-! ## Names from their ends -/

variable {same} {dn dn' dn'' : LdapName Rdn}

omit [DecidableRel same] in
theorem getParentDn_addFirst (dn : LdapName Rdn) (entry : Rdn) :
    getParentDn (addFirst dn entry) = some dn := by
  simp [getParentDn, addFirst]

theorem equals_iff : equals same dn dn' = true ↔ List.Forall₂ same dn dn' := by
  induction dn generalizing dn' with
  | nil =>
    cases dn' with
    | nil => simp [equals]
    | cons rdn' name' => simp [equals]
  | cons rdn name ih =>
    cases dn' with
    | nil => simp [equals]
    | cons rdn' name' => simp [equals, ih]

/-- One name starts with another when its parts from the root are equal to all of the other's. -/
theorem startsWith_iff : startsWith same dn dn' = true ↔
    ∃ front rest, dn = front ++ rest ∧ List.Forall₂ same front dn' := by
  induction dn' generalizing dn with
  | nil =>
    constructor
    · intro _
      exact ⟨[], dn, rfl, List.Forall₂.nil⟩
    · intro _
      cases dn <;> rfl
  | cons rdn' name' ih =>
    cases dn with
    | nil => simp [startsWith]
    | cons rdn name =>
      rw [startsWith, Bool.and_eq_true, decide_eq_true_eq, ih]
      constructor
      · intro hcase
        rcases hcase with ⟨hsame, front, rest, rfl, hfront⟩
        exact ⟨rdn :: front, rest, rfl, List.Forall₂.cons hsame hfront⟩
      · intro hcase
        rcases hcase with ⟨front, rest, hsplit, hfront⟩
        cases hfront with
        | cons hsame hfront =>
          cases hsplit
          exact ⟨hsame, _, rest, rfl, hfront⟩

/-! ## Ancestors -/

theorem getParentDn_iff : getParentDn dn = some dn' ↔ ∃ entry, dn = addFirst dn' entry := by
  constructor
  · intro h
    cases dn using List.reverseRecOn with
    | nil => cases h
    | append_singleton name entry =>
      have hparent := getParentDn_addFirst name entry
      rw [addFirst, h] at hparent
      cases hparent
      exact ⟨entry, rfl⟩
  · intro hcase
    rcases hcase with ⟨entry, rfl⟩
    exact getParentDn_addFirst dn' entry

/-- Going to the parent once or more. -/
def Above : LdapName Rdn → LdapName Rdn → Prop :=
  Relation.TransGen fun name parent => getParentDn name = some parent

theorem above_iff : Above dn dn' ↔ ∃ rest, rest ≠ [] ∧ dn = dn' ++ rest := by
  constructor
  · intro h
    induction h with
    | single hparent =>
      obtain ⟨entry, rfl⟩ := getParentDn_iff.mp hparent
      exact ⟨[entry], List.cons_ne_nil _ _, rfl⟩
    | tail _ hparent ih =>
      obtain ⟨rest, _, rfl⟩ := ih
      obtain ⟨entry, rfl⟩ := getParentDn_iff.mp hparent
      exact ⟨entry :: rest, List.cons_ne_nil _ _, by simp [addFirst]⟩
  · intro hcase
    rcases hcase with ⟨rest, hne, rfl⟩
    induction rest using List.reverseRecOn with
    | nil => exact (hne rfl).elim
    | append_singleton rest entry ih =>
      have hparent : getParentDn (dn' ++ (rest ++ [entry])) = some (dn' ++ rest) := by
        rw [← List.append_assoc]
        exact getParentDn_addFirst _ _
      by_cases hrest : rest = []
      · subst hrest
        rw [List.append_nil] at hparent
        exact Relation.TransGen.single hparent
      · exact Relation.TransGen.head hparent (ih hrest)

/-- Below is what has an equal name above it. -/
theorem isDescendantOf_iff : isDescendantOf same dn dn' = true ↔
    ∃ name, Above dn name ∧ equals same name dn' = true := by
  cases dn using List.reverseRecOn with
  | nil =>
    constructor
    · intro h
      cases h
    · intro hcase
      rcases hcase with ⟨name, habove, _⟩
      obtain ⟨rest, hne, hnil⟩ := above_iff.mp habove
      exact (hne (List.append_eq_nil_iff.mp hnil.symm).2).elim
  | append_singleton parent entry =>
    have hparent : isDescendantOf same (parent ++ [entry]) dn' = startsWith same parent dn' := by
      have hp := getParentDn_addFirst parent entry
      rw [addFirst] at hp
      rw [isDescendantOf, hp]
    rw [hparent, startsWith_iff]
    constructor
    · intro hcase
      rcases hcase with ⟨front, rest, rfl, hfront⟩
      refine ⟨front, above_iff.mpr ⟨rest ++ [entry], by simp, by simp⟩, equals_iff.mpr hfront⟩
    · intro hcase
      rcases hcase with ⟨name, habove, hequal⟩
      obtain ⟨rest, hne, hsplit⟩ := above_iff.mp habove
      obtain ⟨rest, last, rfl⟩ := List.eq_nil_or_concat rest |>.resolve_left hne
      rw [List.concat_eq_append, ← List.append_assoc] at hsplit
      obtain ⟨rfl, _⟩ := List.append_inj' hsplit rfl
      exact ⟨name, rest, rfl, equals_iff.mp hequal⟩

theorem length_of_descendant (h : isDescendantOf same dn dn' = true) : dn'.length < dn.length := by
  obtain ⟨name, habove, hequal⟩ := isDescendantOf_iff.mp h
  obtain ⟨rest, hne, rfl⟩ := above_iff.mp habove
  have hlength := (equals_iff.mp hequal).length_eq
  have hrest := List.length_pos_of_ne_nil hne
  rw [List.length_append]
  omega

omit [DecidableRel same] in
theorem forall₂_trans (equivalence : Equivalence same) (h : List.Forall₂ same dn dn')
    (h' : List.Forall₂ same dn' dn'') : List.Forall₂ same dn dn'' := by
  induction h generalizing dn'' with
  | nil => exact h'
  | cons hsame _ ih =>
    cases h' with
    | cons hsame' hrest => exact List.Forall₂.cons (equivalence.trans hsame hsame') (ih hrest)

/-- Descendants are a strict order on names up to equality, and it is the order of going up:
below a name is exactly what reaches an equal name by going to the parent once or more. -/
theorem descendants_ordered (same : Rdn → Rdn → Prop) [DecidableRel same]
    (equivalence : Equivalence same) :
    (∀ dn expected, isDescendantOf same dn expected = true ↔
      ∃ name, Above dn name ∧ equals same name expected = true) ∧
    (∀ dn dn', equals same dn dn' = true → isDescendantOf same dn dn' = false) ∧
    ∀ dn dn' dn'', isDescendantOf same dn dn' = true → isDescendantOf same dn' dn'' = true →
      isDescendantOf same dn dn'' = true := by
  refine ⟨fun _ _ => isDescendantOf_iff, fun dn dn' hequal => ?_, fun dn dn' dn'' h h' => ?_⟩
  · rw [← Bool.not_eq_true]
    intro h
    have hshorter := length_of_descendant h
    have hlength := (equals_iff.mp hequal).length_eq
    omega
  · obtain ⟨name, habove, hequal⟩ := isDescendantOf_iff.mp h
    obtain ⟨name', habove', hequal'⟩ := isDescendantOf_iff.mp h'
    obtain ⟨rest, hne, rfl⟩ := above_iff.mp habove
    obtain ⟨rest', hne', rfl⟩ := above_iff.mp habove'
    -- the part of `name` that stands against `name'` is the name reached
    have hfront := List.forall₂_take_append _ name' rest' (equals_iff.mp hequal)
    refine isDescendantOf_iff.mpr ⟨name.take name'.length, above_iff.mpr ?_, equals_iff.mpr ?_⟩
    · refine ⟨name.drop name'.length ++ rest, ?_, ?_⟩
      · exact fun hnil => hne (List.append_eq_nil_iff.mp hnil).2
      · rw [← List.append_assoc, List.take_append_drop]
    · exact forall₂_trans equivalence hfront (equals_iff.mp hequal')

def joeDn : LdapName String := ["dc=org", "ou=people", "uid=joe"]

theorem joe_below_org : ∃ name, Above joeDn name ∧ equals Eq name ["dc=org"] = true :=
  ((descendants_ordered (Eq : String → String → Prop) eq_equivalence).1 joeDn ["dc=org"]).mp
    (by decide)

end LdapDn
