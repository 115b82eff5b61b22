import Mathlib.Data.Nat.Notation

/-! Numbers as decimal digits that are padded to a width and joined by separators, and how they
are read back. -/
namespace LibraryDecimal

/-- The digits of a number, with zeros in front up to the width. -/
def padded (width n : ℕ) : List Char := (Nat.toDigits 10 n).leftpad width '0'

/-- The number that the digits of a field make; a sign does not count. -/
def number (field : List Char) : ℕ := Nat.ofDigitChars 10 (field.filter Char.isDigit) 0

theorem isDigit_of_mem_padded {width n : ℕ} {c : Char} (h : c ∈ padded width n) :
    c.isDigit = true := by
  rcases List.mem_append.mp h with hzero | hdigit
  · rw [List.eq_of_mem_replicate hzero]
    decide
  · exact Nat.isDigit_of_mem_toDigits (by decide) (by decide) hdigit

theorem number_padded (width n : ℕ) : number (padded width n) = n := by
  have hdigits : (padded width n).filter Char.isDigit = padded width n :=
    List.filter_eq_self.mpr fun _ hc => isDigit_of_mem_padded hc
  rw [number, hdigits, padded, List.leftpad, Nat.ofDigitChars_append,
    Nat.ofDigitChars_replicate_zero, Nat.mul_zero, Nat.ofDigitChars_ten_toDigits]

theorem number_cons_sign {sign : Char} (h : sign.isDigit = false) (field : List Char) :
    number (sign :: field) = number field := by
  rw [number, number, List.filter_cons_of_neg (by simp [h])]

variable {α : Type*} {p : α → Bool} {first : List α} {rest : List (α × List α)}

/-- Fields of which each but the first stands behind its separator. -/
def joined (first : List α) : List (α × List α) → List α
  | [] => first
  | (separator, field) :: rest => first ++ separator :: joined field rest

/-- Joined fields come apart again at what no field contains. -/
theorem splitOnP_joined (hfirst : ∀ x ∈ first, p x = false)
    (hrest : ∀ next ∈ rest, p next.1 = true ∧ ∀ x ∈ next.2, p x = false) :
    (joined first rest).splitOnP p = first :: rest.map Prod.snd := by
  induction rest generalizing first with
  | nil => exact List.splitOnP_eq_singleton hfirst
  | cons next rest ih =>
    obtain ⟨hseparator, hfield⟩ := hrest next List.mem_cons_self
    rw [joined, List.splitOnP_append_cons_of_forall_mem hfirst _ hseparator,
      ih hfield fun later hl => hrest later (List.mem_cons_of_mem next hl)]
    rfl

end LibraryDecimal
