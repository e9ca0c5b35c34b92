import Mathlib.Data.List.Basic
import SchemaPages.Json.Printer

/-!
The characters of numbers. Whatever number is written, its text has digits, signs, points and the
mark of an exponent, and nothing else.
-/

namespace SchemaPages

def IsNumeric (c : Char) : Prop := c.isDigit ∨ c ∈ ['-', '+', '.', 'e']

instance (c : Char) : Decidable (IsNumeric c) :=
  inferInstanceAs (Decidable (c.isDigit ∨ c ∈ ['-', '+', '.', 'e']))

def Numeric (text : List Char) : Prop := ∀ c ∈ text, IsNumeric c

instance (text : List Char) : Decidable (Numeric text) :=
  List.decidableBAll IsNumeric text

@[simp] theorem numeric_nil : Numeric [] := List.forall_mem_nil _

@[simp] theorem numeric_cons {c : Char} {text : List Char} :
    Numeric (c :: text) ↔ IsNumeric c ∧ Numeric text := List.forall_mem_cons

@[simp] theorem numeric_append {text more : List Char} :
    Numeric (text ++ more) ↔ Numeric text ∧ Numeric more := List.forall_mem_append

theorem Numeric.subset {text part : List Char} (h : Numeric text) (hpart : part ⊆ text) :
    Numeric part := fun c hc => h c (hpart hc)

theorem Numeric.not_mem {text : List Char} (h : Numeric text) {c : Char} (hc : ¬IsNumeric c) :
    c ∉ text := fun hmem => hc (h c hmem)

theorem numeric_toDigits (n : Nat) : Numeric (Nat.toDigits 10 n) := fun _ hc =>
  .inl (Nat.isDigit_of_mem_toDigits (by decide) (by decide) hc)

theorem numeric_zeros (n : Nat) : Numeric (List.replicate n '0') := fun c hc => by
  rw [List.eq_of_mem_replicate hc]
  decide

namespace Number

theorem numeric_stripZeros {digits : List Char} (h : Numeric digits) :
    Numeric (stripZeros digits) := by
  unfold stripZeros
  split
  · decide
  · refine h.subset fun c hc => ?_
    exact List.mem_reverse.1 ((List.dropWhile_sublist _).subset (List.mem_reverse.1 hc))

theorem Form.numeric_write (form : Form) {digits : List Char} (h : Numeric digits)
    (leading : Int) : Numeric (form.write digits leading) := by
  unfold Form.write
  split
  · split
    · simp [h, numeric_zeros]
      decide
    · have hwhole (n : Nat) : Numeric (digits.take n) := h.subset (List.take_subset _ _)
      have htail (n : Nat) : Numeric (digits.drop n) := h.subset (List.drop_subset _ _)
      have hpoint : IsNumeric '.' := by decide
      simp only [numeric_append, numeric_cons]
      refine ⟨⟨hwhole _, numeric_zeros _⟩, hpoint, ?_⟩
      split
      · decide
      · exact htail _
  · have hmark : IsNumeric '.' ∧ IsNumeric 'e' := by decide
    have hsign (c : Prop) [Decidable c] : IsNumeric (if c then '-' else '+') := by
      split <;> decide
    simp only [numeric_append, numeric_cons]
    refine ⟨?_, hmark.2, hsign _, numeric_toDigits _⟩
    split
    · simp only [numeric_cons] at h ⊢
      exact ⟨h.1, hmark.1, h.2⟩
    · exact h

theorem Binary.numeric_text (b : Binary) : Numeric b.text.toList := by
  have hminus : IsNumeric '-' := by decide
  have hmagnitude : Numeric (if b.place = 0 then ['0', '.', '0'] else
      plain.write (stripZeros (Nat.toDigits 10 (shortest b.place).digits))
        ((shortest b.place).exponent +
          (Nat.toDigits 10 (shortest b.place).digits).length - 1)) := by
    split
    · decide
    · exact plain.numeric_write (numeric_stripZeros (numeric_toDigits _)) _
  rw [Binary.text, String.toList_ofList]
  split
  · exact numeric_cons.2 ⟨hminus, hmagnitude⟩
  · exact hmagnitude

end Number

theorem Json.Numeral.numeric_text (n : Json.Numeral) : Numeric n.text.toList := by
  have hminus : IsNumeric '-' := by decide
  cases n with
  | int n =>
      change Numeric (toString n).toList
      rw [Int.toString_eq_repr, Int.repr_eq_if]
      split
      · simp [numeric_toDigits]
      · simp [hminus, numeric_toDigits]
  | binary b => exact b.numeric_text

end SchemaPages
