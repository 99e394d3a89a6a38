import Calculator.Proofs.Decimal.Tidy
import Calculator.Proofs.Expression.Displays
import Calculator.Proofs.Expression.Entering

namespace Calculator

namespace Operand

/-- One more character, and what was typed up to now is tidied anew. Without a point the numeral is its digits: a
lone zero gives way to the next one, and a point may follow. With a point nothing in front of it changes any more.
-/
theorem extend_tidy {t : Text} {c : Char} (typeable : ∀ c ∈ t, Typeable c) (next : Typeable c) :
    (typed (tidy t)).extend c = typed (tidy (t ++ [c])) := by
  rcases digits_or_point typeable with digits | ⟨w, u, digits, rfl⟩
  · rcases next with digit | rfl
    · rw [digits.tidy_eq, (digits.concat digit).tidy_eq, dropLeadingZeros_concat]
      split
      · rename_i zero
        rw [zero, extend_zero digit]
      · rename_i other
        exact extend_digit digit other
    · rw [digits.tidy_eq, digits.tidy_append, extend_point digits.dropLeadingZeros.no_point]
      rfl
  · have point : '.' ∈ tidy (w ++ '.' :: u) := by
      rw [digits.tidy_append]
      simp
    rw [digits.tidy_append_append]
    rcases next with digit | rfl
    · have longer : tidy (w ++ '.' :: u) ≠ ['0'] := by
        intro zero
        rw [zero] at point
        simp at point
      rw [(Digits.cons digit .nil).filter_eq]
      exact extend_digit digit longer
    · rw [extend_second_point point]
      simp

theorem foldl_extend_tidy {t s : Text} (typeable : ∀ c ∈ t, Typeable c) (more : ∀ c ∈ s, Typeable c) :
    s.foldl extend (typed (tidy t)) = typed (tidy (t ++ s)) := by
  induction s generalizing t with
  | nil => rw [List.foldl_nil, List.append_nil]
  | cons c s ih =>
    obtain ⟨head, tail⟩ := List.forall_mem_cons.mp more
    have longer : ∀ d ∈ t ++ [c], Typeable d :=
      List.forall_mem_append.mpr ⟨typeable, List.forall_mem_singleton.mpr head⟩
    rw [List.foldl_cons, extend_tidy typeable head, ih longer tail, List.append_assoc]
    rfl

/-- Characters behind what typing adds to, if that is tidy, are tidied with it. -/
theorem foldl_extend_of_tidy {o : Operand} {s : Text} (base : tidy o.base = o.base)
    (typeable : ∀ c ∈ o.base, Typeable c) (more : ∀ c ∈ s, Typeable c) (nonempty : s ≠ []) :
    s.foldl extend o = typed (tidy (o.base ++ s)) := by
  cases s with
  | nil => exact absurd rfl nonempty
  | cons c s =>
    have together := foldl_extend_tidy typeable more
    rw [base, List.foldl_cons] at together
    exact together

end Operand

/-- The value nearest to a decimal. -/
def Decimal.value (d : Decimal) : Value := (Numeral.toNumber .double (.finite false d)).settle

namespace Operand

end Operand

namespace Expression

end Expression

end Calculator
