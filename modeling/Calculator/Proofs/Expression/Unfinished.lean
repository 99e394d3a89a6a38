import Calculator.Proofs.Expression.Texts

namespace Calculator.Expression

/-- Where the texts of operands come from as long as equals is not pressed: a product or quotient keeps its first
operand free of a minus. -/
def Places.unfinished : Places where
  alone o := ∃ t, o = .typed t ∧ Begun t
  first op o := ∃ t, o = .typed t ∧ (op.Tight → Begun t)
  factor _ := True
  last := written.last

theorem Places.unfinished_kept : unfinished.Kept where
  alone_extend := by
    rintro o c typeable ⟨t, rfl, begun⟩
    exact begun.extend typeable
  last_extend := written_kept.last_extend
  last_empty := written_kept.last_empty
  first_of_alone := fun ⟨t, typed, begun⟩ => ⟨t, typed, fun _ => begun⟩
  first_of_node := by
    intro top op left right fits tighter
    refine ⟨_, rfl, ?_⟩
    intro tight
    have topTight := tighter tight
    cases fits with
    | @pair _ l r first last =>
      obtain ⟨t, rfl, begun⟩ := first
      have positive := top.apply_negative topTight (Operand.typed t).value_settled r.value_settled
        (Operand.value_negative_of_partial (.begun (begun topTight))) (last_value_negative last)
      exact (Value.shown_plain (Number.settle_negative positive)).begun
    | nested loose => exact absurd topTight loose
  factor_of_last := fun _ => trivial
  factor_of_product := fun _ _ _ => trivial

/-- As long as equals is not pressed, all texts come from there. -/
theorem run_unfinished {keys : List Key} (unfinished : .equals ∉ keys) : Fits .unfinished (start.run keys) := by
  have zero : Places.unfinished.alone (.typed ['0']) := ⟨_, rfl, .whole .zero⟩
  exact Fits.run Places.unfinished_kept zero (.alone zero) fun equals => absurd equals unfinished

/-- Only the keys after the last clear count. -/
theorem run_since_clear (keys : List Key) : start.run (keys.rtakeWhile (· ≠ .clear)) = start.run keys := by
  have split := List.rdropWhile_append_rtakeWhile (p := fun k : Key => decide (k ≠ .clear)) (l := keys)
  have cleared : start.run (keys.rdropWhile (· ≠ .clear)) = start := by
    by_cases nothing : keys.rdropWhile (· ≠ .clear) = []
    · rw [nothing, run_nil]
    · have last : (keys.rdropWhile (· ≠ .clear)).getLast nothing = .clear := by
        simpa using List.rdropWhile_last_not (fun k : Key => decide (k ≠ .clear)) keys nothing
      rw [← List.dropLast_append_getLast nothing, run_append, last]
      rfl
  conv_rhs => rw [← split, run_append, cleared]

end Calculator.Expression
