import SpotSettlement.Proofs.Decimal.Value
import SpotSettlement.Proofs.Work

namespace SpotSettlement.Decimal

/-! # Opposite amounts

Arithmetic on amounts of the opposite sign gives the opposite result, rounded or not.  Only the sign
of a result that is zero is not turned.
-/

variable {a b d a' b' : Decimal}

/-- The decimals differ in sign, or both are zero. -/
def Opposed (a b : Decimal) : Prop := b = a.neg ∨ a.mantissa = 0 ∧ b.mantissa = 0

theorem zero_opposed : zero.Opposed zero := .inr ⟨rfl, rfl⟩

theorem Opposed.value (opposed : a.Opposed b) : b.value = -a.value := by
  obtain rfl | ⟨left, right⟩ := opposed
  · exact value_neg a
  · rw [value_eq_zero_iff.mpr left, value_eq_zero_iff.mpr right, neg_zero]

theorem Opposed.mantissa (opposed : a.Opposed b) : a.mantissa = 0 ↔ b.mantissa = 0 := by
  obtain rfl | ⟨left, right⟩ := opposed
  · rfl
  · exact iff_of_true left right

protected theorem neg_neg (d : Decimal) : d.neg.neg = d := by
  simp [neg]

theorem abs_of_isPositive (positive : d.isPositive = true) : d.abs = d := by
  obtain ⟨negative, mantissa, scale, _, _⟩ := d
  cases negative <;> simp_all [isPositive, abs]

theorem abs_of_not_isPositive (notPositive : d.isPositive = false) (nonzero : d.isZero = false) :
    d.abs = d.neg := by
  obtain ⟨negative, mantissa, scale, _, _⟩ := d
  cases negative <;> simp_all [isPositive, isZero, abs, neg]

theorem ofSignedParts?_not (negative : Bool) (mantissa scale : Nat) :
    ofSignedParts? (!negative) mantissa scale = (ofSignedParts? negative mantissa scale).map neg := by
  unfold ofSignedParts?
  split <;> rfl

theorem dropUntilFits_not (negative : Bool) (mantissa scale fuel places : Nat) :
    dropUntilFits (!negative) mantissa scale fuel places =
      (dropUntilFits negative mantissa scale fuel places).map neg := by
  induction fuel generalizing places with
  | zero => exact ofSignedParts?_not ..
  | succ fuel ih =>
      unfold dropUntilFits
      rw [ofSignedParts?_not]
      cases ofSignedParts? negative (roundTieToEven mantissa places) (scale - places) with
      | some fitting => rfl
      | none => exact ih (places + 1)

theorem roundTieToEven_zero (places : Nat) : roundTieToEven 0 places = 0 := by
  simp [roundTieToEven]

theorem dropUntilFits_zero {scale : Nat} (bounded : scale ≤ maxScale) (fuel : Nat) :
    dropUntilFits false 0 scale fuel 0 = some ⟨false, 0, scale, by decide, bounded⟩ := by
  have fits : ofSignedParts? false (roundTieToEven 0 0) (scale - 0) =
      some ⟨false, 0, scale, by decide, bounded⟩ := by
    rw [roundTieToEven_zero, Nat.sub_zero, ofSignedParts?, dif_pos ⟨by decide, bounded⟩]
  cases fuel with
  | zero => exact fits
  | succ fuel => rw [dropUntilFits, fits]

theorem ofCoefficient?_zero {scale : Nat} (bounded : scale ≤ maxScale) :
    ofCoefficient? 0 scale = some ⟨false, 0, scale, by decide, bounded⟩ := by
  have whole : scale - maxScale = 0 := Nat.sub_eq_zero_of_le bounded
  simp only [ofCoefficient?, fit?, whole]
  exact dropUntilFits_zero bounded _

theorem ofCoefficient?_neg {coefficient : Int} {scale : Nat} (bounded : scale ≤ maxScale)
    (fits : ofCoefficient? coefficient scale = some d) :
    ∃ e, ofCoefficient? (-coefficient) scale = some e ∧ d.Opposed e := by
  by_cases zero : coefficient = 0
  · subst zero
    rw [ofCoefficient?_zero bounded] at fits
    cases fits
    exact ⟨_, ofCoefficient?_zero bounded, .inr ⟨rfl, rfl⟩⟩
  · have sign : decide (-coefficient < 0) = !decide (coefficient < 0) := by
      rw [← decide_not, decide_eq_decide]
      omega
    unfold ofCoefficient? fit? at *
    rw [sign, Int.natAbs_neg, dropUntilFits_not, fits]
    exact ⟨_, rfl, .inl rfl⟩

theorem aligned_neg (a b : Decimal) :
    aligned a.neg b.neg = (-(aligned a b).1, -(aligned a b).2) := by
  simp [aligned]

theorem max_scale_le (a b : Decimal) : Max.max a.scale b.scale ≤ maxScale :=
  Nat.max_le.mpr ⟨a.scale_le, b.scale_le⟩

theorem add_opposed (left : a.Opposed a') (right : b.Opposed b') :
    Mirrors Opposed (a.add b) (a'.add b') := by
  intro sum added
  unfold add at *
  by_cases nothing : a.mantissa = 0
  · rw [if_pos nothing] at added
    cases added
    exact ⟨b', if_pos (left.mantissa.mp nothing), right⟩
  · rw [if_neg nothing] at added
    rw [if_neg (nothing ∘ left.mantissa.mpr)]
    by_cases same : b.mantissa = 0
    · rw [if_pos same] at added
      cases added
      exact ⟨a', if_pos (right.mantissa.mp same), left⟩
    · rw [if_neg same] at added
      rw [if_neg (same ∘ right.mantissa.mpr)]
      obtain rfl := left.resolve_right fun zeros => nothing zeros.1
      obtain rfl := right.resolve_right fun zeros => same zeros.1
      cases fits : ofCoefficient? ((aligned a b).1 + (aligned a b).2) (Max.max a.scale b.scale) with
      | none => simp [fits] at added
      | some fitting =>
          simp only [fits, Except.ok.injEq] at added
          obtain ⟨image, imaged, opposed⟩ := ofCoefficient?_neg (max_scale_le a b) fits
          refine ⟨image, ?_, added ▸ opposed⟩
          rw [aligned_neg, scale_neg, scale_neg, ← Int.neg_add, imaged]

/-- An amount and its opposite cancel. -/
theorem add_neg_self (d : Decimal) : ∃ zero, d.add d.neg = .ok zero ∧ zero.mantissa = 0 := by
  unfold add
  by_cases nothing : d.mantissa = 0
  · exact ⟨d.neg, if_pos nothing, nothing⟩
  · have same : ¬d.neg.mantissa = 0 := nothing
    rw [if_neg nothing, if_neg same]
    have cancels : (aligned d d.neg).1 + (aligned d d.neg).2 = 0 := by
      simp [aligned]
    rw [cancels, ofCoefficient?_zero (max_scale_le d d.neg)]
    exact ⟨_, rfl, rfl⟩

end SpotSettlement.Decimal
