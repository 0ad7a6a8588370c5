import Worksheet.Proofs.Alignment

/-! The common extent of values. As the least extent with a cell into which they all fit, it depends
on the set of the values alone: neither their order nor a repetition changes it, and two lists have
the join of their extents in common. It need not be the extent of any of the values. -/

namespace Worksheet

namespace Extent

variable {e f : Extent}

theorem fits_antisymm (h : e.fits f = true) (h' : f.fits e = true) : e = f := by
  obtain ⟨rows, cols⟩ := fits_iff.1 h
  obtain ⟨rows', cols'⟩ := fits_iff.1 h'
  cases e
  cases f
  exact congrArg₂ mk (Nat.le_antisymm rows rows') (Nat.le_antisymm cols cols')

theorem single_fits_iff : single.fits e = true ↔ 0 < e.rows ∧ 0 < e.cols := fits_iff

/-- The extent has a cell, every value fits into it, and it fits into every other such extent. -/
structure IsCommon (e : Extent) (vs : List Value) : Prop where
  rows_pos : 0 < e.rows
  cols_pos : 0 < e.cols
  holds : ∀ v ∈ vs, v.extent.fits e = true
  least : ∀ f : Extent, 0 < f.rows → 0 < f.cols → (∀ v ∈ vs, v.extent.fits f = true) →
    e.fits f = true

end Extent

variable {vs ws : List Value}

theorem eq_commonExtent_of_fits_iff {e : Extent}
    (same : ∀ f : Extent, e.fits f = true ↔
      Extent.single.fits f = true ∧ ∀ v ∈ vs, v.extent.fits f = true) : e = commonExtent vs :=
  Extent.fits_antisymm ((same _).2 (commonExtent_fits_iff.1 (Extent.fits_refl _)))
    (commonExtent_fits_iff.2 ((same _).1 (Extent.fits_refl _)))

theorem isCommon_commonExtent (vs : List Value) : (commonExtent vs).IsCommon vs where
  rows_pos := (commonExtent_pos vs).1
  cols_pos := (commonExtent_pos vs).2
  holds _ hv := extent_fits_commonExtent hv
  least _ hr hc holds := commonExtent_fits_iff.2 ⟨Extent.single_fits_iff.2 ⟨hr, hc⟩, holds⟩

theorem isCommon_iff {e : Extent} : e.IsCommon vs ↔ e = commonExtent vs := by
  constructor
  · intro common
    have least := isCommon_commonExtent vs
    exact Extent.fits_antisymm (common.least _ least.rows_pos least.cols_pos least.holds)
      (least.least _ common.rows_pos common.cols_pos common.holds)
  · rintro rfl
    exact isCommon_commonExtent vs

theorem commonExtent_mono (h : vs ⊆ ws) : (commonExtent vs).fits (commonExtent ws) = true :=
  have within := isCommon_commonExtent ws
  (isCommon_commonExtent vs).least _ within.rows_pos within.cols_pos fun v hv =>
    within.holds v (h hv)

theorem commonExtent_eq_of_mem_iff (same : ∀ v, v ∈ ws ↔ v ∈ vs) :
    commonExtent ws = commonExtent vs :=
  Extent.fits_antisymm (commonExtent_mono fun v => (same v).1)
    (commonExtent_mono fun v => (same v).2)

theorem commonExtent_append (vs ws : List Value) :
    commonExtent (vs ++ ws) = (commonExtent vs).join (commonExtent ws) := by
  refine (eq_commonExtent_of_fits_iff fun f => ?_).symm
  rw [Extent.join_fits_iff, commonExtent_fits_iff, commonExtent_fits_iff, List.forall_mem_append,
    and_and_and_comm, and_self_iff]

end Worksheet
