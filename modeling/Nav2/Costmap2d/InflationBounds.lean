import Nav2.Costmap2d.InflationSafety

/-!
# The update window

`updateBounds` widens the window the layered costmap updates next, so that `updateCosts`
recomputes every cell whose inflated cost may have changed: the window of this cycle and the
window of the previous cycle, each enlarged by the inflation radius, or the whole map after the
footprint changed. Over any run of operations the layer remembers the window of the last
`updateBounds` call and whether the footprint changed since (`LayerOp.windowAfter`,
`LayerOp.reinflateAfter`), so the widened window always covers both.
-/

namespace Nav2Costmap2d
open InflationLayer

/-- The window `(min_x, min_y, max_x, max_y)` the layer remembers from its last `updateBounds`. -/
def InflationLayer.lastBounds {α : Type} (l : InflationLayer α) : α × α × α × α :=
  (l.lastMinX, l.lastMinY, l.lastMaxX, l.lastMaxY)

-- ════════════════════════════════════════════════════════════════════════
-- Operations that keep the remembered window
-- ════════════════════════════════════════════════════════════════════════

section Frame

variable {α : Type}

variable (computeCost : α → α → α → Nat → UInt8) (l : InflationLayer α)

theorem computeCaches_lastBounds :
    (computeCaches computeCost l).lastBounds = l.lastBounds ∧
      (computeCaches computeCost l).needReinflation = l.needReinflation := by
  unfold InflationLayer.computeCaches
  dsimp only
  split_ifs <;> exact ⟨rfl, rfl⟩

theorem matchSize_lastBounds (costmap : LayeredCostmap α) :
    (l.matchSize computeCost costmap).lastBounds = l.lastBounds ∧
      (l.matchSize computeCost costmap).needReinflation = l.needReinflation :=
  computeCaches_lastBounds computeCost _

variable (cv : CostValues)

theorem updateCosts_lastBounds {fuel : Nat} {grid : Costmap2D} {minI minJ maxI maxJ : Int}
    {res : UpdateCostsResult α} (h : l.updateCosts cv fuel grid minI minJ maxI maxJ = some res) :
    res.layer.lastBounds = l.lastBounds ∧ res.layer.needReinflation = l.needReinflation := by
  unfold InflationLayer.updateCosts at h
  split_ifs at h
  · cases h; exact ⟨rfl, rfl⟩
  dsimp only at h
  split at h
  · cases h
  split at h
  · cases h
  cases h; exact ⟨rfl, rfl⟩

end Frame

variable {α : Type} [LinearOrderedField α]

/-- `outer` contains `inner` enlarged by `r` on every side. -/
def Encloses (outer inner : α × α × α × α) (r : α) : Prop :=
  outer.1 ≤ inner.1 - r ∧ outer.2.1 ≤ inner.2.1 - r ∧ inner.2.2.1 + r ≤ outer.2.2.1 ∧
    inner.2.2.2 + r ≤ outer.2.2.2

/-- The window the layer remembers after one more call. -/
def LayerOp.windowAfter (w : α × α × α × α) : LayerOp α → α × α × α × α
  | .updateBounds minX minY maxX maxY => (minX, minY, maxX, maxY)
  | _ => w

/-- Whether the whole map is due for re-inflation after one more call. -/
def LayerOp.reinflateAfter (b : Bool) : LayerOp α → Bool
  | .onInitialize .. => false
  | .onFootprintChanged _ => true
  | .updateBounds .. => false
  | _ => b

-- ════════════════════════════════════════════════════════════════════════
-- One call
-- ════════════════════════════════════════════════════════════════════════

variable (computeCost : α → α → α → Nat → UInt8) (cv : CostValues) (floatMax : α)
  (l : InflationLayer α) (minX minY maxX maxY : α)

/-- `updateBounds` remembers the window it was given and clears the re-inflation flag. -/
theorem updateBounds_lastBounds :
    (l.updateBounds floatMax minX minY maxX maxY).1.lastBounds = (minX, minY, maxX, maxY) ∧
      (l.updateBounds floatMax minX minY maxX maxY).1.needReinflation = false := by
  unfold InflationLayer.updateBounds
  split_ifs with h
  · exact ⟨rfl, rfl⟩
  · exact ⟨rfl, Bool.not_eq_true _ ▸ h⟩

/-- **The window `updateBounds` returns**: the whole map when re-inflation is due, and otherwise
a window that contains the given window and the remembered one, each enlarged by the inflation
radius. -/
theorem updateBounds_encloses :
    (l.needReinflation = true →
      (l.updateBounds floatMax minX minY maxX maxY).2 = (-floatMax, -floatMax, floatMax, floatMax)) ∧
    (l.needReinflation = false →
      Encloses (l.updateBounds floatMax minX minY maxX maxY).2 (minX, minY, maxX, maxY)
        l.inflationRadius ∧
      Encloses (l.updateBounds floatMax minX minY maxX maxY).2 l.lastBounds l.inflationRadius) := by
  refine ⟨fun h => by simp [InflationLayer.updateBounds, h], fun h => ?_⟩
  simp only [InflationLayer.updateBounds, h, Bool.false_eq_true, if_false, Encloses,
    InflationLayer.lastBounds]
  exact ⟨⟨sub_le_sub_right (min_le_right _ _) _, sub_le_sub_right (min_le_right _ _) _,
      add_le_add_right (le_max_right _ _) _, add_le_add_right (le_max_right _ _) _⟩,
    sub_le_sub_right (min_le_left _ _) _, sub_le_sub_right (min_le_left _ _) _,
    add_le_add_right (le_max_left _ _) _, add_le_add_right (le_max_left _ _) _⟩

/-- **What one call does to the remembered window and flag**, as the abstract history says. -/
theorem LayerOp.apply_lastBounds {l' : InflationLayer α} :
    ∀ op : LayerOp α, op.apply cv computeCost floatMax l = some l' →
      l'.lastBounds = op.windowAfter l.lastBounds ∧
        l'.needReinflation = op.reinflateAfter l.needReinflation
  | .onInitialize _ _ _ _ costmap, h => by
    cases h; exact matchSize_lastBounds computeCost _ costmap
  | .matchSize costmap, h => by cases h; exact matchSize_lastBounds computeCost l costmap
  | .onFootprintChanged costmap, h => by
    cases h; exact ⟨(computeCaches_lastBounds computeCost _).1, rfl⟩
  | .updateBounds minX minY maxX maxY, h => by
    cases h; exact updateBounds_lastBounds floatMax l minX minY maxX maxY
  | .updateCosts grid minI minJ maxI maxJ fuel, h => by
    obtain ⟨res, hres, rfl⟩ := Option.map_eq_some'.mp h
    exact updateCosts_lastBounds l cv hres

-- ════════════════════════════════════════════════════════════════════════
-- Runs
-- ════════════════════════════════════════════════════════════════════════

theorem runLayer_lastBounds :
    ∀ (ops : List (LayerOp α)) (l l' : InflationLayer α),
      runLayer cv computeCost floatMax l ops = some l' →
      l'.lastBounds = ops.foldl LayerOp.windowAfter l.lastBounds ∧
        l'.needReinflation = ops.foldl LayerOp.reinflateAfter l.needReinflation
  | [], l, l', h => by cases h; exact ⟨rfl, rfl⟩
  | op :: ops, l, l', h => by
    obtain ⟨l₁, h₁, h⟩ := Option.bind_eq_some.mp (by simpa only [runLayer, List.foldlM_cons] using h)
    obtain ⟨hw, hr⟩ := LayerOp.apply_lastBounds computeCost cv floatMax l op h₁
    simpa only [List.foldl_cons, hw, hr] using runLayer_lastBounds ops l₁ l' h

/-- **The update window covers every cell whose inflation may have changed.** After any run from
the constructor, the window the next `updateBounds` returns is the whole map when the footprint
changed since the last `updateBounds` or `onInitialize`; otherwise it contains the window of
this cycle and that of the last `updateBounds` call (the whole float range before the first),
each enlarged by the inflation radius. -/
theorem runLayer_updateBounds_encloses (enabled current : Bool) (ops : List (LayerOp α)) :
    ∃ l, runLayer cv computeCost floatMax (InflationLayer.new floatMax enabled current) ops =
        some l ∧
      (ops.foldl LayerOp.reinflateAfter false = true →
        (l.updateBounds floatMax minX minY maxX maxY).2 =
          (-floatMax, -floatMax, floatMax, floatMax)) ∧
      (ops.foldl LayerOp.reinflateAfter false = false →
        Encloses (l.updateBounds floatMax minX minY maxX maxY).2 (minX, minY, maxX, maxY)
          l.inflationRadius ∧
        Encloses (l.updateBounds floatMax minX minY maxX maxY).2
          (ops.foldl LayerOp.windowAfter (-floatMax, -floatMax, floatMax, floatMax))
          l.inflationRadius) := by
  obtain ⟨l, hrun, -⟩ := runLayer_cachesFit computeCost cv floatMax ops _
    (CachesFit.new computeCost floatMax enabled current)
  obtain ⟨hw, hr⟩ := runLayer_lastBounds computeCost cv floatMax ops _ l hrun
  obtain ⟨hfull, hpart⟩ := updateBounds_encloses floatMax l minX minY maxX maxY
  refine ⟨l, hrun, fun h => hfull (hr.trans h), fun h => ?_⟩
  have hinit : (InflationLayer.new floatMax enabled current).lastBounds =
      (-floatMax, -floatMax, floatMax, floatMax) := rfl
  rw [← hinit, ← hw]
  exact hpart (hr.trans h)

theorem runLayer_updateBounds_encloses_sample :
    ∃ l, runLayer ⟨255, 254, 253, 0⟩ computeCostSample 0 (InflationLayer.new 0 true true)
        (sampleOps ++ [.updateBounds 0 0 1 1]) = some l ∧ l.inflationRadius = 3 / 20 ∧
      Encloses (l.updateBounds 0 (1 / 2) (1 / 2) 2 2).2 (1 / 2, 1 / 2, 2, 2) l.inflationRadius ∧
      Encloses (l.updateBounds 0 (1 / 2) (1 / 2) 2 2).2 (0, 0, 1, 1) l.inflationRadius := by
  obtain ⟨l, hrun, -, hpart⟩ := runLayer_updateBounds_encloses computeCostSample ⟨255, 254, 253, 0⟩
    0 (1 / 2) (1 / 2) 2 2 true true (sampleOps ++ [.updateBounds 0 0 1 1])
  have hradius : (runLayer ⟨255, 254, 253, 0⟩ computeCostSample 0 (InflationLayer.new 0 true true)
      (sampleOps ++ [.updateBounds 0 0 1 1])).map (·.inflationRadius) = some (3 / 20) := rfl
  rw [hrun] at hradius
  exact ⟨l, hrun, Option.some.inj hradius, hpart rfl⟩

end Nav2Costmap2d
