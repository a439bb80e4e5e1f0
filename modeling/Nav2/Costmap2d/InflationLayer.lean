import Mathlib

/-!
# The inflation layer

`nav2_costmap_2d::InflationLayer`: its state, `onInitialize`, `matchSize`, `onFootprintChanged`,
`computeCaches`, `updateBounds`, and `updateCosts` with `enqueue`, which spreads cost outward
from every lethal cell of the update window in order of distance.

Every read and write of `master_array`, `seen_` and the two cached kernels is checked: an index
out of range makes the model return `none`. The lookups `updateCosts` makes in the kernels are
logged with their cell-to-source offsets.

A kernel distance `hypot(i, j)` is kept as its square `i * i + j * j`. Squares order the same
way, so the bins of `inflation_cells_` come in the same order and the comparison with the
inflation radius `R` becomes `i * i + j * j > R * R`.

The header `inflation_layer.hpp`, `cost_values.hpp` and `Costmap2D` are not in the sources:
the cost values, `computeCost` and `Costmap2D::cellDistance` are parameters.

Main result: `updateCosts_in_range`. From any state that a sequence of operations reaches, no
access is out of range, every cost lookup is within `R` of its source in each axis and every
distance lookup within `R + 1`, and the kernels were built for the current `R`.
-/

namespace Nav2Costmap2d

/-- The cost values of `cost_values.hpp`. -/
structure CostValues where
  noInformation : UInt8
  lethalObstacle : UInt8
  inscribedInflatedObstacle : UInt8
  freeSpace : UInt8

/-- What the layer reads of `layered_costmap_`: the size and resolution of its costmap, the
inscribed radius of the footprint, and `cellDistance`, world distances in cells. -/
structure LayeredCostmap (α : Type) where
  sizeX : Nat
  sizeY : Nat
  resolution : α
  inscribedRadius : α
  cellDistance : α → Nat

/-- The master grid `updateCosts` writes into. `charMap` is `master_array`, row by row. -/
structure Costmap2D where
  sizeX : Nat
  sizeY : Nat
  charMap : List UInt8
  charMap_length : charMap.length = sizeX * sizeY

/-- `Costmap2D::getIndex`. -/
def Costmap2D.getIndex (grid : Costmap2D) (mx my : Nat) : Nat := my * grid.sizeX + mx

/-- `CellData`: a cell waiting for inflation, and the obstacle cell its cost comes from. -/
structure CellData where
  index : Nat
  x : Nat
  y : Nat
  srcX : Nat
  srcY : Nat
  deriving DecidableEq, Repr

/-- A lookup `updateCosts` makes in a cached kernel, with its offsets in each axis. -/
inductive KernelLookup where
  | distance (dx dy : Nat)
  | cost (dx dy : Nat)
  deriving DecidableEq, Repr

/-- The members of `InflationLayer` and of its base `Layer` that the modelled operations read
or write. The kernels are `nullptr` (empty) until `computeCaches` first builds them. -/
structure InflationLayer (α : Type) where
  enabled : Bool
  current : Bool
  inflationRadius : α
  inscribedRadius : α
  costScalingFactor : α
  inflateUnknown : Bool
  resolution : α
  cellInflationRadius : Nat
  cachedCellInflationRadius : Nat
  cachedCosts : List (List UInt8)
  cachedDistances : List (List Nat)
  seen : List Bool
  needReinflation : Bool
  lastMinX : α
  lastMinY : α
  lastMaxX : α
  lastMaxY : α

/-- The `n × n` table of `f i j`. -/
def kernel {β : Type} (n : Nat) (f : Nat → Nat → β) : List (List β) :=
  (List.range n).map fun i => (List.range n).map (f i)

/-- The entry of a cached kernel at row `i` and column `j`, if there is one. -/
def kernelAt {β : Type} (k : List (List β)) (i j : Nat) : Option β :=
  k[i]? >>= fun row => row[j]?

/-- A write into a buffer, or `none` when the index is out of range. -/
def setChecked {β : Type} (l : List β) (i : Nat) (v : β) : Option (List β) :=
  if i < l.length then some (l.set i v) else none

namespace InflationLayer

variable {α : Type} [LinearOrderedField α]

/-- The constructor `InflationLayer()`. `floatMax` is `std::numeric_limits<float>::max()`;
`enabled` and `current` are what the base class starts with. The constructor leaves
`need_reinflation_` uninitialised; it starts here at `false`, the value `onInitialize` gives it. -/
def new (floatMax : α) (enabled current : Bool) : InflationLayer α :=
  ⟨enabled, current, 0, 0, 0, false, 0, 0, 0, [], [], [], false, -floatMax, -floatMax, floatMax,
    floatMax⟩

variable (computeCost : α → α → α → Nat → UInt8)

/-- `computeCaches`. `computeCost resolution inscribedRadius costScalingFactor d` is the
header's `computeCost` at the distance whose square is `d`. Nothing happens while `R = 0`;
the distance kernel is rebuilt when `R` differs from the radius it was built for. -/
def computeCaches (l : InflationLayer α) : InflationLayer α :=
  if l.cellInflationRadius = 0 then l
  else
    let r := l.cellInflationRadius
    let l := if r ≠ l.cachedCellInflationRadius then
      { l with
        cachedDistances := kernel (r + 2) (fun i j => i * i + j * j)
        cachedCellInflationRadius := r }
    else l
    { l with
      cachedCosts := kernel (r + 2) (fun i j =>
        computeCost l.resolution l.inscribedRadius l.costScalingFactor
          ((kernelAt l.cachedDistances i j).getD 0)) }

/-- `matchSize`. -/
def matchSize (l : InflationLayer α) (costmap : LayeredCostmap α) : InflationLayer α :=
  let l := { l with
    resolution := costmap.resolution
    cellInflationRadius := costmap.cellDistance l.inflationRadius }
  let l := computeCaches computeCost l
  { l with seen := List.replicate (costmap.sizeX * costmap.sizeY) false }

/-- `onInitialize`, with the values of its four parameters. -/
def onInitialize (l : InflationLayer α) (enabled : Bool) (inflationRadius costScalingFactor : α)
    (inflateUnknown : Bool) (costmap : LayeredCostmap α) : InflationLayer α :=
  let l := { l with
    enabled := enabled
    inflationRadius := inflationRadius
    costScalingFactor := costScalingFactor
    inflateUnknown := inflateUnknown
    current := true
    seen := []
    needReinflation := false }
  let l := { l with cellInflationRadius := costmap.cellDistance l.inflationRadius }
  matchSize computeCost l costmap

/-- `onFootprintChanged`. -/
def onFootprintChanged (l : InflationLayer α) (costmap : LayeredCostmap α) : InflationLayer α :=
  let l := { l with
    inscribedRadius := costmap.inscribedRadius
    cellInflationRadius := costmap.cellDistance l.inflationRadius }
  let l := computeCaches computeCost l
  { l with needReinflation := true }

/-- `updateBounds`: the layer, and the bounds it writes back. -/
def updateBounds (floatMax : α) (l : InflationLayer α) (minX minY maxX maxY : α) :
    InflationLayer α × α × α × α × α :=
  if l.needReinflation then
    ({ l with
        lastMinX := minX, lastMinY := minY, lastMaxX := maxX, lastMaxY := maxY
        needReinflation := false },
      -floatMax, -floatMax, floatMax, floatMax)
  else
    ({ l with lastMinX := minX, lastMinY := minY, lastMaxX := maxX, lastMaxY := maxY },
      min l.lastMinX minX - l.inflationRadius, min l.lastMinY minY - l.inflationRadius,
      max l.lastMaxX maxX + l.inflationRadius, max l.lastMaxY maxY + l.inflationRadius)

end InflationLayer

-- ════════════════════════════════════════════════════════════════════════
-- `updateCosts`
-- ════════════════════════════════════════════════════════════════════════

/-- The variables of the propagation loop of `updateCosts`: `seen_`, `master_array`, the bins
of `inflation_cells_` by increasing distance, and the log of kernel lookups. -/
structure Propagation where
  seen : List Bool
  master : List UInt8
  bins : List (Nat × List CellData)
  lookups : List KernelLookup

/-- `inflation_cells_[d].push_back(cell)`: append to the bin of distance `d`, creating it in
its place when it is missing. -/
def pushBin (d : Nat) (cell : CellData) : List (Nat × List CellData) → List (Nat × List CellData)
  | [] => [(d, [cell])]
  | (k, cells) :: bins =>
    if d < k then (d, [cell]) :: (k, cells) :: bins
    else if d = k then (k, cells ++ [cell]) :: bins
    else (k, cells) :: pushBin d cell bins

/-- `++bin`: the first distance after `key` that has a bin. -/
def nextKey (bins : List (Nat × List CellData)) (key : Nat) : Option Nat :=
  (bins.find? fun b => key < b.1).map (·.1)

namespace InflationLayer

variable {α : Type} (cv : CostValues) (l : InflationLayer α) (sizeX sizeY : Nat)

/-- Modelled from the spec: `distanceLookup(mx, my, src_x, src_y)`, inline in
`inflation_layer.hpp`, which is not in the sources. It reads the cached distance kernel at the
cell-to-source offset. -/
def distanceLookup (mx my srcX srcY : Nat) : Option Nat :=
  kernelAt l.cachedDistances (Nat.dist mx srcX) (Nat.dist my srcY)

/-- Modelled from the spec: `costLookup(mx, my, src_x, src_y)`, inline in
`inflation_layer.hpp`, which is not in the sources. It reads the cached cost kernel at the
cell-to-source offset. -/
def costLookup (mx my srcX srcY : Nat) : Option UInt8 :=
  kernelAt l.cachedCosts (Nat.dist mx srcX) (Nat.dist my srcY)

/-- `enqueue(index, mx, my, src_x, src_y)`. -/
def enqueue (st : Propagation) (index mx my srcX srcY : Nat) : Option Propagation := do
  let isSeen ← st.seen[index]?
  if isSeen then pure st else
  let distance ← distanceLookup l mx my srcX srcY
  let st := { st with
    lookups := st.lookups ++ [.distance (Nat.dist mx srcX) (Nat.dist my srcY)] }
  if distance > l.cellInflationRadius * l.cellInflationRadius then pure st
  else pure { st with bins := pushBin distance ⟨index, mx, my, srcX, srcY⟩ st.bins }

/-- The body of the inner loop of `updateCosts` on one cell: skip it if seen, otherwise mark
it, raise its cost to the kernel cost (or set it over `NO_INFORMATION`), and enqueue its four
neighbours. -/
def processCell (st : Propagation) (cell : CellData) : Option Propagation := do
  let index := cell.index
  let isSeen ← st.seen[index]?
  if isSeen then pure st else
  let seen ← setChecked st.seen index true
  let mx := cell.x
  let my := cell.y
  let sx := cell.srcX
  let sy := cell.srcY
  let cost ← costLookup l mx my sx sy
  let oldCost ← st.master[index]?
  let newCost :=
    if oldCost = cv.noInformation ∧
        (if l.inflateUnknown then cost > cv.freeSpace else cost ≥ cv.inscribedInflatedObstacle)
    then cost else max oldCost cost
  let master ← setChecked st.master index newCost
  let st : Propagation := ⟨seen, master, st.bins,
    st.lookups ++ [.cost (Nat.dist mx sx) (Nat.dist my sy)]⟩
  let st ← (if mx > 0 then enqueue l st (index - 1) (mx - 1) my sx sy else pure st)
  let st ← (if my > 0 then enqueue l st (index - sizeX) mx (my - 1) sx sy else pure st)
  let st ← (if mx < sizeX - 1 then enqueue l st (index + 1) (mx + 1) my sx sy else pure st)
  if my < sizeY - 1 then enqueue l st (index + sizeX) mx (my + 1) sx sy else pure st

/-- The loop over the bins, from position `i` of the bin of distance `key` on. Cells pushed
into the current bin are reached; cells pushed into an earlier bin are not, as with the map
iterator of the code. Each iteration spends one unit of `fuel`; the result says whether the
bins were exhausted (`true`) or the fuel ran out. -/
def propagate : Nat → Propagation → Nat → Nat → Option (Propagation × Bool)
  | 0, st, _, _ => some (st, false)
  | fuel + 1, st, key, i =>
    let cells := (st.bins.lookup key).getD []
    if h : i < cells.length then do
      let st ← processCell cv l sizeX sizeY st cells[i]
      propagate fuel st key (i + 1)
    else
      match nextKey st.bins key with
      | none => some (st, true)
      | some key' => propagate fuel st key' 0

end InflationLayer

/-- The lethal cells of the window `[minI, maxI) × [minJ, maxJ)`, row by row, each its own
source: the initial contents of `inflation_cells_[0.0]`. -/
def seedObstacles (cv : CostValues) (grid : Costmap2D) (minI minJ maxI maxJ : Nat) :
    Option (List CellData) :=
  (List.range' minJ (maxJ - minJ)).foldlM (fun bin j =>
    (List.range' minI (maxI - minI)).foldlM (fun bin i => do
      let index := grid.getIndex i j
      let cost ← grid.charMap[index]?
      pure (if cost = cv.lethalObstacle then bin ++ [⟨index, i, j, i, j⟩] else bin)) bin) []

/-- `seen_` at the start of `updateCosts`: reallocated when its size is not the grid's, then
filled with `false`. -/
def resetSeen (seen : List Bool) (n : Nat) : List Bool :=
  let seen := if seen.length ≠ n then List.replicate n false else seen
  List.replicate seen.length false

theorem resetSeen_length (seen : List Bool) (n : Nat) : (resetSeen seen n).length = n := by
  unfold resetSeen; split_ifs with h <;> simp_all

/-- What `updateCosts` leaves: the layer, `master_array`, the kernel lookups, and whether the
propagation loop finished within the fuel. -/
structure UpdateCostsResult (α : Type) where
  layer : InflationLayer α
  master : List UInt8
  lookups : List KernelLookup
  finished : Bool

namespace InflationLayer

variable {α : Type}

/-- `updateCosts(master_grid, min_i, min_j, max_i, max_j)`. The window is enlarged by `R`
and clamped to the grid; the window arithmetic is exact. `fuel` bounds the iterations of the
propagation loop. -/
def updateCosts (cv : CostValues) (fuel : Nat) (l : InflationLayer α) (grid : Costmap2D)
    (minI minJ maxI maxJ : Int) : Option (UpdateCostsResult α) :=
  if !l.enabled || l.cellInflationRadius = 0 then some ⟨l, grid.charMap, [], true⟩
  else
    let sizeX := grid.sizeX
    let sizeY := grid.sizeY
    let seen := resetSeen l.seen (sizeX * sizeY)
    let r : Int := l.cellInflationRadius
    let minI := max 0 (minI - r)
    let minJ := max 0 (minJ - r)
    let maxI := min (sizeX : Int) (maxI + r)
    let maxJ := min (sizeY : Int) (maxJ + r)
    match seedObstacles cv grid minI.toNat minJ.toNat maxI.toNat maxJ.toNat with
    | none => none
    | some obsBin =>
      match propagate cv l sizeX sizeY fuel ⟨seen, grid.charMap, [(0, obsBin)], []⟩ 0 0 with
      | none => none
      | some (st, finished) => some ⟨{ l with seen := st.seen }, st.master, st.lookups, finished⟩

end InflationLayer

-- ════════════════════════════════════════════════════════════════════════
-- Runs
-- ════════════════════════════════════════════════════════════════════════

/-- The calls the layered costmap makes on the layer, with what each reads of the costmap at
that moment. -/
inductive LayerOp (α : Type) where
  | onInitialize (enabled : Bool) (inflationRadius costScalingFactor : α) (inflateUnknown : Bool)
      (costmap : LayeredCostmap α)
  | matchSize (costmap : LayeredCostmap α)
  | onFootprintChanged (costmap : LayeredCostmap α)
  | updateBounds (minX minY maxX maxY : α)
  | updateCosts (grid : Costmap2D) (minI minJ maxI maxJ : Int) (fuel : Nat)

variable {α : Type} [LinearOrderedField α] (cv : CostValues)
  (computeCost : α → α → α → Nat → UInt8) (floatMax : α)

/-- The layer after one call, or `none` when the call accesses memory out of range. -/
def LayerOp.apply (l : InflationLayer α) : LayerOp α → Option (InflationLayer α)
  | .onInitialize enabled inflationRadius costScalingFactor inflateUnknown costmap =>
    some (l.onInitialize computeCost enabled inflationRadius costScalingFactor inflateUnknown
      costmap)
  | .matchSize costmap => some (l.matchSize computeCost costmap)
  | .onFootprintChanged costmap => some (l.onFootprintChanged computeCost costmap)
  | .updateBounds minX minY maxX maxY => some (l.updateBounds floatMax minX minY maxX maxY).1
  | .updateCosts grid minI minJ maxI maxJ fuel =>
    (l.updateCosts cv fuel grid minI minJ maxI maxJ).map (·.layer)

/-- The layer after a run of calls, or `none` when one of them accesses memory out of range. -/
def runLayer (l : InflationLayer α) (ops : List (LayerOp α)) : Option (InflationLayer α) :=
  ops.foldlM (LayerOp.apply cv computeCost floatMax) l

-- ════════════════════════════════════════════════════════════════════════
-- A sample configuration
-- ════════════════════════════════════════════════════════════════════════

/-- Modelled from the spec: the header's `computeCost` when `cost_scaling_factor` is 0, so that
its exponential factor is exactly 1, at the distance whose square is `d` cells.
`LETHAL_OBSTACLE` at distance 0, `INSCRIBED_INFLATED_OBSTACLE` within the inscribed radius,
`INSCRIBED_INFLATED_OBSTACLE - 1` beyond. -/
def computeCostNoScaling (resolution inscribedRadius : ℚ) (d : Nat) : UInt8 :=
  if d = 0 then 254
  else if d * resolution * resolution ≤ inscribedRadius * inscribedRadius then 253 else 252

/-- `computeCostNoScaling` at resolution 0.05 m and inscribed radius 0.145 m, tabulated by
squared distance in cells, as the layer's `computeCost` parameter. -/
def computeCostSample (_resolution _inscribedRadius _costScalingFactor : ℚ) (d : Nat) : UInt8 :=
  if d = 0 then 254 else if d ≤ 8 then 253 else 252

/-- A 4 × 4 master grid, free but for lethal cells at (0, 0), (1, 2) and (3, 3). -/
def threeObstacleGrid : Costmap2D :=
  ⟨4, 4, [254, 0, 0, 0, 0, 0, 0, 0, 0, 254, 0, 0, 0, 0, 0, 254], rfl⟩

theorem computeCostSample_le (resolution inscribedRadius costScalingFactor : ℚ) (d : Nat) :
    computeCostSample resolution inscribedRadius costScalingFactor d ≤ 254 := by
  unfold computeCostSample
  split_ifs <;> decide

theorem computeCostSample_eq_lethal {resolution inscribedRadius costScalingFactor : ℚ} {d : Nat}
    (h : computeCostSample resolution inscribedRadius costScalingFactor d = 254) : d = 0 := by
  unfold computeCostSample at h
  split_ifs at h with h0
  · exact h0
  all_goals exact absurd h (by decide)

theorem computeCostSample_anti (resolution inscribedRadius costScalingFactor : ℚ) {d d' : Nat}
    (h : d ≤ d') : computeCostSample resolution inscribedRadius costScalingFactor d' ≤
      computeCostSample resolution inscribedRadius costScalingFactor d := by
  unfold computeCostSample
  split_ifs <;> first | decide | omega

/-- The layered costmap of the samples: 4 × 4 cells of 0.05 m, inscribed radius 0.145 m, and
`cellDistance` tabulated at the inflation radius 0.15 m, `⌈0.15 / 0.05⌉ = 3` cells. -/
def sampleCostmap : LayeredCostmap ℚ := ⟨4, 4, 1 / 20, 29 / 200, fun _ => 3⟩

/-- The calls of the samples: `onInitialize` with inflation radius 0.15 m, cost scaling factor 0
and unknown cells not inflated, then `onFootprintChanged`. -/
def sampleOps : List (LayerOp ℚ) :=
  [.onInitialize true (3 / 20) 0 false sampleCostmap, .onFootprintChanged sampleCostmap]

/-- The sample run leaves the layer enabled, with a radius of 3 cells. -/
theorem runLayer_sampleOps {l : InflationLayer ℚ}
    (h : runLayer ⟨255, 254, 253, 0⟩ computeCostSample 0 (InflationLayer.new 0 true true) sampleOps =
      some l) :
    l.enabled = true ∧ l.cellInflationRadius = 3 := by
  have hrun : (runLayer ⟨255, 254, 253, 0⟩ computeCostSample 0 (InflationLayer.new 0 true true)
      sampleOps).map (fun l => (l.enabled, l.cellInflationRadius)) = some (true, 3) := rfl
  rw [h] at hrun
  simpa using hrun

end Nav2Costmap2d
