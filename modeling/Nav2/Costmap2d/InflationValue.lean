import Nav2.Costmap2d.InflationLoop

/-!
# The cost `updateCosts` writes

`updateCosts` writes a cell once, when the wavefront first reaches it, and the wavefront carries
with it the lethal cell it started from. So every cost it writes is accounted for by one lethal
cell `(sx, sy)` of the window enlarged by `R`, no farther than `R`: the new cost is
`computeCost` at the squared offset to that cell, merged with the old cost as `processCell`
merges them (`inflatedCost`). A cell the wavefront never reaches keeps its cost
(`updateCosts_value`).

That lethal cell need not be the nearest one (`updateCosts_misses_nearest_obstacle`), so the
costs may fall short of the nearest obstacle's. They never exceed it: when `computeCost` does
not grow with the distance, no cell ends above its old cost and the kernel cost of the nearest
lethal cell of the enlarged window (`updateCosts_le_nearest`).

The invariant of the loop is `ValueInv`. `enqueue` and one iteration keep it, so the whole
loop keeps it through `propagate_induction`.
-/

namespace Nav2Costmap2d
open InflationLayer

-- ════════════════════════════════════════════════════════════════════════
-- Costs
-- ════════════════════════════════════════════════════════════════════════

theorem ite_newCost_le_max {noInformation old cost : UInt8} (cond : Prop) [Decidable cond] :
    (if old = noInformation ∧ cond then cost else max old cost) ≤ max old cost := by
  split_ifs
  · exact cost_le_max_right old cost
  · exact UInt8.le_refl _

/-- A write leaves at most the larger of the old cost and the kernel cost. -/
theorem inflatedCost_le_max (cv : CostValues) (u : Bool) (old cost : UInt8) :
    inflatedCost cv u old cost ≤ max old cost :=
  ite_newCost_le_max _

theorem cost_max_le_max {a b c : UInt8} (h : b ≤ c) : max a b ≤ max a c := by
  show (if a ≤ b then b else a) ≤ (if a ≤ c then c else a)
  split_ifs <;> simp only [UInt8.le_def, BitVec.le_def] at * <;> omega

/-- A neighbour of a cell within `r` of a source lies within `r + 1` of it. -/
theorem dist_step_le {a b r : Nat} (h : Nat.dist a b ≤ r) :
    Nat.dist (a - 1) b ≤ r + 1 ∧ Nat.dist (a + 1) b ≤ r + 1 := by
  simp only [Nat.dist] at h ⊢
  omega

-- ════════════════════════════════════════════════════════════════════════
-- The loop
-- ════════════════════════════════════════════════════════════════════════

section Value

variable (cv : CostValues) {α : Type} (l : InflationLayer α) (grid : Costmap2D) (r : Nat)
  (seed : Nat → Nat → Prop)

/-- `new` is the cost the wavefront writes at `(x, y)` when it reaches the cell from a seed
`(sx, sy)` no farther than `r`: the kernel cost at the offset, merged with the grid's cost. -/
def Reached (x y : Nat) (new : UInt8) : Prop :=
  ∃ sx sy old cost, seed sx sy ∧
    Nat.dist x sx * Nat.dist x sx + Nat.dist y sy * Nat.dist y sy ≤ r * r ∧
    grid.charMap[grid.getIndex x y]? = some old ∧ costLookup l x y sx sy = some cost ∧
    new = inflatedCost cv l.inflateUnknown old cost

/-- The invariant of the propagation loop for the costs it writes: every queued cell comes from
a seed within `r`, an unseen cell still holds the grid's cost, and a seen cell holds the cost of
being reached from a seed. -/
structure ValueInv (st : Propagation) : Prop where
  bins : ∀ b ∈ st.bins, ∀ c ∈ b.2, SourceOk r seed c
  unseen : ∀ i : Nat, st.seen[i]? = some false → st.master[i]? = grid.charMap[i]?
  seen : ∀ x y, x < grid.sizeX → st.seen[grid.getIndex x y]? = some true →
    ∃ new, st.master[grid.getIndex x y]? = some new ∧ Reached cv l grid r seed x y new

variable {cv l grid r seed} {sizeX sizeY : Nat} {st st' : Propagation}

/-- `enqueue` queues a neighbour with the source it is given, and only within `R` of it. -/
theorem enqueue_sourceOk {index mx my sx sy : Nat} (hk : KernelsReady l r) (hseed : seed sx sy)
    (hdx : Nat.dist mx sx ≤ r + 1) (hdy : Nat.dist my sy ≤ r + 1)
    (hb : ∀ b ∈ st.bins, ∀ c ∈ b.2, SourceOk r seed c)
    (h : enqueue l st index mx my sx sy = some st') :
    ∀ b ∈ st'.bins, ∀ c ∈ b.2, SourceOk r seed c := by
  simp only [enqueue, distanceLookup, hk.distances _ _ hdx hdy, hk.radius, Option.bind_eq_bind,
    Option.bind_eq_some] at h
  obtain ⟨isSeen, -, h⟩ := h
  cases isSeen
  · simp only [Bool.false_eq_true, if_false, Option.some_bind] at h
    split_ifs at h with hfar
    · cases h; exact hb
    · cases h; exact pushBin_forall hb ⟨hseed, not_lt.mp hfar⟩
  · simp only [if_true] at h
    cases h; exact hb

theorem ite_enqueue_sourceOk {cond : Prop} [Decidable cond] {index mx my sx sy : Nat}
    (hk : KernelsReady l r) (hseed : seed sx sy) (hdx : Nat.dist mx sx ≤ r + 1)
    (hdy : Nat.dist my sy ≤ r + 1) (hb : ∀ b ∈ st.bins, ∀ c ∈ b.2, SourceOk r seed c)
    (h : (if cond then enqueue l st index mx my sx sy else pure st) = some st') :
    ∀ b ∈ st'.bins, ∀ c ∈ b.2, SourceOk r seed c := by
  split_ifs at h
  · exact enqueue_sourceOk hk hseed hdx hdy hb h
  · cases h; exact hb

/-- A step that writes neither `seen_` nor `master_array` keeps the invariant, when the cells it
queues come from seeds. -/
theorem ValueInv.of_adds {k : Nat} (hv : ValueInv cv l grid r seed st)
    (ha : AddsDistanceLookups k st st') (hb : ∀ b ∈ st'.bins, ∀ c ∈ b.2, SourceOk r seed c) :
    ValueInv cv l grid r seed st' :=
  ⟨hb, fun i hi => ha.master ▸ hv.unseen i (ha.seen ▸ hi),
    fun x y hx hi => ha.master ▸ hv.seen x y hx (ha.seen ▸ hi)⟩

/-- The neighbours of a cell within `R` of a seed are queued from that seed. -/
theorem enqueueNeighbours_value {c : CellData} (hk : KernelsReady l r) (hseed : seed c.srcX c.srcY)
    (hdx : Nat.dist c.x c.srcX ≤ r) (hdy : Nat.dist c.y c.srcY ≤ r)
    (hv : ValueInv cv l grid r seed st) (h : enqueueNeighbours l sizeX sizeY st c = some st') :
    ValueInv cv l grid r seed st' := by
  refine hv.of_adds (enqueueNeighbours_adds h) ?_
  simp only [enqueueNeighbours, Option.bind_eq_bind, Option.bind_eq_some] at h
  obtain ⟨st₁, h₁, st₂, h₂, st₃, h₃, h₄⟩ := h
  have hb₁ := ite_enqueue_sourceOk hk hseed (dist_step_le hdx).1 (Nat.le_succ_of_le hdy) hv.bins h₁
  have hb₂ := ite_enqueue_sourceOk hk hseed (Nat.le_succ_of_le hdx) (dist_step_le hdy).1 hb₁ h₂
  have hb₃ := ite_enqueue_sourceOk hk hseed (dist_step_le hdx).2 (Nat.le_succ_of_le hdy) hb₂ h₃
  exact ite_enqueue_sourceOk hk hseed (Nat.le_succ_of_le hdx) (dist_step_le hdy).2 hb₃ h₄

/-- Marking an unseen queued cell seen and writing over its grid cost the cost of reaching it
from its source keeps the invariant. -/
theorem ValueInv.mark {c : CellData} {old cost : UInt8} (hv : ValueInv cv l grid r seed st)
    (hc : CellOk grid.sizeX grid.sizeY r c) (hsrc : SourceOk r seed c)
    (hseen : st.seen[c.index]? = some false) (hold : st.master[c.index]? = some old)
    (hcost : costLookup l c.x c.y c.srcX c.srcY = some cost) (lookups : List KernelLookup) :
    ValueInv cv l grid r seed ⟨st.seen.set c.index true,
      st.master.set c.index (inflatedCost cv l.inflateUnknown old cost), st.bins, lookups⟩ := by
  have hgrid : grid.charMap[c.index]? = some old := (hv.unseen c.index hseen).symm.trans hold
  have hlt : c.index < st.master.length := (List.getElem?_eq_some_iff.mp hold).1
  refine ⟨hv.bins, fun i hi => ?_, fun x y hx hi => ?_⟩
  · have hne : c.index ≠ i := by
      rintro rfl
      rw [List.getElem?_set_self (List.getElem?_eq_some_iff.mp hseen).1] at hi
      cases hi
    rw [List.getElem?_set_ne hne] at hi ⊢
    exact hv.unseen i hi
  · by_cases hxy : c.index = grid.getIndex x y
    · obtain ⟨rfl, rfl⟩ := getIndex_inj hc.x_lt hx (hc.index.symm.trans hxy)
      rw [← hxy, List.getElem?_set_self hlt]
      exact ⟨_, rfl, c.srcX, c.srcY, old, cost, hsrc.1, hsrc.2, hxy ▸ hgrid, hcost, rfl⟩
    · rw [List.getElem?_set_ne hxy] at hi ⊢
      exact hv.seen x y hx hi

/-- **One iteration keeps the invariant**: an unseen queued cell gets the cost of being reached
from its source, and its neighbours are queued from the same source. -/
theorem processCell_value {c : CellData} (hk : KernelsReady l r)
    (hv : ValueInv cv l grid r seed st) (hc : CellOk grid.sizeX grid.sizeY r c)
    (hsrc : SourceOk r seed c) (h : processCell cv l grid.sizeX grid.sizeY st c = some st') :
    ValueInv cv l grid r seed st' := by
  rcases processCell_cases cv h with ⟨_, rfl⟩ | ⟨hseen, cost, old, hcost, hold, hn⟩
  · exact hv
  · exact enqueueNeighbours_value hk hsrc.1 hc.dx_le hc.dy_le
      (hv.mark hc hsrc hseen hold hcost _) hn

/-- **The propagation loop keeps the invariant**, whatever its fuel and wherever it starts. -/
theorem propagate_value (hk : KernelsReady l r) (fuel : Nat) (st : Propagation) (key i : Nat)
    {res : Propagation × Bool} (hst : PropInv grid.sizeX grid.sizeY r st)
    (hv : ValueInv cv l grid r seed st)
    (h : propagate cv l grid.sizeX grid.sizeY fuel st key i = some res) :
    PropInv grid.sizeX grid.sizeY r res.1 ∧ ValueInv cv l grid r seed res.1 :=
  propagate_induction cv (P := fun s => PropInv grid.sizeX grid.sizeY r s ∧
      ValueInv cv l grid r seed s)
    (fun s c s' ⟨hp, hv⟩ ⟨b, hb, hc⟩ hs => by
      obtain ⟨s'', hs'', hp'⟩ := processCell_inv cv hk hp (hp.bins b hb c hc)
      cases hs.symm.trans hs''
      exact ⟨hp', processCell_value hk hv (hp.bins b hb c hc) (hv.bins b hb c hc) hs⟩)
    fuel st key i res ⟨hst, hv⟩ h

/-- At the end of the loop, every cell of the grid holds its grid cost, or the cost of being
reached from a seed. -/
theorem ValueInv.cell (hv : ValueInv cv l grid r seed st)
    (hst : PropInv grid.sizeX grid.sizeY r st) {x y : Nat} (hx : x < grid.sizeX)
    (hy : y < grid.sizeY) :
    ∃ old new, grid.charMap[grid.getIndex x y]? = some old ∧
      st.master[grid.getIndex x y]? = some new ∧
      (new = old ∨ Reached cv l grid r seed x y new) := by
  have hlt : grid.getIndex x y < st.seen.length := hst.seen_length ▸ index_lt hx hy
  have hgrid := List.getElem?_eq_getElem
    (grid.charMap_length.trans hst.seen_length.symm ▸ hlt : grid.getIndex x y < grid.charMap.length)
  cases hb : st.seen[grid.getIndex x y]
  · have hmaster := hv.unseen _ (hb ▸ List.getElem?_eq_getElem hlt)
    exact ⟨_, _, hgrid, hmaster.trans hgrid, .inl rfl⟩
  · obtain ⟨new, hnew, sx, sy, old, cost, hreach⟩ :=
      hv.seen x y hx (hb ▸ List.getElem?_eq_getElem hlt)
    exact ⟨old, new, hreach.2.2.1, hnew, .inr ⟨sx, sy, old, cost, hreach⟩⟩

end Value

-- ════════════════════════════════════════════════════════════════════════
-- `updateCosts`
-- ════════════════════════════════════════════════════════════════════════

variable (cv : CostValues) {α : Type} (computeCost : α → α → α → Nat → UInt8)

/-- What `updateCosts` leaves at cell `(x, y)`, which holds `old` in the grid: a cost `new` in
`master`, either `old` or `computeCost` at the squared distance to a seed `(sx, sy)` no farther
than `r`, merged with `old` as `processCell` merges them. -/
def CostFromSeed (l : InflationLayer α) (grid : Costmap2D) (r : Nat) (seed : Nat → Nat → Prop)
    (master : List UInt8) (x y : Nat) : Prop :=
  ∃ old new, grid.charMap[grid.getIndex x y]? = some old ∧ master[grid.getIndex x y]? = some new ∧
    (new = old ∨ ∃ sx sy, seed sx sy ∧
      Nat.dist x sx * Nat.dist x sx + Nat.dist y sy * Nat.dist y sy ≤ r * r ∧
      new = inflatedCost cv l.inflateUnknown old (computeCost l.resolution l.inscribedRadius
        l.costScalingFactor (Nat.dist x sx * Nat.dist x sx + Nat.dist y sy * Nat.dist y sy)))

/-- The cost kernel holds `computeCost` of the squared offset, once the kernels fit. -/
theorem CachesFit.costLookup_eq {l : InflationLayer α} (h : CachesFit computeCost l)
    (h0 : l.cellInflationRadius ≠ 0) {x y sx sy : Nat} {cost : UInt8}
    (hc : costLookup l x y sx sy = some cost) :
    cost = computeCost l.resolution l.inscribedRadius l.costScalingFactor
      (Nat.dist x sx * Nat.dist x sx + Nat.dist y sy * Nat.dist y sy) := by
  rw [costLookup, h.costs h0] at hc
  exact kernelAt_kernel_eq hc

/-- The seeds `updateCosts` queues are lethal cells of the enlarged window, each its own
source. -/
theorem seedObstacles_windowSeed {grid : Costmap2D} {r : Nat} {minI minJ maxI maxJ : Int}
    {bin : List CellData}
    (h : seedObstacles cv grid (max 0 (minI - r)).toNat (max 0 (minJ - r)).toNat
      (min (grid.sizeX : Int) (maxI + r)).toNat (min (grid.sizeY : Int) (maxJ + r)).toNat =
        some bin) :
    ∀ c ∈ bin, SourceOk r (WindowSeed cv grid r minI minJ maxI maxJ) c := fun c hc => by
  obtain ⟨i, j, rfl, hi, hi', hj, hj', hl⟩ := seedObstacles_mem cv h c hc
  obtain ⟨hi₁, hi₂, hi₃⟩ := window_bounds hi hi'
  obtain ⟨hj₁, hj₂, hj₃⟩ := window_bounds hj hj'
  exact ⟨⟨hl, hi₁, hi₂, hi₃, hj₁, hj₂, hj₃⟩, by simp⟩

/-- **Every cost `updateCosts` writes comes from one lethal cell**, on any grid, window and fuel,
from a layer whose kernels fit. -/
theorem updateCosts_value_of_fits {l : InflationLayer α} (hfit : CachesFit computeCost l)
    (fuel : Nat) (grid : Costmap2D) (minI minJ maxI maxJ : Int) :
    ∃ res, l.updateCosts cv fuel grid minI minJ maxI maxJ = some res ∧
      ∀ x y, x < grid.sizeX → y < grid.sizeY →
        CostFromSeed cv computeCost l grid l.cellInflationRadius
          (WindowSeed cv grid l.cellInflationRadius minI minJ maxI maxJ) res.master x y := by
  obtain ⟨res, hres, -⟩ := updateCosts_inv computeCost cv hfit fuel grid minI minJ maxI maxJ
  refine ⟨res, hres, fun x y hx hy => ?_⟩
  rcases updateCosts_cases cv hres with ⟨-, rfl⟩ | ⟨-, hr, bin, st, finished, hbin, hprop, rfl⟩
  · have hlt : grid.getIndex x y < grid.charMap.length := grid.charMap_length ▸ index_lt hx hy
    exact ⟨_, _, List.getElem?_eq_getElem hlt, List.getElem?_eq_getElem hlt, .inl rfl⟩
  have hk := CachesFit.kernelsReady computeCost hfit hr
  obtain ⟨bin', hbin', hcells⟩ := seedObstacles_inv cv (r := l.cellInflationRadius) grid
    (max 0 (minI - l.cellInflationRadius)).toNat (max 0 (minJ - l.cellInflationRadius)).toNat
    (min (grid.sizeX : Int) (maxI + l.cellInflationRadius)).toNat
    (min (grid.sizeY : Int) (maxJ + l.cellInflationRadius)).toNat (by omega) (by omega)
  cases hbin.symm.trans hbin'
  have hv : ValueInv cv l grid l.cellInflationRadius
      (WindowSeed cv grid l.cellInflationRadius minI minJ maxI maxJ)
      ⟨List.replicate (grid.sizeX * grid.sizeY) false, grid.charMap, [(0, bin)], []⟩ :=
    ⟨fun b hb => List.mem_singleton.mp hb ▸ seedObstacles_windowSeed cv hbin, fun _ _ => rfl,
      fun x y _ hs => by simp [List.getElem?_replicate] at hs⟩
  obtain ⟨hinv, hval⟩ := propagate_value hk fuel _ 0 0
    ⟨List.length_replicate _ _, grid.charMap_length,
      fun b hb => List.mem_singleton.mp hb ▸ hcells, by simp⟩ hv hprop
  obtain ⟨old, new, hold, hnew, hcell⟩ := hval.cell hinv hx hy
  refine ⟨old, new, hold, hnew, hcell.imp_right ?_⟩
  rintro ⟨sx, sy, old', cost, hs, hd, hold', hcost, rfl⟩
  cases hold.symm.trans hold'
  exact ⟨sx, sy, hs, hd, by rw [hfit.costLookup_eq computeCost hr hcost]⟩

/-- **Every cost `updateCosts` writes comes from one lethal cell.** Over any sequence of
operations from the constructor, and then on every grid, window and fuel, `updateCosts`
returns, and every cell `(x, y)` of the grid either keeps its cost `old`, or holds
`computeCost` at its squared distance `d` to a lethal cell `(sx, sy)` of the window enlarged by
`R` and clamped to the grid, with `d ≤ R * R`, merged with `old` as `processCell` merges them:
that cost over `NO_INFORMATION` when it passes the layer's test for unknown cells, the larger
of the two otherwise. -/
theorem updateCosts_value [LinearOrderedField α] (floatMax : α) (enabled current : Bool)
    (ops : List (LayerOp α)) :
    ∃ l, runLayer cv computeCost floatMax (InflationLayer.new floatMax enabled current) ops =
        some l ∧
      ∀ fuel grid minI minJ maxI maxJ, ∃ res,
        l.updateCosts cv fuel grid minI minJ maxI maxJ = some res ∧
        ∀ x y, x < grid.sizeX → y < grid.sizeY →
          CostFromSeed cv computeCost l grid l.cellInflationRadius
            (WindowSeed cv grid l.cellInflationRadius minI minJ maxI maxJ) res.master x y := by
  obtain ⟨l, hrun, hfit⟩ := runLayer_cachesFit computeCost cv floatMax ops _
    (CachesFit.new computeCost floatMax enabled current)
  exact ⟨l, hrun, updateCosts_value_of_fits cv computeCost hfit⟩

/-- **No cell ends above the cost of its nearest lethal cell.** Over any sequence of operations
from the constructor, and then on every grid, window and fuel: when `computeCost` does not grow
with the distance, every cell `(x, y)` of the grid ends at most at the larger of its old cost
and `computeCost` at its squared distance to the nearest lethal cell `(sx, sy)` of the window
enlarged by `R` and clamped to the grid. -/
theorem updateCosts_le_nearest [LinearOrderedField α] (floatMax : α) (enabled current : Bool)
    (ops : List (LayerOp α))
    (hanti : ∀ res ins csf d d', d ≤ d' → computeCost res ins csf d' ≤ computeCost res ins csf d) :
    ∃ l, runLayer cv computeCost floatMax (InflationLayer.new floatMax enabled current) ops =
        some l ∧
      ∀ fuel grid minI minJ maxI maxJ, ∃ res,
        l.updateCosts cv fuel grid minI minJ maxI maxJ = some res ∧
        ∀ x y sx sy, x < grid.sizeX → y < grid.sizeY →
          WindowSeed cv grid l.cellInflationRadius minI minJ maxI maxJ sx sy →
          (∀ tx ty, WindowSeed cv grid l.cellInflationRadius minI minJ maxI maxJ tx ty →
            Nat.dist x sx * Nat.dist x sx + Nat.dist y sy * Nat.dist y sy ≤
              Nat.dist x tx * Nat.dist x tx + Nat.dist y ty * Nat.dist y ty) →
          ∃ old new, grid.charMap[grid.getIndex x y]? = some old ∧
            res.master[grid.getIndex x y]? = some new ∧
            new ≤ max old (computeCost l.resolution l.inscribedRadius l.costScalingFactor
              (Nat.dist x sx * Nat.dist x sx + Nat.dist y sy * Nat.dist y sy)) := by
  obtain ⟨l, hrun, hfit⟩ := runLayer_cachesFit computeCost cv floatMax ops _
    (CachesFit.new computeCost floatMax enabled current)
  refine ⟨l, hrun, fun fuel grid minI minJ maxI maxJ => ?_⟩
  obtain ⟨res, hres, hcells⟩ := updateCosts_value_of_fits cv computeCost hfit fuel grid minI minJ
    maxI maxJ
  refine ⟨res, hres, fun x y sx sy hx hy _ hnear => ?_⟩
  obtain ⟨old, new, hold, hnew, hcell⟩ := hcells x y hx hy
  refine ⟨old, new, hold, hnew, ?_⟩
  rcases hcell with rfl | ⟨tx, ty, ht, -, rfl⟩
  · exact cost_le_max_left _ _
  · exact UInt8.le_trans (inflatedCost_le_max cv _ _ _)
      (cost_max_le_max (hanti _ _ _ _ _ (hnear tx ty ht)))

theorem updateCosts_le_nearest_sample :
    ∃ l, runLayer ⟨255, 254, 253, 0⟩ computeCostSample 0 (InflationLayer.new 0 true true) sampleOps =
        some l ∧ l.enabled = true ∧ l.cellInflationRadius = 3 ∧
      ∀ fuel grid minI minJ maxI maxJ, ∃ res,
        l.updateCosts ⟨255, 254, 253, 0⟩ fuel grid minI minJ maxI maxJ = some res ∧
        ∀ x y sx sy, x < grid.sizeX → y < grid.sizeY →
          WindowSeed ⟨255, 254, 253, 0⟩ grid l.cellInflationRadius minI minJ maxI maxJ sx sy →
          (∀ tx ty, WindowSeed ⟨255, 254, 253, 0⟩ grid l.cellInflationRadius minI minJ maxI maxJ
              tx ty →
            Nat.dist x sx * Nat.dist x sx + Nat.dist y sy * Nat.dist y sy ≤
              Nat.dist x tx * Nat.dist x tx + Nat.dist y ty * Nat.dist y ty) →
          ∃ old new, grid.charMap[grid.getIndex x y]? = some old ∧
            res.master[grid.getIndex x y]? = some new ∧
            new ≤ max old (computeCostSample l.resolution l.inscribedRadius l.costScalingFactor
              (Nat.dist x sx * Nat.dist x sx + Nat.dist y sy * Nat.dist y sy)) := by
  obtain ⟨l, hrun, hle⟩ := updateCosts_le_nearest ⟨255, 254, 253, 0⟩ computeCostSample 0 true true
    sampleOps fun _ _ _ _ _ => computeCostSample_anti _ _ _
  exact ⟨l, hrun, (runLayer_sampleOps hrun).1, (runLayer_sampleOps hrun).2, hle⟩

end Nav2Costmap2d
