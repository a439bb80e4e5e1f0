import Nav2.Costmap2d.InflationLayer

/-!
# No access of the inflation layer is out of range

The kernels `computeCaches` builds stay those of the current inflation radius `R` over any
sequence of operations (`CachesFit`). With them, one iteration of the propagation loop keeps
every queued cell inside the grid and within `R` of its source (`PropInv`), so the whole loop,
and `updateCosts`, never reads or writes out of range.
-/

namespace Nav2Costmap2d
open InflationLayer

-- ════════════════════════════════════════════════════════════════════════
-- Kernels
-- ════════════════════════════════════════════════════════════════════════

theorem kernelAt_kernel {β : Type} {n i j : Nat} {f : Nat → Nat → β} (hi : i < n) (hj : j < n) :
    kernelAt (kernel n f) i j = some (f i j) := by
  simp [kernelAt, kernel, List.getElem?_range hi, List.getElem?_range hj]

theorem kernel_congr {β : Type} {n : Nat} {f g : Nat → Nat → β}
    (h : ∀ i j, i < n → j < n → f i j = g i j) : kernel n f = kernel n g := by
  unfold kernel
  refine List.map_congr_left fun i hi => List.map_congr_left fun j hj => ?_
  exact h i j (List.mem_range.mp hi) (List.mem_range.mp hj)

variable {α : Type} (computeCost : α → α → α → Nat → UInt8)

/-- The distance kernel of radius `R`: squared distances, `(R + 2) × (R + 2)`. -/
def distanceKernel (r : Nat) : List (List Nat) := kernel (r + 2) fun i j => i * i + j * j

/-- The cached kernels are those `computeCaches` builds for the current radius `R`: the
distance kernel was built for the cached radius, which is `R` whenever `R ≠ 0`, and the cost
kernel holds `computeCost` of each squared distance at the layer's current parameters. -/
structure CachesFit (l : InflationLayer α) : Prop where
  distances : l.cachedCellInflationRadius ≠ 0 →
    l.cachedDistances = distanceKernel l.cachedCellInflationRadius
  radius : l.cellInflationRadius ≠ 0 → l.cachedCellInflationRadius = l.cellInflationRadius
  costs : l.cellInflationRadius ≠ 0 → l.cachedCosts = kernel (l.cellInflationRadius + 2)
    fun i j => computeCost l.resolution l.inscribedRadius l.costScalingFactor (i * i + j * j)

theorem CachesFit.new [LinearOrderedField α] (floatMax : α) (enabled current : Bool) :
    CachesFit computeCost (InflationLayer.new floatMax enabled current) :=
  ⟨fun h => absurd rfl h, fun h => absurd rfl h, fun h => absurd rfl h⟩

/-- `computeCaches` makes the kernels fit, from any layer whose distance kernel was built for
its cached radius. -/
theorem CachesFit.computeCaches {l : InflationLayer α}
    (hd : l.cachedCellInflationRadius ≠ 0 →
      l.cachedDistances = distanceKernel l.cachedCellInflationRadius) :
    CachesFit computeCost (computeCaches computeCost l) := by
  unfold InflationLayer.computeCaches
  by_cases h0 : l.cellInflationRadius = 0
  · rw [if_pos h0]
    exact ⟨hd, fun h => absurd h0 h, fun h => absurd h0 h⟩
  rw [if_neg h0]
  dsimp only
  have hdist : ∀ l' : InflationLayer α, l'.cachedDistances = distanceKernel l.cellInflationRadius →
      kernel (l.cellInflationRadius + 2) (fun i j => computeCost l'.resolution l'.inscribedRadius
        l'.costScalingFactor ((kernelAt l'.cachedDistances i j).getD 0)) =
      kernel (l.cellInflationRadius + 2) (fun i j => computeCost l'.resolution l'.inscribedRadius
        l'.costScalingFactor (i * i + j * j)) := fun l' hl' =>
    kernel_congr fun i j hi hj => by rw [hl', distanceKernel, kernelAt_kernel hi hj]; rfl
  split_ifs with hr
  · exact ⟨fun _ => rfl, fun _ => rfl, fun _ => hdist _ rfl⟩
  · rw [not_not] at hr
    exact ⟨hd, fun _ => hr.symm, fun _ => hdist l (hr ▸ hd (hr ▸ h0))⟩

-- ════════════════════════════════════════════════════════════════════════
-- One iteration of the propagation loop
-- ════════════════════════════════════════════════════════════════════════

/-- A queued cell lies in the grid, its index is its position row by row, and its source is
no farther than `R` in each axis. -/
structure CellOk (sizeX sizeY r : Nat) (c : CellData) : Prop where
  index : c.index = c.y * sizeX + c.x
  x_lt : c.x < sizeX
  y_lt : c.y < sizeY
  dx_le : Nat.dist c.x c.srcX ≤ r
  dy_le : Nat.dist c.y c.srcY ≤ r

/-- The bounds of a kernel lookup: a cost lookup within `R` of its source in each axis, a
distance lookup within `R + 1`. -/
def KernelLookup.Within (r : Nat) : KernelLookup → Prop
  | .distance dx dy => dx ≤ r + 1 ∧ dy ≤ r + 1
  | .cost dx dy => dx ≤ r ∧ dy ≤ r

/-- The invariant of the propagation loop: `seen_` and `master_array` have one entry per cell,
every queued cell is fine, and every lookup so far was within bounds. -/
structure PropInv (sizeX sizeY r : Nat) (st : Propagation) : Prop where
  seen_length : st.seen.length = sizeX * sizeY
  master_length : st.master.length = sizeX * sizeY
  bins : ∀ b ∈ st.bins, ∀ c ∈ b.2, CellOk sizeX sizeY r c
  lookups : ∀ e ∈ st.lookups, e.Within r

/-- What the loop reads of the layer: the radius, and kernels that cover every offset up to
`R + 1`, the distance kernel holding squared distances. -/
structure KernelsReady (l : InflationLayer α) (r : Nat) : Prop where
  radius : l.cellInflationRadius = r
  distances : ∀ i j, i ≤ r + 1 → j ≤ r + 1 →
    kernelAt l.cachedDistances i j = some (i * i + j * j)
  costs : ∀ i j, i ≤ r + 1 → j ≤ r + 1 → (kernelAt l.cachedCosts i j).isSome

theorem CachesFit.kernelsReady {l : InflationLayer α} (h : CachesFit computeCost l)
    (h0 : l.cellInflationRadius ≠ 0) : KernelsReady l l.cellInflationRadius := by
  refine ⟨rfl, fun i j hi hj => ?_, fun i j hi hj => ?_⟩
  · rw [h.distances (h.radius h0 ▸ h0), h.radius h0, distanceKernel,
      kernelAt_kernel (by omega) (by omega)]
  · rw [h.costs h0, kernelAt_kernel (by omega) (by omega)]; rfl

theorem index_lt {sizeX sizeY mx my : Nat} (hx : mx < sizeX) (hy : my < sizeY) :
    my * sizeX + mx < sizeX * sizeY := by
  have : (my + 1) * sizeX ≤ sizeY * sizeX := Nat.mul_le_mul_right _ hy
  rw [Nat.mul_comm sizeX sizeY]
  rw [Nat.add_one_mul] at this
  omega

theorem pushBin_forall {P : CellData → Prop} {d : Nat} {c : CellData} :
    ∀ {bins : List (Nat × List CellData)}, (∀ b ∈ bins, ∀ x ∈ b.2, P x) → P c →
      ∀ b ∈ pushBin d c bins, ∀ x ∈ b.2, P x
  | [], _, hc => by simp [pushBin, hc]
  | (k, cells) :: bins, h, hc => by
    have hrest : ∀ b ∈ bins, ∀ x ∈ b.2, P x := fun b hb => h b (List.mem_cons_of_mem _ hb)
    unfold pushBin
    intro b hb x hx
    split_ifs at hb
    · rcases List.mem_cons.mp hb with rfl | hb
      · exact (List.mem_singleton.mp hx) ▸ hc
      · exact h b hb x hx
    · rcases List.mem_cons.mp hb with rfl | hb
      · rcases List.mem_append.mp hx with hx | hx
        · exact h _ (List.mem_cons_self _ _) x hx
        · exact (List.mem_singleton.mp hx) ▸ hc
      · exact hrest b hb x hx
    · rcases List.mem_cons.mp hb with rfl | hb
      · exact h _ (List.mem_cons_self _ _) x hx
      · exact pushBin_forall hrest hc b hb x hx

theorem bind_inv {β γ : Type} {P : β → Prop} {Q : γ → Prop} {x : Option β} {f : β → Option γ}
    (hx : ∃ y, x = some y ∧ P y) (hf : ∀ y, P y → ∃ z, f y = some z ∧ Q z) :
    ∃ z, x.bind f = some z ∧ Q z := by
  obtain ⟨y, rfl, hy⟩ := hx
  exact hf y hy

variable {l : InflationLayer α} {r sizeX sizeY : Nat} {st : Propagation}

/-- **`enqueue` stays in range** on a cell of the grid at most `R + 1` from its source, and
queues it only within `R`. -/
theorem enqueue_inv {index mx my sx sy : Nat} (hk : KernelsReady l r)
    (hst : PropInv sizeX sizeY r st) (hidx : index = my * sizeX + mx) (hx : mx < sizeX)
    (hy : my < sizeY) (hdx : Nat.dist mx sx ≤ r + 1) (hdy : Nat.dist my sy ≤ r + 1) :
    ∃ st', enqueue l st index mx my sx sy = some st' ∧ PropInv sizeX sizeY r st' := by
  have hlt : index < st.seen.length := by rw [hst.seen_length, hidx]; exact index_lt hx hy
  simp only [enqueue, distanceLookup, List.getElem?_eq_getElem hlt, hk.distances _ _ hdx hdy,
    hk.radius, Option.bind_eq_bind, Option.some_bind]
  split
  · exact ⟨st, rfl, hst⟩
  · have hlog : PropInv sizeX sizeY r
        { st with lookups := st.lookups ++ [.distance (Nat.dist mx sx) (Nat.dist my sy)] } :=
      { hst with
        lookups := List.forall_mem_append.mpr ⟨hst.lookups, List.forall_mem_singleton.mpr ⟨hdx, hdy⟩⟩ }
    split_ifs with hfar
    · exact ⟨_, rfl, hlog⟩
    · have hsq := not_lt.mp hfar
      have hx' : Nat.dist mx sx ≤ r := Nat.mul_self_le_mul_self_iff.mp (by omega)
      have hy' : Nat.dist my sy ≤ r := Nat.mul_self_le_mul_self_iff.mp (by omega)
      exact ⟨_, rfl, { hlog with bins := pushBin_forall hlog.bins ⟨hidx, hx, hy, hx', hy'⟩ }⟩

/-- A guarded `enqueue`, whose guard puts the neighbour in the grid. -/
theorem ite_enqueue_inv {cond : Prop} [Decidable cond] {index mx my sx sy : Nat}
    (hk : KernelsReady l r) (hst : PropInv sizeX sizeY r st)
    (h : cond → index = my * sizeX + mx ∧ mx < sizeX ∧ my < sizeY ∧ Nat.dist mx sx ≤ r + 1 ∧
      Nat.dist my sy ≤ r + 1) :
    ∃ st', (if cond then enqueue l st index mx my sx sy else pure st) = some st' ∧
      PropInv sizeX sizeY r st' := by
  split_ifs with hc
  · obtain ⟨hidx, hx, hy, hdx, hdy⟩ := h hc
    exact enqueue_inv hk hst hidx hx hy hdx hdy
  · exact ⟨st, rfl, hst⟩

variable (cv : CostValues)

/-- **One iteration stays in range.** Processing a fine cell reads and writes `seen_` and
`master_array` at its index, looks up the cost kernel within `R`, and enqueues only neighbours
inside the grid, at most `R + 1` from the source. -/
theorem processCell_inv {c : CellData} (hk : KernelsReady l r) (hst : PropInv sizeX sizeY r st)
    (hc : CellOk sizeX sizeY r c) :
    ∃ st', processCell cv l sizeX sizeY st c = some st' ∧ PropInv sizeX sizeY r st' := by
  obtain ⟨hidx, hx, hy, hdx, hdy⟩ := hc
  have hlt : c.index < sizeX * sizeY := hidx ▸ index_lt hx hy
  have hseen : c.index < st.seen.length := hst.seen_length ▸ hlt
  have hmaster : c.index < st.master.length := hst.master_length ▸ hlt
  obtain ⟨cost, hcost⟩ := Option.isSome_iff_exists.mp
    (hk.costs (Nat.dist c.x c.srcX) (Nat.dist c.y c.srcY) (by omega) (by omega))
  simp only [processCell, costLookup, List.getElem?_eq_getElem hseen, List.getElem?_eq_getElem hmaster,
    setChecked, if_pos hseen, if_pos hmaster, hcost, Option.bind_eq_bind, Option.some_bind]
  by_cases hs : st.seen[c.index] = true
  · exact ⟨st, by rw [if_pos hs]; rfl, hst⟩
  rw [if_neg hs]
  have hself : ∀ v, PropInv sizeX sizeY r ⟨st.seen.set c.index true, st.master.set c.index v,
      st.bins, st.lookups ++ [.cost (Nat.dist c.x c.srcX) (Nat.dist c.y c.srcY)]⟩ := fun v =>
    ⟨by simp [hst.seen_length], by simp [hst.master_length], hst.bins,
      List.forall_mem_append.mpr ⟨hst.lookups, List.forall_mem_singleton.mpr ⟨hdx, hdy⟩⟩⟩
  have hd : ∀ a b : Nat, Nat.dist a b ≤ r → Nat.dist (a - 1) b ≤ r + 1 ∧
      Nat.dist (a + 1) b ≤ r + 1 := fun a b h => by simp only [Nat.dist] at h ⊢; omega
  refine bind_inv (ite_enqueue_inv hk (hself _) fun h => ?_) fun st₁ h₁ => ?_
  · exact ⟨by omega, by omega, hy, (hd _ _ hdx).1, by omega⟩
  refine bind_inv (ite_enqueue_inv hk h₁ fun h => ?_) fun st₂ h₂ => ?_
  · have := Nat.le_mul_of_pos_left sizeX h
    exact ⟨by rw [Nat.sub_one_mul]; omega, hx, by omega, by omega, (hd _ _ hdy).1⟩
  refine bind_inv (ite_enqueue_inv hk h₂ fun h => ?_) fun st₃ h₃ => ?_
  · exact ⟨by omega, by omega, hy, (hd _ _ hdx).2, by omega⟩
  exact ite_enqueue_inv hk h₃ fun h => ⟨by rw [Nat.add_one_mul]; omega, hx, by omega, by omega,
    (hd _ _ hdy).2⟩

theorem mem_lookup_getD {bins : List (Nat × List CellData)} {key : Nat} {c : CellData}
    (h : c ∈ (bins.lookup key).getD []) : ∃ b ∈ bins, c ∈ b.2 := by
  cases hl : bins.lookup key with
  | none => simp [hl] at h
  | some cells =>
    obtain ⟨l₁, l₂, rfl, -⟩ := List.lookup_eq_some_iff.mp hl
    exact ⟨(key, cells), by simp, by simpa [hl] using h⟩

-- ════════════════════════════════════════════════════════════════════════
-- The whole loop, and `updateCosts`
-- ════════════════════════════════════════════════════════════════════════

/-- **The propagation loop stays in range**, whatever its fuel and wherever it starts. -/
theorem propagate_inv (hk : KernelsReady l r) :
    ∀ fuel st key i, PropInv sizeX sizeY r st →
      ∃ res, propagate cv l sizeX sizeY fuel st key i = some res ∧ PropInv sizeX sizeY r res.1
  | 0, st, _, _, hst => ⟨(st, false), rfl, hst⟩
  | fuel + 1, st, key, i, hst => by
    unfold propagate
    dsimp only
    by_cases hi : i < ((st.bins.lookup key).getD []).length
    · rw [dif_pos hi]
      obtain ⟨b, hb, hc⟩ := mem_lookup_getD (List.getElem_mem hi)
      exact bind_inv (processCell_inv cv hk hst (hst.bins b hb _ hc))
        fun st' h' => propagate_inv hk fuel st' key (i + 1) h'
    · rw [dif_neg hi]
      split
      · exact ⟨(st, true), rfl, hst⟩
      · exact propagate_inv hk fuel st _ 0 hst

/-- The seeds of one row of the window are lethal cells of the grid, each its own source. -/
theorem seedRow_inv (grid : Costmap2D) {j : Nat} (hj : j < grid.sizeY) :
    ∀ (is : List Nat) (bin : List CellData), (∀ i ∈ is, i < grid.sizeX) →
      (∀ c ∈ bin, CellOk grid.sizeX grid.sizeY r c) →
      ∃ bin', is.foldlM (fun bin i => do
          let index := grid.getIndex i j
          let cost ← grid.charMap[index]?
          pure (if cost = cv.lethalObstacle then bin ++ [⟨index, i, j, i, j⟩] else bin)) bin =
        some bin' ∧ ∀ c ∈ bin', CellOk grid.sizeX grid.sizeY r c
  | [], bin, _, hbin => ⟨bin, rfl, hbin⟩
  | i :: is, bin, his, hbin => by
    have hi := his i (List.mem_cons_self _ _)
    have hlt : grid.getIndex i j < grid.charMap.length := by
      rw [grid.charMap_length]; exact index_lt hi hj
    simp only [List.foldlM_cons, List.getElem?_eq_getElem hlt, Option.bind_eq_bind,
      Option.some_bind]
    refine seedRow_inv grid hj is _ (fun i' hi' => his i' (List.mem_cons_of_mem _ hi')) ?_
    split_ifs
    · refine List.forall_mem_append.mpr ⟨hbin, List.forall_mem_singleton.mpr ⟨rfl, hi, hj, ?_, ?_⟩⟩
      all_goals simp [Nat.dist]
    · exact hbin

theorem seedObstacles_inv (grid : Costmap2D) (minI minJ maxI maxJ : Nat)
    (hi : maxI ≤ grid.sizeX) (hj : maxJ ≤ grid.sizeY) :
    ∃ bin, seedObstacles cv grid minI minJ maxI maxJ = some bin ∧
      ∀ c ∈ bin, CellOk grid.sizeX grid.sizeY r c := by
  unfold seedObstacles
  suffices h : ∀ (js : List Nat) (bin : List CellData), (∀ j ∈ js, j < grid.sizeY) →
      (∀ c ∈ bin, CellOk grid.sizeX grid.sizeY r c) →
      ∃ bin', js.foldlM (fun bin j => (List.range' minI (maxI - minI)).foldlM (fun bin i => do
          let index := grid.getIndex i j
          let cost ← grid.charMap[index]?
          pure (if cost = cv.lethalObstacle then bin ++ [⟨index, i, j, i, j⟩] else bin)) bin) bin =
        some bin' ∧ ∀ c ∈ bin', CellOk grid.sizeX grid.sizeY r c from
    h _ [] (fun j hj' => by simp at hj'; omega) (by simp)
  intro js
  induction js with
  | nil => exact fun bin _ hbin => ⟨bin, rfl, hbin⟩
  | cons j js ih =>
    intro bin hjs hbin
    rw [List.foldlM_cons]
    exact bind_inv (seedRow_inv cv grid (hjs j (List.mem_cons_self _ _)) _ bin
      (fun i hi' => by simp at hi'; omega) hbin)
      fun bin' h' => ih bin' (fun j' hj' => hjs j' (List.mem_cons_of_mem _ hj')) h'

/-- **`updateCosts` stays in range** on any grid and window, from a layer whose kernels fit:
it returns, every lookup it made was within bounds, and the kernels still fit. -/
theorem updateCosts_inv {l : InflationLayer α} (h : CachesFit computeCost l) (fuel : Nat)
    (grid : Costmap2D) (minI minJ maxI maxJ : Int) :
    ∃ res, l.updateCosts cv fuel grid minI minJ maxI maxJ = some res ∧
      (∀ e ∈ res.lookups, e.Within l.cellInflationRadius) ∧ CachesFit computeCost res.layer := by
  unfold InflationLayer.updateCosts
  split_ifs with hguard
  · exact ⟨_, rfl, by simp, h⟩
  simp only [Bool.or_eq_true, Bool.not_eq_true', decide_eq_true_eq, not_or] at hguard
  have hk := CachesFit.kernelsReady computeCost h hguard.2
  obtain ⟨bin, hbin, hcells⟩ := seedObstacles_inv cv (r := l.cellInflationRadius) grid
    (max 0 (minI - l.cellInflationRadius)).toNat (max 0 (minJ - l.cellInflationRadius)).toNat
    (min (grid.sizeX : Int) (maxI + l.cellInflationRadius)).toNat
    (min (grid.sizeY : Int) (maxJ + l.cellInflationRadius)).toNat (by omega) (by omega)
  obtain ⟨res, hres, hinv⟩ := propagate_inv cv hk fuel
    ⟨resetSeen l.seen (grid.sizeX * grid.sizeY), grid.charMap, [(0, bin)], []⟩ 0 0
    ⟨resetSeen_length _ _, grid.charMap_length, by simpa using hcells, by simp⟩
  simp only [hbin, hres]
  exact ⟨_, rfl, hinv.lookups, h.distances, h.radius, h.costs⟩

-- ════════════════════════════════════════════════════════════════════════
-- Runs
-- ════════════════════════════════════════════════════════════════════════

/-- `matchSize` makes the kernels fit, from any layer whose distance kernel was built for its
cached radius. -/
theorem CachesFit.matchSize {l : InflationLayer α}
    (hd : l.cachedCellInflationRadius ≠ 0 →
      l.cachedDistances = distanceKernel l.cachedCellInflationRadius)
    (costmap : LayeredCostmap α) : CachesFit computeCost (l.matchSize computeCost costmap) :=
  let h := CachesFit.computeCaches computeCost (l := { l with
    resolution := costmap.resolution
    cellInflationRadius := costmap.cellDistance l.inflationRadius }) hd
  ⟨h.distances, h.radius, h.costs⟩

theorem CachesFit.onFootprintChanged {l : InflationLayer α} (hf : CachesFit computeCost l)
    (costmap : LayeredCostmap α) :
    CachesFit computeCost (l.onFootprintChanged computeCost costmap) :=
  let h := CachesFit.computeCaches computeCost (l := { l with
    inscribedRadius := costmap.inscribedRadius
    cellInflationRadius := costmap.cellDistance l.inflationRadius }) hf.distances
  ⟨h.distances, h.radius, h.costs⟩

variable [LinearOrderedField α] (floatMax : α)

theorem CachesFit.updateBounds {l : InflationLayer α} (h : CachesFit computeCost l)
    (minX minY maxX maxY : α) :
    CachesFit computeCost (l.updateBounds floatMax minX minY maxX maxY).1 := by
  unfold InflationLayer.updateBounds
  split_ifs <;> exact ⟨h.distances, h.radius, h.costs⟩

/-- Every operation returns, and keeps the kernels fitting. -/
theorem LayerOp.apply_cachesFit {l : InflationLayer α} (h : CachesFit computeCost l) :
    ∀ op : LayerOp α, ∃ l', op.apply cv computeCost floatMax l = some l' ∧ CachesFit computeCost l'
  | .onInitialize _ _ _ _ costmap => ⟨_, rfl, by
    unfold InflationLayer.onInitialize
    dsimp only
    refine CachesFit.matchSize computeCost ?_ costmap
    exact h.distances⟩
  | .matchSize costmap => ⟨_, rfl, CachesFit.matchSize computeCost h.distances costmap⟩
  | .onFootprintChanged costmap => ⟨_, rfl, h.onFootprintChanged computeCost costmap⟩
  | .updateBounds minX minY maxX maxY => ⟨_, rfl, h.updateBounds computeCost floatMax minX minY maxX maxY⟩
  | .updateCosts grid minI minJ maxI maxJ fuel => by
    obtain ⟨res, hres, -, hfit⟩ := updateCosts_inv computeCost cv h fuel grid minI minJ maxI maxJ
    exact ⟨res.layer, by simp [LayerOp.apply, hres], hfit⟩

theorem runLayer_cachesFit :
    ∀ (ops : List (LayerOp α)) (l : InflationLayer α), CachesFit computeCost l →
      ∃ l', runLayer cv computeCost floatMax l ops = some l' ∧ CachesFit computeCost l'
  | [], l, h => ⟨l, rfl, h⟩
  | op :: ops, l, h => by
    obtain ⟨l₁, h₁, hf₁⟩ := LayerOp.apply_cachesFit computeCost cv floatMax h op
    simp only [runLayer, List.foldlM_cons, h₁, Option.bind_eq_bind, Option.some_bind]
    exact runLayer_cachesFit ops l₁ hf₁

/-- **No access of the inflation layer is out of range.** Over any sequence of operations from
the constructor, no operation accesses memory out of range, and the kernels stay exactly those
of the current radius `R`. From the state reached, `updateCosts` on any grid and window
accesses `master_array`, `seen_` and the kernels only in range; every cost lookup is within `R`
of its source in each axis, and every distance lookup within `R + 1`. -/
theorem updateCosts_in_range (cv : CostValues) (computeCost : α → α → α → Nat → UInt8)
    (floatMax : α) (enabled current : Bool) (ops : List (LayerOp α)) :
    ∃ l, runLayer cv computeCost floatMax (InflationLayer.new floatMax enabled current) ops =
        some l ∧ CachesFit computeCost l ∧
      ∀ fuel grid minI minJ maxI maxJ, ∃ res,
        l.updateCosts cv fuel grid minI minJ maxI maxJ = some res ∧
        ∀ e ∈ res.lookups, e.Within l.cellInflationRadius := by
  obtain ⟨l, hrun, hfit⟩ := runLayer_cachesFit computeCost cv floatMax ops _
    (CachesFit.new computeCost floatMax enabled current)
  refine ⟨l, hrun, hfit, fun fuel grid minI minJ maxI maxJ => ?_⟩
  obtain ⟨res, hres, hlook, -⟩ := updateCosts_inv computeCost cv hfit fuel grid minI minJ maxI maxJ
  exact ⟨res, hres, hlook⟩

end Nav2Costmap2d
