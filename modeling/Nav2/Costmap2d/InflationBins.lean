import Nav2.Costmap2d.InflationValue

/-!
# The bins of the wavefront

`updateCosts` keeps its queue as a map from distances to bins, "to emulate the priority queue
used before". In the model the bins are a list of pairs sorted by key, a key being the squared
distance the distance kernel gives (`pushBin`, `nextKey`). This module states what the bins
keep over a whole run:

* they stay sorted, every cell in the bin of its squared distance to its source
  (`BinsOrdered`), and a bin only grows at its end (`BinsExtend`);
* a run lemma, `propagate_induction_at`, carries an invariant of the state, the current bin and
  the cursor through the loop, for any fuel;
* the bins are not a priority queue, since a cell pushed into a bin the loop has passed is never
  processed; but the cells that are processed come by nondecreasing squared distance to their
  source (`updateCosts_processing_order`).
-/

namespace Nav2Costmap2d
open InflationLayer

-- ════════════════════════════════════════════════════════════════════════
-- Bins
-- ════════════════════════════════════════════════════════════════════════

/-- The squared distance from a queued cell to its source: the key of its bin. -/
def CellData.sqDist (c : CellData) : Nat :=
  Nat.dist c.x c.srcX * Nat.dist c.x c.srcX + Nat.dist c.y c.srcY * Nat.dist c.y c.srcY

/-- The cells of the bin of distance `key`, empty when there is none. -/
def binCells (bins : List (Nat × List CellData)) (key : Nat) : List CellData :=
  (bins.lookup key).getD []

/-- The bins are sorted by distance, and every cell sits in the bin of its squared distance to
its source. -/
structure BinsOrdered (bins : List (Nat × List CellData)) : Prop where
  sorted : bins.Pairwise fun a b => a.1 < b.1
  keys : ∀ key c, c ∈ binCells bins key → c.sqDist = key

/-- Every cell of `bins` sits at the same position of the same bin of `bins'`. -/
def BinsExtend (bins bins' : List (Nat × List CellData)) : Prop :=
  ∀ (key p : Nat) (c : CellData),
    (binCells bins key)[p]? = some c → (binCells bins' key)[p]? = some c

theorem BinsExtend.refl (bins : List (Nat × List CellData)) : BinsExtend bins bins :=
  fun _ _ _ => id

theorem BinsExtend.trans {bins₁ bins₂ bins₃ : List (Nat × List CellData)}
    (h₁ : BinsExtend bins₁ bins₂) (h₂ : BinsExtend bins₂ bins₃) : BinsExtend bins₁ bins₃ :=
  fun key p c h => h₂ key p c (h₁ key p c h)

theorem lookup_eq_none_of_ne {β : Type} {key : Nat} :
    ∀ {bins : List (Nat × β)}, (∀ b ∈ bins, b.1 ≠ key) → bins.lookup key = none
  | [], _ => rfl
  | (k, v) :: bins, h => by
    rw [lookup_cons_eq, if_neg fun hk => h _ (List.mem_cons_self _ _) hk.symm,
      lookup_eq_none_of_ne fun b hb => h b (List.mem_cons_of_mem _ hb)]

/-- In sorted bins, `pushBin` appends the cell to its bin and leaves the others. -/
theorem binCells_pushBin {d key : Nat} {c : CellData} :
    ∀ {bins : List (Nat × List CellData)}, bins.Pairwise (fun a b => a.1 < b.1) →
      binCells (pushBin d c bins) key = binCells bins key ++ if key = d then [c] else []
  | [], _ => by by_cases h : key = d <;> simp [binCells, pushBin, lookup_cons_eq, h]
  | (k, cells) :: bins, hs => by
    obtain ⟨hk, hs⟩ := List.pairwise_cons.mp hs
    by_cases h₁ : d < k
    · have hnone : bins.lookup d = none :=
        lookup_eq_none_of_ne fun b hb => by have := hk b hb; omega
      rw [pushBin, if_pos h₁]
      by_cases hd : key = d
      · subst hd; simp [binCells, lookup_cons_eq, Nat.ne_of_lt h₁, hnone]
      · simp [binCells, lookup_cons_eq, hd]
    by_cases h₂ : d = k
    · subst h₂
      rw [pushBin, if_neg h₁, if_pos rfl]
      by_cases hd : key = d <;> simp [binCells, lookup_cons_eq, hd]
    · rw [pushBin, if_neg h₁, if_neg h₂]
      by_cases hkey : key = k
      · subst hkey; simp [binCells, lookup_cons_eq, Ne.symm h₂]
      · have ih : binCells (pushBin d c bins) key = binCells bins key ++ _ := binCells_pushBin hs
        simpa [binCells, lookup_cons_eq, hkey] using ih

theorem pushBin_lower {d k : Nat} {c : CellData} :
    ∀ {bins : List (Nat × List CellData)}, (∀ b ∈ bins, k < b.1) → k < d →
      ∀ b ∈ pushBin d c bins, k < b.1
  | [], _, hd => by simp [pushBin, hd]
  | (k', cells) :: bins, h, hd => by
    intro b hb
    unfold pushBin at hb
    split_ifs at hb
    · rcases List.mem_cons.mp hb with rfl | hb
      · exact hd
      · exact h b hb
    · rcases List.mem_cons.mp hb with rfl | hb
      · exact h (k', cells) (List.mem_cons_self _ _)
      · exact h b (List.mem_cons_of_mem _ hb)
    · rcases List.mem_cons.mp hb with rfl | hb
      · exact h (k', cells) (List.mem_cons_self _ _)
      · exact pushBin_lower (fun b hb => h b (List.mem_cons_of_mem _ hb)) hd b hb

theorem pushBin_sorted {d : Nat} {c : CellData} :
    ∀ {bins : List (Nat × List CellData)}, bins.Pairwise (fun a b => a.1 < b.1) →
      (pushBin d c bins).Pairwise fun a b => a.1 < b.1
  | [], _ => List.pairwise_singleton _ _
  | (k, cells) :: bins, hs => by
    obtain ⟨hk, hs'⟩ := List.pairwise_cons.mp hs
    unfold pushBin
    split_ifs with h₁ h₂
    · refine List.pairwise_cons.mpr ⟨fun b hb => ?_, hs⟩
      rcases List.mem_cons.mp hb with rfl | hb
      · exact h₁
      · exact lt_trans h₁ (hk b hb)
    · exact List.pairwise_cons.mpr ⟨hk, hs'⟩
    · exact List.pairwise_cons.mpr ⟨pushBin_lower hk (by omega), pushBin_sorted hs'⟩

/-- Queueing a cell in the bin of its squared distance keeps the bins ordered, and extends
them. -/
theorem BinsOrdered.pushBin {bins : List (Nat × List CellData)} {c : CellData}
    (h : BinsOrdered bins) : BinsOrdered (pushBin c.sqDist c bins) ∧
      BinsExtend bins (pushBin c.sqDist c bins) := by
  refine ⟨⟨pushBin_sorted h.sorted, fun key c' hc' => ?_⟩, fun key p c' hc' => ?_⟩
  · rw [binCells_pushBin h.sorted] at hc'
    rcases List.mem_append.mp hc' with hc' | hc'
    · exact h.keys key c' hc'
    · split_ifs at hc' with hkey
      · rw [List.mem_singleton.mp hc', hkey]
      · cases hc'
  · rw [binCells_pushBin h.sorted, List.getElem?_append_left (List.getElem?_eq_some_iff.mp hc').1]
    exact hc'

/-- From sorted bins holding a bin of distance 1, the loop moves from bin 0 to bin 1. -/
theorem nextKey_zero {cs : List CellData} {bins : List (Nat × List CellData)}
    (hs : bins.Pairwise fun a b => a.1 < b.1) (h : bins.lookup 1 = some cs) :
    nextKey bins 0 = some 1 := by
  induction bins with
  | nil => cases h
  | cons b bins ih =>
    obtain ⟨k, cells⟩ := b
    obtain ⟨hk, hrest⟩ := List.pairwise_cons.mp hs
    rw [lookup_cons_eq] at h
    split_ifs at h with h₁
    · subst h₁
      rw [nextKey, List.find?_cons_of_pos _ rfl]
      rfl
    · obtain ⟨l₁, l₂, hbins, -⟩ := List.lookup_eq_some_iff.mp h
      have hk0 : k = 0 := by
        have := hk (1, cs) (by rw [hbins]; simp)
        omega
      subst hk0
      rw [nextKey, List.find?_cons_of_neg _ Bool.false_ne_true]
      exact ih hrest h

-- ════════════════════════════════════════════════════════════════════════
-- One iteration
-- ════════════════════════════════════════════════════════════════════════

variable {α : Type} {l : InflationLayer α} {r : Nat} {st st' : Propagation}

/-- What `enqueue` does to the bins: nothing, or queue the cell in the bin of its squared
distance to the source. -/
theorem enqueue_bins {index mx my sx sy : Nat} (hk : KernelsReady l r)
    (hdx : Nat.dist mx sx ≤ r + 1) (hdy : Nat.dist my sy ≤ r + 1)
    (h : enqueue l st index mx my sx sy = some st') :
    st'.bins = st.bins ∨ st'.bins = pushBin (CellData.sqDist ⟨index, mx, my, sx, sy⟩)
      ⟨index, mx, my, sx, sy⟩ st.bins := by
  simp only [enqueue, distanceLookup, hk.distances _ _ hdx hdy, Option.bind_eq_bind,
    Option.bind_eq_some] at h
  obtain ⟨isSeen, -, h⟩ := h
  cases isSeen
  · simp only [Bool.false_eq_true, if_false, Option.some_bind] at h
    split_ifs at h
    · cases h; exact .inl rfl
    · cases h; exact .inr rfl
  · simp only [if_true] at h
    cases h; exact .inl rfl

theorem enqueue_ordered {index mx my sx sy : Nat} (hk : KernelsReady l r)
    (hdx : Nat.dist mx sx ≤ r + 1) (hdy : Nat.dist my sy ≤ r + 1) (ho : BinsOrdered st.bins)
    (h : enqueue l st index mx my sx sy = some st') :
    BinsOrdered st'.bins ∧ BinsExtend st.bins st'.bins := by
  rcases enqueue_bins hk hdx hdy h with hb | hb <;> rw [hb]
  · exact ⟨ho, .refl _⟩
  · exact ho.pushBin

theorem ite_enqueue_ordered {cond : Prop} [Decidable cond] {index mx my sx sy : Nat}
    (hk : KernelsReady l r) (hdx : Nat.dist mx sx ≤ r + 1) (hdy : Nat.dist my sy ≤ r + 1)
    (ho : BinsOrdered st.bins)
    (h : (if cond then enqueue l st index mx my sx sy else pure st) = some st') :
    BinsOrdered st'.bins ∧ BinsExtend st.bins st'.bins := by
  split_ifs at h
  · exact enqueue_ordered hk hdx hdy ho h
  · cases h; exact ⟨ho, .refl _⟩

/-- The neighbours of a cell within `R` of its source keep the bins ordered, and extend them. -/
theorem enqueueNeighbours_ordered {sizeX sizeY : Nat} {c : CellData} (hk : KernelsReady l r)
    (hdx : Nat.dist c.x c.srcX ≤ r) (hdy : Nat.dist c.y c.srcY ≤ r) (ho : BinsOrdered st.bins)
    (h : enqueueNeighbours l sizeX sizeY st c = some st') :
    BinsOrdered st'.bins ∧ BinsExtend st.bins st'.bins := by
  simp only [enqueueNeighbours, Option.bind_eq_bind, Option.bind_eq_some] at h
  obtain ⟨st₁, h₁, st₂, h₂, st₃, h₃, h₄⟩ := h
  have o₁ := ite_enqueue_ordered hk (dist_step_le hdx).1 (Nat.le_succ_of_le hdy) ho h₁
  have o₂ := ite_enqueue_ordered hk (Nat.le_succ_of_le hdx) (dist_step_le hdy).1 o₁.1 h₂
  have o₃ := ite_enqueue_ordered hk (dist_step_le hdx).2 (Nat.le_succ_of_le hdy) o₂.1 h₃
  have o₄ := ite_enqueue_ordered hk (Nat.le_succ_of_le hdx) (dist_step_le hdy).2 o₃.1 h₄
  exact ⟨o₄.1, o₁.2.trans (o₂.2.trans (o₃.2.trans o₄.2))⟩

/-- One iteration keeps the bins ordered, and extends them. -/
theorem processCell_ordered (cv : CostValues) {sizeX sizeY : Nat} {c : CellData}
    (hk : KernelsReady l r) (hc : CellOk sizeX sizeY r c) (ho : BinsOrdered st.bins)
    (h : processCell cv l sizeX sizeY st c = some st') :
    BinsOrdered st'.bins ∧ BinsExtend st.bins st'.bins := by
  rcases processCell_cases cv h with ⟨_, rfl⟩ | ⟨_, _, _, _, _, hn⟩
  · exact ⟨ho, .refl _⟩
  · have hn := enqueueNeighbours_ordered hk hc.dx_le hc.dy_le (by exact ho) hn
    exact hn

-- ════════════════════════════════════════════════════════════════════════
-- The whole loop
-- ════════════════════════════════════════════════════════════════════════

/-- **What every iteration keeps at the cursor, the whole loop keeps**, whatever its fuel: an
invariant of the state, the bin and the position, kept by processing the cell under the cursor
and by moving past the end of a bin to the next one, holds at the end; and if the loop
finished, the cursor is then past the end of the last bin. -/
theorem propagate_induction_at (cv : CostValues) {sizeX sizeY : Nat}
    {P : Propagation → Nat → Nat → Prop}
    (hstep : ∀ st key i c st', P st key i → (binCells st.bins key)[i]? = some c →
      processCell cv l sizeX sizeY st c = some st' → P st' key (i + 1))
    (hnext : ∀ st key i key', P st key i → (binCells st.bins key).length ≤ i →
      nextKey st.bins key = some key' → P st key' 0) :
    ∀ fuel st key i res, P st key i → propagate cv l sizeX sizeY fuel st key i = some res →
      ∃ key' i', P res.1 key' i' ∧
        (res.2 = true → (binCells res.1.bins key').length ≤ i' ∧ nextKey res.1.bins key' = none)
  | 0, _, key, i, _, hp, h => by cases h; exact ⟨key, i, hp, fun h => nomatch h⟩
  | fuel + 1, st, key, i, res, hp, h => by
    unfold propagate at h
    dsimp only at h
    split_ifs at h with hi
    · obtain ⟨st₁, h₁, h⟩ := Option.bind_eq_some.mp h
      exact propagate_induction_at cv hstep hnext fuel st₁ key (i + 1) res
        (hstep st key i _ st₁ hp (List.getElem?_eq_getElem hi) h₁) h
    · split at h
      · cases h
        exact ⟨key, i, hp, fun _ => ⟨not_lt.mp hi, ‹_›⟩⟩
      · exact propagate_induction_at cv hstep hnext fuel st _ 0 res
          (hnext st key i _ hp (not_lt.mp hi) ‹_›) h

/-- A cell under the cursor is queued, so it is in the grid and within `R` of its source. -/
theorem PropInv.cellOk {sizeX sizeY key i : Nat} {c : CellData} (hp : PropInv sizeX sizeY r st)
    (hc : (binCells st.bins key)[i]? = some c) : CellOk sizeX sizeY r c := by
  obtain ⟨b, hb, hcb⟩ := mem_lookup_getD (List.getElem?_mem hc)
  exact hp.bins b hb c hcb

/-- One iteration from the cell under the cursor stays in range. -/
theorem processCell_propInv (cv : CostValues) {sizeX sizeY key i : Nat} {c : CellData}
    (hk : KernelsReady l r) (hp : PropInv sizeX sizeY r st)
    (hc : (binCells st.bins key)[i]? = some c) (h : processCell cv l sizeX sizeY st c = some st') :
    PropInv sizeX sizeY r st' := by
  obtain ⟨st'', h'', hp'⟩ := processCell_inv cv hk hp (hp.cellOk hc)
  cases h.symm.trans h''
  exact hp'

/-- The loop moves to a later bin. -/
theorem lt_of_nextKey {bins : List (Nat × List CellData)} {key key' : Nat}
    (h : nextKey bins key = some key') : key < key' := by
  obtain ⟨b, hb, rfl⟩ := Option.map_eq_some'.mp h
  exact of_decide_eq_true
    (List.find?_some (p := fun b : Nat × List CellData => decide (key < b.1)) hb)

/-- **The loop starts in range, with its one bin of seeds ordered.** -/
theorem seedObstacles_start (cv : CostValues) {grid : Costmap2D} {minI minJ maxI maxJ : Int}
    {bin : List CellData}
    (h : seedObstacles cv grid (max 0 (minI - r)).toNat (max 0 (minJ - r)).toNat
      (min (grid.sizeX : Int) (maxI + r)).toNat (min (grid.sizeY : Int) (maxJ + r)).toNat =
        some bin) :
    PropInv grid.sizeX grid.sizeY r
        ⟨List.replicate (grid.sizeX * grid.sizeY) false, grid.charMap, [(0, bin)], []⟩ ∧
      BinsOrdered [(0, bin)] := by
  obtain ⟨bin', hbin', hcells⟩ := seedObstacles_inv cv (r := r) grid (max 0 (minI - r)).toNat
    (max 0 (minJ - r)).toNat (min (grid.sizeX : Int) (maxI + r)).toNat
    (min (grid.sizeY : Int) (maxJ + r)).toNat (by omega) (by omega)
  cases h.symm.trans hbin'
  refine ⟨⟨List.length_replicate _ _, grid.charMap_length,
    fun b hb => List.mem_singleton.mp hb ▸ hcells, by simp⟩, List.pairwise_singleton _ _,
    fun key c hc => ?_⟩
  simp only [binCells, lookup_cons_eq, List.lookup_nil] at hc
  split_ifs at hc with h0
  · obtain ⟨i, j, rfl, -⟩ := seedObstacles_mem cv h c hc
    simp [CellData.sqDist, h0]
  · cases hc

-- ════════════════════════════════════════════════════════════════════════
-- The order of the wavefront
-- ════════════════════════════════════════════════════════════════════════

/-- The squared offset of a cost lookup; a distance lookup has none. -/
def KernelLookup.costSqDist : KernelLookup → Option Nat
  | .distance _ _ => none
  | .cost dx dy => some (dx * dx + dy * dy)

/-- A log of distance lookups only has no squared offsets. -/
theorem filterMap_costSqDist_eq_nil {ds : List KernelLookup}
    (h : ds.countP KernelLookup.isCost = 0) : ds.filterMap KernelLookup.costSqDist = [] := by
  rw [List.countP_eq_zero] at h
  refine List.filterMap_eq_nil_iff.mpr fun e he => ?_
  cases e with
  | distance => rfl
  | cost => exact absurd rfl (h _ he)

/-- The invariant of the loop in the bin of distance `key`: the bins are ordered, and the
squared offsets of the cost lookups so far are sorted and at most `key`. -/
structure OrderInv (st : Propagation) (key : Nat) : Prop where
  bins : BinsOrdered st.bins
  sorted : (st.lookups.filterMap KernelLookup.costSqDist).Sorted (· ≤ ·)
  le_key : ∀ d ∈ st.lookups.filterMap KernelLookup.costSqDist, d ≤ key

theorem OrderInv.mono {key key' : Nat} (ho : OrderInv st key) (hle : key ≤ key') :
    OrderInv st key' :=
  ⟨ho.bins, ho.sorted, fun d hd => (ho.le_key d hd).trans hle⟩

/-- **One iteration processes a cell of the current bin**: its cost lookup comes last, at the
bin's squared distance. -/
theorem processCell_order (cv : CostValues) {sizeX sizeY key i : Nat} {c : CellData}
    (hk : KernelsReady l r) (hp : PropInv sizeX sizeY r st) (ho : OrderInv st key)
    (hc : (binCells st.bins key)[i]? = some c) (h : processCell cv l sizeX sizeY st c = some st') :
    OrderInv st' key := by
  have hkey : c.sqDist = key := ho.bins.keys key c (List.getElem?_mem hc)
  have hbins := (processCell_ordered cv hk (hp.cellOk hc) ho.bins h).1
  rcases processCell_cases cv h with ⟨-, rfl⟩ | ⟨-, cost, old, -, -, hn⟩
  · exact ho
  obtain ⟨ds, hds, -, hcount⟩ := (enqueueNeighbours_adds hn).lookups
  have hlog : st'.lookups.filterMap KernelLookup.costSqDist =
      st.lookups.filterMap KernelLookup.costSqDist ++ [key] := by
    rw [hds, List.filterMap_append, List.filterMap_append, filterMap_costSqDist_eq_nil hcount,
      List.append_nil, ← hkey]
    rfl
  refine ⟨hbins, ?_, fun d hd => ?_⟩
  · rw [hlog]
    exact List.pairwise_append.mpr ⟨ho.sorted, List.sorted_singleton _,
      fun a ha b hb => List.mem_singleton.mp hb ▸ ho.le_key a ha⟩
  · rw [hlog] at hd
    rcases List.mem_append.mp hd with hd | hd
    · exact ho.le_key d hd
    · exact (List.mem_singleton.mp hd).le

variable {computeCost : α → α → α → Nat → UInt8}

/-- A call of `updateCosts` processes its cells by nondecreasing squared distance to their
source, from a layer whose kernels fit. -/
theorem updateCosts_order_of_fits (cv : CostValues) {l : InflationLayer α}
    (hfit : CachesFit computeCost l) {fuel : Nat} {grid : Costmap2D} {minI minJ maxI maxJ : Int}
    {res : UpdateCostsResult α} (h : l.updateCosts cv fuel grid minI minJ maxI maxJ = some res) :
    (res.lookups.filterMap KernelLookup.costSqDist).Sorted (· ≤ ·) := by
  rcases updateCosts_cases cv h with ⟨-, rfl⟩ | ⟨-, hr, bin, st, finished, hbin, hprop, rfl⟩
  · exact List.sorted_nil
  have hk := CachesFit.kernelsReady computeCost hfit hr
  obtain ⟨hp0, ho0⟩ := seedObstacles_start cv hbin
  obtain ⟨_, _, ⟨_, ho⟩, _⟩ := propagate_induction_at cv
    (P := fun st key _ => PropInv grid.sizeX grid.sizeY l.cellInflationRadius st ∧ OrderInv st key)
    (fun _ _ _ _ _ ⟨hp, ho⟩ hc h' =>
      ⟨processCell_propInv cv hk hp hc h', processCell_order cv hk hp ho hc h'⟩)
    (fun _ _ _ _ ⟨hp, ho⟩ _ hn => ⟨hp, ho.mono (lt_of_nextKey hn).le⟩)
    fuel _ 0 0 _ ⟨hp0, ho0, List.sorted_nil, by simp⟩ hprop
  exact ho.sorted

/-- **The bins process cells by increasing distance.** Over any sequence of operations from the
constructor, and then on every grid, window and fuel, `updateCosts` returns, and it writes the
cells it processes in nondecreasing order of their squared distance to their source: the squared
offsets of its cost lookups, one with each write, are sorted in the order it makes them. -/
theorem updateCosts_processing_order [LinearOrderedField α] (cv : CostValues) (floatMax : α)
    (enabled current : Bool) (ops : List (LayerOp α)) :
    ∃ l, runLayer cv computeCost floatMax (InflationLayer.new floatMax enabled current) ops =
        some l ∧
      ∀ fuel grid minI minJ maxI maxJ, ∃ res,
        l.updateCosts cv fuel grid minI minJ maxI maxJ = some res ∧
        (res.lookups.filterMap KernelLookup.costSqDist).Sorted (· ≤ ·) := by
  obtain ⟨l, hrun, hfit⟩ := runLayer_cachesFit computeCost cv floatMax ops _
    (CachesFit.new computeCost floatMax enabled current)
  refine ⟨l, hrun, fun fuel grid minI minJ maxI maxJ => ?_⟩
  obtain ⟨res, hres, -⟩ := updateCosts_inv computeCost cv hfit fuel grid minI minJ maxI maxJ
  exact ⟨res, hres, updateCosts_order_of_fits cv hfit hres⟩

end Nav2Costmap2d
