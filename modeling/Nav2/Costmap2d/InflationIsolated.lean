import Nav2.Costmap2d.InflationAdjacent

/-!
# An isolated obstacle

With several lethal cells, a queued cell inherits the source of the cell that queued it, and a
cell may end below the cost of its nearest obstacle (`updateCosts_misses_nearest_obstacle`).
Around an obstacle whose disc of radius `R` overlaps no other obstacle's this cannot happen:
every cell queued within `R` of it has it as its source, and the loop inflates exactly. Every
cell of the grid within `R` of the obstacle ends at the kernel cost of its squared distance
merged with its old cost (`updateCosts_isolated_obstacle`).

The argument is the one of a breadth-first walk. A cell is `Pending` while an entry for it lies
at or ahead of the cursor of the loop. `CoverInv` says that the obstacle is seen or pending, and
that every step from a seen cell to a 4-neighbour farther from the obstacle, but still within
`R`, lands on a seen or pending cell: processing a cell queues such a neighbour in a later bin.
When the loop has exhausted its bins nothing is pending, so the seen cells are closed under
these steps, and a strong induction on the squared distance to the obstacle marks every cell
within `R` (`seen_of_closed`).
-/

namespace Nav2Costmap2d
open InflationLayer

/-- The squared distance from `(x, y)` to `(sx, sy)`. -/
def sqDistTo (sx sy x y : Nat) : Nat :=
  Nat.dist x sx * Nat.dist x sx + Nat.dist y sy * Nat.dist y sy

-- ════════════════════════════════════════════════════════════════════════
-- Cells ahead of the cursor
-- ════════════════════════════════════════════════════════════════════════

/-- The loop moves to the nearest later bin. -/
theorem nextKey_le {bins : List (Nat × List CellData)} {key key' k : Nat} {cs : List CellData}
    (hs : bins.Pairwise fun a b => a.1 < b.1) (h : nextKey bins key = some key')
    (hk : bins.lookup k = some cs) (hlt : key < k) : key' ≤ k := by
  induction bins with
  | nil => cases hk
  | cons b bins ih =>
    obtain ⟨k₀, cells⟩ := b
    obtain ⟨hk₀, hrest⟩ := List.pairwise_cons.mp hs
    rw [lookup_cons_eq] at hk
    by_cases h₀ : key < k₀
    · rw [nextKey, List.find?_cons_of_pos (p := fun b : Nat × List CellData => decide (key < b.1))
        _ (decide_eq_true h₀)] at h
      have hkey : k₀ = key' := Option.some.inj h
      subst hkey
      split_ifs at hk with hkk
      · exact hkk.ge
      · obtain ⟨l₁, l₂, hbins, -⟩ := List.lookup_eq_some_iff.mp hk
        exact (hk₀ (k, cs) (by rw [hbins]; simp)).le
    · rw [nextKey, List.find?_cons_of_neg (p := fun b : Nat × List CellData => decide (key < b.1))
        _ fun hd => h₀ (of_decide_eq_true hd)] at h
      split_ifs at hk with hkk
      · omega
      · exact ih hrest h hk

/-- While a bin lies beyond `key`, the loop has one to move to. -/
theorem nextKey_ne_none {bins : List (Nat × List CellData)} {key k : Nat} {cs : List CellData}
    (hk : bins.lookup k = some cs) (hlt : key < k) : nextKey bins key ≠ none := by
  obtain ⟨l₁, l₂, hbins, -⟩ := List.lookup_eq_some_iff.mp hk
  intro h
  rw [nextKey, Option.map_eq_none', List.find?_eq_none] at h
  exact h (k, cs) (by rw [hbins]; simp) (decide_eq_true hlt)

/-- The cell at `index` has an entry at or ahead of the cursor, position `i` of the bin of
distance `key`. -/
def Pending (st : Propagation) (key i index : Nat) : Prop :=
  ∃ (k p : Nat) (c : CellData), (binCells st.bins k)[p]? = some c ∧ c.index = index ∧
    (key < k ∨ key = k ∧ i ≤ p)

variable {α : Type} {l : InflationLayer α} {r : Nat} {st st' : Propagation}

/-- One iteration processes the pending cell, or leaves it pending. -/
theorem Pending.step (cv : CostValues) {sizeX sizeY key i index : Nat} {c : CellData}
    (hq : Pending st key i index) (hc : (binCells st.bins key)[i]? = some c)
    (h : processCell cv l sizeX sizeY st c = some st') (hext : BinsExtend st.bins st'.bins) :
    st'.seen[index]? = some true ∨ Pending st' key (i + 1) index := by
  obtain ⟨k, p, c', hp, hidx, hk⟩ := hq
  by_cases hki : k = key ∧ p = i
  · obtain ⟨rfl, rfl⟩ := hki
    cases hp.symm.trans hc
    exact .inl (hidx ▸ processCell_marks cv h)
  · exact .inr ⟨k, p, c', hext k p c' hp, hidx, by omega⟩

/-- Past the end of a bin, a pending cell stays pending from the start of the next one. -/
theorem Pending.next {key i key' index : Nat} (hs : st.bins.Pairwise fun a b => a.1 < b.1)
    (hq : Pending st key i index) (hlen : (binCells st.bins key).length ≤ i)
    (h : nextKey st.bins key = some key') : Pending st key' 0 index := by
  obtain ⟨k, p, c, hp, hidx, hk⟩ := hq
  have hlt : key < k := by
    rcases hk with hk | ⟨rfl, hip⟩
    · exact hk
    · have := (List.getElem?_eq_some_iff.mp hp).1
      omega
  obtain ⟨cs, hcs⟩ := lookup_of_binCells hp
  have hle := nextKey_le hs h hcs hlt
  exact ⟨k, p, c, hp, hidx, by omega⟩

/-- **When the bins are exhausted, nothing is pending.** -/
theorem Pending.not_done {key i index : Nat} (hq : Pending st key i index)
    (hlen : (binCells st.bins key).length ≤ i) (h : nextKey st.bins key = none) : False := by
  obtain ⟨k, p, c, hp, -, hk⟩ := hq
  rcases hk with hk | ⟨rfl, hip⟩
  · obtain ⟨cs, hcs⟩ := lookup_of_binCells hp
    exact nextKey_ne_none hcs hk h
  · have := (List.getElem?_eq_some_iff.mp hp).1
    omega

-- ════════════════════════════════════════════════════════════════════════
-- The invariant
-- ════════════════════════════════════════════════════════════════════════

/-- The invariant of the loop for the obstacle `(sx, sy)`: the obstacle is seen or pending, and
every step from a seen cell to a 4-neighbour farther from the obstacle but within `R` lands on a
seen or pending cell. -/
structure CoverInv (sizeX sizeY r sx sy : Nat) (st : Propagation) (key i : Nat) : Prop where
  seed : st.seen[sy * sizeX + sx]? = some true ∨ Pending st key i (sy * sizeX + sx)
  cover : ∀ a b u v, a < sizeX → u < sizeX → v < sizeY → Nat.dist u a + Nat.dist v b = 1 →
    sqDistTo sx sy a b < sqDistTo sx sy u v → sqDistTo sx sy u v ≤ r * r →
    st.seen[b * sizeX + a]? = some true →
    st.seen[v * sizeX + u]? = some true ∨ Pending st key i (v * sizeX + u)

/-- **One iteration keeps the invariant** when every queued cell within `R` of the obstacle
comes from it: the cell it marks queues its farther neighbours in later bins. -/
theorem processCell_cover (cv : CostValues) {sizeX sizeY sx sy key i : Nat} {c : CellData}
    (hk : KernelsReady l r) (hp : PropInv sizeX sizeY r st) (ho : BinsOrdered st.bins)
    (hsrc : ∀ b ∈ st.bins, ∀ c ∈ b.2, sqDistTo sx sy c.x c.y ≤ r * r → c.srcX = sx ∧ c.srcY = sy)
    (hv : CoverInv sizeX sizeY r sx sy st key i) (hc : (binCells st.bins key)[i]? = some c)
    (h : processCell cv l sizeX sizeY st c = some st') :
    CoverInv sizeX sizeY r sx sy st' key (i + 1) := by
  have hcok := hp.cellOk hc
  have hkey : c.sqDist = key := ho.keys key c (List.getElem?_mem hc)
  have hext := (processCell_ordered cv hk hcok ho h).2
  refine ⟨hv.seed.elim (fun hs => .inl (processCell_seen_stable cv h hs).1)
    (fun hq => hq.step cv hc h hext), fun a b u v ha hu hv' hadj hlt hle hab => ?_⟩
  by_cases hab₀ : st.seen[b * sizeX + a]? = some true
  · rcases hv.cover a b u v ha hu hv' hadj hlt hle hab₀ with hs | hq
    · exact .inl (processCell_seen_stable cv h hs).1
    · exact hq.step cv hc h hext
  -- the cell `(a, b)` is marked now, from the obstacle
  rcases processCell_cases cv h with ⟨-, rfl⟩ | ⟨-, cost, old, -, -, hn⟩
  · exact absurd hab hab₀
  have hidx : c.index = b * sizeX + a := by
    by_contra hne
    rw [(enqueueNeighbours_adds hn).seen, List.getElem?_set_ne hne] at hab
    exact hab₀ hab
  obtain ⟨hx, hy⟩ := hcok.coords ha hidx
  obtain ⟨hsx, hsy⟩ : c.srcX = sx ∧ c.srcY = sy := by
    obtain ⟨b', hb', hcb'⟩ := mem_lookup_getD (List.getElem?_mem hc)
    exact hsrc b' hb' c hcb' (by rw [hx, hy]; exact hlt.le.trans hle)
  obtain ⟨w, hw⟩ : ∃ w, st.seen[v * sizeX + u]? = some w :=
    ⟨_, List.getElem?_eq_getElem (hp.seen_length ▸ index_lt hu hv')⟩
  cases w
  · -- the neighbour is unseen: it is queued in the bin of its distance, beyond the cursor
    have hne : c.index ≠ v * sizeX + u := by
      rw [hidx]
      intro he
      obtain ⟨rfl, rfl⟩ := getIndex_inj ha hu he
      simp at hadj
    obtain ⟨p, hp'⟩ := enqueueNeighbours_pushes hk hcok (by exact ho)
      (by rw [hx, hy]; exact hadj) hu hv' (by rw [List.getElem?_set_ne hne]; exact hw)
      (by rw [hsx, hsy]; exact hle) hn
    refine .inr ⟨_, p, _, hp', rfl, .inl ?_⟩
    rw [← hkey]
    show Nat.dist c.x c.srcX * Nat.dist c.x c.srcX + Nat.dist c.y c.srcY * Nat.dist c.y c.srcY <
      Nat.dist u c.srcX * Nat.dist u c.srcX + Nat.dist v c.srcY * Nat.dist v c.srcY
    rw [hx, hy, hsx, hsy]
    exact hlt
  · exact .inl (processCell_seen_stable cv h hw).1

theorem CoverInv.next {sizeX sizeY sx sy key i key' : Nat}
    (hs : st.bins.Pairwise fun a b => a.1 < b.1) (hv : CoverInv sizeX sizeY r sx sy st key i)
    (hlen : (binCells st.bins key).length ≤ i) (h : nextKey st.bins key = some key') :
    CoverInv sizeX sizeY r sx sy st key' 0 :=
  ⟨hv.seed.imp_right fun hq => hq.next hs hlen h,
    fun a b u v ha hu hv' hadj hlt hle hab =>
      (hv.cover a b u v ha hu hv' hadj hlt hle hab).imp_right fun hq => hq.next hs hlen h⟩

-- ════════════════════════════════════════════════════════════════════════
-- Every cell within `R`
-- ════════════════════════════════════════════════════════════════════════

/-- A step toward `s` along one axis. -/
theorem dist_step_toward {x s : Nat} (h : x < s) :
    Nat.dist (x + 1) s < Nat.dist x s ∧ Nat.dist x (x + 1) = 1 := by
  unfold Nat.dist
  omega

theorem dist_step_back {x s : Nat} (h : s < x) :
    Nat.dist (x - 1) s < Nat.dist x s ∧ Nat.dist x (x - 1) = 1 := by
  unfold Nat.dist
  omega

/-- Every cell of the grid but the obstacle has a 4-neighbour in the grid strictly closer to
it. -/
theorem exists_closer {sizeX sizeY sx sy x y : Nat} (hx : x < sizeX) (hy : y < sizeY)
    (hsx : sx < sizeX) (hsy : sy < sizeY) (hne : ¬(x = sx ∧ y = sy)) :
    ∃ a b, a < sizeX ∧ b < sizeY ∧ Nat.dist x a + Nat.dist y b = 1 ∧
      sqDistTo sx sy a b < sqDistTo sx sy x y := by
  unfold sqDistTo
  rcases lt_trichotomy x sx with hlt | rfl | hgt
  · obtain ⟨hd, h1⟩ := dist_step_toward hlt
    exact ⟨x + 1, y, by omega, hy, by rw [h1, Nat.dist_self],
      Nat.add_lt_add_right (Nat.mul_self_lt_mul_self hd) _⟩
  · rcases Nat.lt_or_gt_of_ne fun h => hne ⟨rfl, h⟩ with hlt | hgt
    · obtain ⟨hd, h1⟩ := dist_step_toward hlt
      exact ⟨x, y + 1, hx, by omega, by rw [h1, Nat.dist_self],
        Nat.add_lt_add_left (Nat.mul_self_lt_mul_self hd) _⟩
    · obtain ⟨hd, h1⟩ := dist_step_back hgt
      exact ⟨x, y - 1, hx, by omega, by rw [h1, Nat.dist_self],
        Nat.add_lt_add_left (Nat.mul_self_lt_mul_self hd) _⟩
  · obtain ⟨hd, h1⟩ := dist_step_back hgt
    exact ⟨x - 1, y, by omega, hy, by rw [h1, Nat.dist_self],
      Nat.add_lt_add_right (Nat.mul_self_lt_mul_self hd) _⟩

/-- **Seen cells closed under the steps away from the obstacle, with the obstacle seen, cover
every cell within `R`**, by strong induction on the squared distance to the obstacle. -/
theorem seen_of_closed {sizeX sizeY sx sy : Nat} {seen : List Bool} (hsx : sx < sizeX)
    (hsy : sy < sizeY) (hs : seen[sy * sizeX + sx]? = some true)
    (hcl : ∀ a b u v, a < sizeX → u < sizeX → v < sizeY → Nat.dist u a + Nat.dist v b = 1 →
      sqDistTo sx sy a b < sqDistTo sx sy u v → sqDistTo sx sy u v ≤ r * r →
      seen[b * sizeX + a]? = some true → seen[v * sizeX + u]? = some true) :
    ∀ x y, x < sizeX → y < sizeY → sqDistTo sx sy x y ≤ r * r →
      seen[y * sizeX + x]? = some true := by
  suffices h : ∀ n x y, sqDistTo sx sy x y = n → x < sizeX → y < sizeY → n ≤ r * r →
      seen[y * sizeX + x]? = some true from
    fun x y hx hy hle => h _ x y rfl hx hy hle
  intro n
  induction n using Nat.strong_induction_on with
  | _ n ih =>
    rintro x y rfl hx hy hle
    by_cases hxy : x = sx ∧ y = sy
    · obtain ⟨rfl, rfl⟩ := hxy
      exact hs
    obtain ⟨a, b, ha, hb, hadj, hlt⟩ := exists_closer hx hy hsx hsy hxy
    exact hcl a b x y ha hx hy hadj hlt hle (ih _ hlt a b rfl ha hb (hlt.le.trans hle))

-- ════════════════════════════════════════════════════════════════════════
-- `updateCosts`
-- ════════════════════════════════════════════════════════════════════════

variable {computeCost : α → α → α → Nat → UInt8}

/-- A finished `updateCosts` inflates exactly around a lethal cell of the window that no other
one's disc of radius `R` overlaps, from a layer whose kernels fit. -/
theorem updateCosts_isolated_of_fits (cv : CostValues) {l : InflationLayer α}
    (hfit : CachesFit computeCost l) {fuel : Nat} {grid : Costmap2D} {minI minJ maxI maxJ : Int}
    {res : UpdateCostsResult α} (h : l.updateCosts cv fuel grid minI minJ maxI maxJ = some res)
    (hfin : res.finished = true) (hen : l.enabled = true) (hr : l.cellInflationRadius ≠ 0)
    {sx sy : Nat} (hs : WindowSeed cv grid l.cellInflationRadius minI minJ maxI maxJ sx sy)
    (hsep : ∀ tx ty x y, WindowSeed cv grid l.cellInflationRadius minI minJ maxI maxJ tx ty →
      x < grid.sizeX → y < grid.sizeY →
      sqDistTo sx sy x y ≤ l.cellInflationRadius * l.cellInflationRadius →
      sqDistTo tx ty x y ≤ l.cellInflationRadius * l.cellInflationRadius → tx = sx ∧ ty = sy)
    {x y : Nat} (hx : x < grid.sizeX) (hy : y < grid.sizeY)
    (hle : sqDistTo sx sy x y ≤ l.cellInflationRadius * l.cellInflationRadius) :
    ∃ old, grid.charMap[grid.getIndex x y]? = some old ∧
      res.master[grid.getIndex x y]? = some (inflatedCost cv l.inflateUnknown old
        (computeCost l.resolution l.inscribedRadius l.costScalingFactor (sqDistTo sx sy x y))) := by
  rcases updateCosts_cases cv h with ⟨hoff, -⟩ | ⟨-, -, bin, st, finished, hbin, hprop, rfl⟩
  · rw [hen] at hoff
    exact absurd (hoff.resolve_left Bool.noConfusion) hr
  have hk := CachesFit.kernelsReady computeCost hfit hr
  obtain ⟨hp0, ho0⟩ := seedObstacles_start cv hbin
  obtain ⟨hl, hi₁, hi₂, hsx, hj₁, hj₂, hsy⟩ := hs
  obtain ⟨p, hp⟩ := List.mem_iff_getElem?.mp
    (mem_seedObstacles cv hbin hl (by omega) (by omega) (by omega) (by omega))
  have hv0 : ValueInv cv l grid l.cellInflationRadius
      (WindowSeed cv grid l.cellInflationRadius minI minJ maxI maxJ)
      ⟨List.replicate (grid.sizeX * grid.sizeY) false, grid.charMap, [(0, bin)], []⟩ :=
    ⟨fun b hb => List.mem_singleton.mp hb ▸ seedObstacles_windowSeed cv hbin, fun _ _ => rfl,
      fun x y _ hs => by simp [List.getElem?_replicate] at hs⟩
  obtain ⟨key, i, ⟨-, hvf, -, hcf⟩, hend⟩ := propagate_induction_at cv
    (P := fun st key i => PropInv grid.sizeX grid.sizeY l.cellInflationRadius st ∧
      ValueInv cv l grid l.cellInflationRadius
        (WindowSeed cv grid l.cellInflationRadius minI minJ maxI maxJ) st ∧
      BinsOrdered st.bins ∧ CoverInv grid.sizeX grid.sizeY l.cellInflationRadius sx sy st key i)
    (fun _ _ _ c _ ⟨hp, hv, ho, hc'⟩ hc h' => by
      obtain ⟨b, hb, hcb⟩ := mem_lookup_getD (List.getElem?_mem hc)
      refine ⟨processCell_propInv cv hk hp hc h',
        processCell_value hk hv (hp.cellOk hc) (hv.bins b hb c hcb) h',
        (processCell_ordered cv hk (hp.cellOk hc) ho h').1,
        processCell_cover cv hk hp ho (fun b hb c hc hd => ?_) hc' hc h'⟩
      exact hsep _ _ c.x c.y (hv.bins b hb c hc).1 (hp.bins b hb c hc).x_lt
        (hp.bins b hb c hc).y_lt hd (hv.bins b hb c hc).2)
    (fun _ _ _ _ ⟨hp, hv, ho, hc'⟩ hlen hn => ⟨hp, hv, ho, hc'.next ho.sorted hlen hn⟩)
    fuel _ 0 0 _
    ⟨hp0, hv0, ho0, .inr ⟨0, p, _, by simpa [binCells] using hp, rfl, .inr ⟨rfl, Nat.zero_le _⟩⟩,
      fun a b u v _ _ _ _ _ _ hab => by simp [List.getElem?_replicate] at hab⟩ hprop
  obtain ⟨hlen, hnone⟩ := hend hfin
  have hseen := seen_of_closed hsx hsy
    (hcf.seed.resolve_right fun hq => hq.not_done hlen hnone)
    (fun a b u v ha hu hv hadj hlt hle hab =>
      (hcf.cover a b u v ha hu hv hadj hlt hle hab).resolve_right fun hq => hq.not_done hlen hnone)
  -- the cell is seen, and reached from a seed within `R`, which can only be `(sx, sy)`
  obtain ⟨new, hnew, tx, ty, old, cost, hts, htd, hold, hcost, rfl⟩ :=
    hvf.seen x y hx (hseen x y hx hy hle)
  obtain ⟨rfl, rfl⟩ := hsep tx ty x y hts hx hy hle htd
  refine ⟨old, hold, ?_⟩
  rw [hnew, hfit.costLookup_eq computeCost hr hcost]
  rfl

/-- **Around an isolated obstacle, `updateCosts` inflates exactly.** Over any sequence of
operations from the constructor, and then on every grid and window with fuel above nine
iterations per cell, when the layer is enabled with a nonzero radius `R`: take a lethal cell
`(sx, sy)` of the window enlarged by `R` and clamped to the grid, such that no grid cell within
`R` of it lies within `R` of another such lethal cell. Every cell `(x, y)` of the grid at squared
distance `d ≤ R * R` from it ends at `computeCost` of `d` merged with its old cost as
`processCell` merges them. -/
theorem updateCosts_isolated_obstacle [LinearOrderedField α] (cv : CostValues) (floatMax : α)
    (enabled current : Bool) (ops : List (LayerOp α)) :
    ∃ l, runLayer cv computeCost floatMax (InflationLayer.new floatMax enabled current) ops =
        some l ∧
      ∀ fuel grid minI minJ maxI maxJ, 9 * (grid.sizeX * grid.sizeY) < fuel → ∃ res,
        l.updateCosts cv fuel grid minI minJ maxI maxJ = some res ∧
        (l.enabled = true → l.cellInflationRadius ≠ 0 → ∀ sx sy,
          WindowSeed cv grid l.cellInflationRadius minI minJ maxI maxJ sx sy →
          (∀ tx ty x y, WindowSeed cv grid l.cellInflationRadius minI minJ maxI maxJ tx ty →
            x < grid.sizeX → y < grid.sizeY →
            sqDistTo sx sy x y ≤ l.cellInflationRadius * l.cellInflationRadius →
            sqDistTo tx ty x y ≤ l.cellInflationRadius * l.cellInflationRadius →
            tx = sx ∧ ty = sy) →
          ∀ x y, x < grid.sizeX → y < grid.sizeY →
            sqDistTo sx sy x y ≤ l.cellInflationRadius * l.cellInflationRadius → ∃ old,
            grid.charMap[grid.getIndex x y]? = some old ∧
            res.master[grid.getIndex x y]? = some (inflatedCost cv l.inflateUnknown old
              (computeCost l.resolution l.inscribedRadius l.costScalingFactor
                (sqDistTo sx sy x y)))) := by
  obtain ⟨l, hrun, hfit⟩ := runLayer_cachesFit computeCost cv floatMax ops _
    (CachesFit.new computeCost floatMax enabled current)
  refine ⟨l, hrun, fun fuel grid minI minJ maxI maxJ hfuel => ?_⟩
  obtain ⟨res, hres, hfin⟩ := updateCosts_finishes cv hfit grid minI minJ maxI maxJ hfuel
  exact ⟨res, hres, fun hen hr _ _ hs hsep _ _ hx hy hle =>
    updateCosts_isolated_of_fits cv hfit hres hfin hen hr hs hsep hx hy hle⟩

end Nav2Costmap2d
