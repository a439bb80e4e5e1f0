import Nav2.Costmap2d.InflationTermination

/-!
# What `updateCosts` changes

`updateCosts` writes `master_array` only at a cell it marks seen, and it marks each cell at
most once. A cell is queued only from a seed, a lethal cell of the enlarged window, and only
while its squared distance to that seed is at most `R * R`. Hence:

* a cell whose cost was not `NO_INFORMATION` is never lowered, and a lethal cell stays lethal,
  as long as no kernel cost exceeds `LETHAL_OBSTACLE`;
* a cell changes only if a lethal cell of the enlarged window lies within `R` of it; every other
  cell keeps its cost.

The invariant of the loop is `FrameInv`, over any predicate `seed` on the sources. `enqueue`
and one iteration keep it, so the whole loop keeps it, for any fuel. The main result is
`updateCosts_frame`. Like `updateCosts_in_range`, it covers every state a sequence of
operations reaches from the constructor.

A queued cell inherits the source of the cell that queued it, so the distance it is reached at
need not be the distance to its nearest obstacle: `updateCosts_misses_nearest_obstacle` shows
a cell within the inscribed radius of an obstacle that ends below `INSCRIBED_INFLATED_OBSTACLE`.
-/

namespace Nav2Costmap2d
open InflationLayer

theorem cost_le_max_left (a b : UInt8) : a ≤ max a b := by
  show a ≤ if a ≤ b then b else a
  split_ifs with h
  · exact h
  · exact UInt8.le_refl a

theorem cost_max_eq_left {a b : UInt8} (h : b ≤ a) : max a b = a := by
  show (if a ≤ b then b else a) = a
  split_ifs with hab
  · rw [UInt8.le_def, BitVec.le_def] at h hab
    exact UInt8.eq_of_toBitVec_eq (BitVec.eq_of_toNat_eq (by omega))
  · rfl

theorem setChecked_eq_some {β : Type} {l l' : List β} {i : Nat} {v : β}
    (h : setChecked l i v = some l') : i < l.length ∧ l' = l.set i v := by
  unfold setChecked at h
  split_ifs at h with hi
  exact ⟨hi, (Option.some.inj h).symm⟩

/-- A cell has one index: `getIndex` is injective on the grid's columns. -/
theorem getIndex_inj {w x y x' y' : Nat} (hx : x < w) (hx' : x' < w)
    (h : y * w + x = y' * w + x') : x = x' ∧ y = y' := by
  have hw : 0 < w := by omega
  have hmod := congrArg (· % w) h
  have hdiv := congrArg (· / w) h
  simp only [Nat.add_comm (y * w), Nat.add_comm (y' * w), Nat.add_mul_mod_self_right,
    Nat.mod_eq_of_lt hx, Nat.mod_eq_of_lt hx', Nat.add_mul_div_right _ _ hw, Nat.div_eq_of_lt hx,
    Nat.div_eq_of_lt hx', Nat.zero_add] at hmod hdiv
  exact ⟨hmod, hdiv⟩

theorem kernelAt_kernel_eq {β : Type} {n i j : Nat} {f : Nat → Nat → β} {v : β}
    (h : kernelAt (kernel n f) i j = some v) : v = f i j := by
  by_cases hi : i < n
  · by_cases hj : j < n
    · rw [kernelAt_kernel hi hj] at h
      exact (Option.some.inj h).symm
    · have hnone : (List.range n)[j]? = none := List.getElem?_eq_none (by simpa using hj)
      simp [kernelAt, kernel, List.getElem?_range hi, hnone] at h
  · have hnone : (List.range n)[i]? = none := List.getElem?_eq_none (by simpa using hi)
    simp [kernelAt, kernel, hnone] at h

section Frame

variable (cv : CostValues)

/-- What one write does to a cell's cost: unless the old cost was `NO_INFORMATION`, the new
cost is not below it, and a lethal cell stays lethal. -/
structure Raised (old new : UInt8) : Prop where
  not_lowered : old ≠ cv.noInformation → old ≤ new
  lethal : old = cv.lethalObstacle → new = cv.lethalObstacle

theorem Raised.refl (c : UInt8) : Raised cv c c := ⟨fun _ => UInt8.le_refl c, id⟩

/-- The cost `processCell` writes raises the old one, when the kernel cost is at most
`LETHAL_OBSTACLE` and `LETHAL_OBSTACLE` is not `NO_INFORMATION`. -/
theorem raised_newCost (hlethal : cv.lethalObstacle ≠ cv.noInformation) {old cost : UInt8}
    (hcost : cost ≤ cv.lethalObstacle) (cond : Prop) [Decidable cond] :
    Raised cv old (if old = cv.noInformation ∧ cond then cost else max old cost) := by
  by_cases hinfo : old = cv.noInformation
  · exact ⟨fun h => absurd hinfo h, fun h => absurd (h ▸ hinfo) hlethal⟩
  · rw [if_neg fun h => hinfo h.1]
    exact ⟨fun _ => cost_le_max_left old cost, fun h => by rw [h]; exact cost_max_eq_left hcost⟩

variable (grid : Costmap2D) (r : Nat) (seed : Nat → Nat → Prop)

/-- A queued cell's source is a seed, and the cell lies within `r` of it. -/
def SourceOk (c : CellData) : Prop :=
  seed c.srcX c.srcY ∧
    Nat.dist c.x c.srcX * Nat.dist c.x c.srcX + Nat.dist c.y c.srcY * Nat.dist c.y c.srcY ≤ r * r

/-- Cell `(x, y)` lies within `r` of a seed. -/
def NearSeed (x y : Nat) : Prop :=
  ∃ sx sy, seed sx sy ∧ Nat.dist x sx * Nat.dist x sx + Nat.dist y sy * Nat.dist y sy ≤ r * r

/-- The invariant of the propagation loop for what it changes: every queued cell comes from a
seed within `r`; an unseen cell still holds the grid's cost; a seen cell holds a raised cost
and lies within `r` of a seed. -/
structure FrameInv (st : Propagation) : Prop where
  bins : ∀ b ∈ st.bins, ∀ c ∈ b.2, SourceOk r seed c
  unseen : ∀ i : Nat, st.seen[i]? = some false → st.master[i]? = grid.charMap[i]?
  seen : ∀ x y, x < grid.sizeX → st.seen[grid.getIndex x y]? = some true →
    ∃ old new, grid.charMap[grid.getIndex x y]? = some old ∧
      st.master[grid.getIndex x y]? = some new ∧ Raised cv old new ∧ NearSeed r seed x y

variable {α : Type} {l : InflationLayer α} {st st' : Propagation}

/-- **`enqueue` keeps the invariant** on a neighbour at most `R + 1` from a seed: it queues the
neighbour only within `R`, and writes no cost. -/
theorem enqueue_frame {index mx my sx sy : Nat} (hk : KernelsReady l r)
    (hf : FrameInv cv grid r seed st) (hseed : seed sx sy) (hdx : Nat.dist mx sx ≤ r + 1)
    (hdy : Nat.dist my sy ≤ r + 1) (h : enqueue l st index mx my sx sy = some st') :
    FrameInv cv grid r seed st' := by
  simp only [enqueue, distanceLookup, hk.distances _ _ hdx hdy, hk.radius, Option.bind_eq_bind,
    Option.bind_eq_some] at h
  obtain ⟨isSeen, -, h⟩ := h
  cases isSeen
  · simp only [Bool.false_eq_true, if_false, Option.some_bind] at h
    split_ifs at h with hfar
    · cases h; exact ⟨hf.bins, hf.unseen, hf.seen⟩
    · cases h; exact ⟨pushBin_forall hf.bins ⟨hseed, not_lt.mp hfar⟩, hf.unseen, hf.seen⟩
  · simp only [if_true] at h
    cases h; exact hf

theorem ite_enqueue_frame {cond : Prop} [Decidable cond] {index mx my sx sy : Nat}
    (hk : KernelsReady l r) (hf : FrameInv cv grid r seed st) (hseed : seed sx sy)
    (hdx : Nat.dist mx sx ≤ r + 1) (hdy : Nat.dist my sy ≤ r + 1)
    (h : (if cond then enqueue l st index mx my sx sy else pure st) = some st') :
    FrameInv cv grid r seed st' := by
  split_ifs at h
  · exact enqueue_frame cv grid r seed hk hf hseed hdx hdy h
  · cases h; exact hf

/-- Marking an unseen queued cell seen and writing a raised cost over its grid cost keeps the
invariant. -/
theorem FrameInv.mark {c : CellData} {old new : UInt8} (hf : FrameInv cv grid r seed st)
    (hc : CellOk grid.sizeX grid.sizeY r c) (hsrc : SourceOk r seed c)
    (hseen : st.seen[c.index]? = some false) (hlt : c.index < st.master.length)
    (hold : st.master[c.index]? = some old) (hraised : Raised cv old new)
    (lookups : List KernelLookup) :
    FrameInv cv grid r seed ⟨st.seen.set c.index true, st.master.set c.index new, st.bins, lookups⟩ := by
  have hgrid : grid.charMap[c.index]? = some old := (hf.unseen c.index hseen).symm.trans hold
  refine ⟨hf.bins, fun i hi => ?_, fun x y hx hi => ?_⟩
  · have hne : c.index ≠ i := by
      rintro rfl
      rw [List.getElem?_set_self (List.getElem?_eq_some_iff.mp hseen).1] at hi
      cases hi
    rw [List.getElem?_set_ne hne] at hi ⊢
    exact hf.unseen i hi
  · by_cases hxy : c.index = grid.getIndex x y
    · obtain ⟨rfl, rfl⟩ := getIndex_inj hc.x_lt hx (hc.index.symm.trans hxy)
      rw [← hxy]
      exact ⟨old, new, hgrid, List.getElem?_set_self hlt, hraised, c.srcX, c.srcY, hsrc⟩
    · rw [List.getElem?_set_ne hxy] at hi ⊢
      exact hf.seen x y hx hi

/-- **One iteration keeps the invariant.** An unseen queued cell still holds its grid cost, so
`processCell` writes a raised cost over it, and queues neighbours at most `R + 1` from the same
seed. A seen cell changes nothing. -/
theorem processCell_frame {c : CellData} (hk : KernelsReady l r)
    (hcosts : ∀ i j v, kernelAt l.cachedCosts i j = some v → v ≤ cv.lethalObstacle)
    (hlethal : cv.lethalObstacle ≠ cv.noInformation) (hf : FrameInv cv grid r seed st)
    (hc : CellOk grid.sizeX grid.sizeY r c) (hsrc : SourceOk r seed c)
    (h : processCell cv l grid.sizeX grid.sizeY st c = some st') :
    FrameInv cv grid r seed st' := by
  simp only [processCell, Option.bind_eq_bind, Option.bind_eq_some] at h
  obtain ⟨isSeen, hseen, h⟩ := h
  cases isSeen
  · simp only [Bool.false_eq_true, if_false, Option.bind_eq_some] at h
    obtain ⟨seen, hset, cost, hcost, old, hold, master, hmaster, st₁, h₁, st₂, h₂, st₃, h₃, h₄⟩ := h
    obtain ⟨-, rfl⟩ := setChecked_eq_some hset
    obtain ⟨hlt, rfl⟩ := setChecked_eq_some hmaster
    have h₀ := hf.mark cv grid r seed hc hsrc hseen hlt hold
      (raised_newCost cv hlethal (hcosts _ _ _ hcost) (if l.inflateUnknown then
        cost > cv.freeSpace else cost ≥ cv.inscribedInflatedObstacle))
      (st.lookups ++ [.cost (Nat.dist c.x c.srcX) (Nat.dist c.y c.srcY)])
    have hd : ∀ a b, Nat.dist a b ≤ r → Nat.dist (a - 1) b ≤ r + 1 ∧ Nat.dist (a + 1) b ≤ r + 1 :=
      fun a b h => by simp only [Nat.dist] at h ⊢; omega
    have hx := hd _ _ hc.dx_le
    have hy := hd _ _ hc.dy_le
    have h₁' := ite_enqueue_frame cv grid r seed hk h₀ hsrc.1 hx.1 (Nat.le_succ_of_le hc.dy_le) h₁
    have h₂' := ite_enqueue_frame cv grid r seed hk h₁' hsrc.1 (Nat.le_succ_of_le hc.dx_le) hy.1 h₂
    have h₃' := ite_enqueue_frame cv grid r seed hk h₂' hsrc.1 hx.2 (Nat.le_succ_of_le hc.dy_le) h₃
    exact ite_enqueue_frame cv grid r seed hk h₃' hsrc.1 (Nat.le_succ_of_le hc.dx_le) hy.2 h₄
  · simp only [if_true] at h
    cases h; exact hf

/-- **The propagation loop keeps the invariant**, whatever its fuel and wherever it starts. -/
theorem propagate_frame (hk : KernelsReady l r)
    (hcosts : ∀ i j v, kernelAt l.cachedCosts i j = some v → v ≤ cv.lethalObstacle)
    (hlethal : cv.lethalObstacle ≠ cv.noInformation) :
    ∀ fuel st key i res, PropInv grid.sizeX grid.sizeY r st → FrameInv cv grid r seed st →
      propagate cv l grid.sizeX grid.sizeY fuel st key i = some res → FrameInv cv grid r seed res.1
  | 0, st, _, _, _, _, hf, h => by cases h; exact hf
  | fuel + 1, st, key, i, res, hst, hf, h => by
    unfold propagate at h
    dsimp only at h
    split_ifs at h with hi
    · obtain ⟨st₁, h₁, h⟩ := Option.bind_eq_some.mp h
      obtain ⟨b, hb, hc⟩ := mem_lookup_getD (List.getElem_mem hi)
      obtain ⟨st₁', h₁', hst₁⟩ := processCell_inv cv hk hst (hst.bins b hb _ hc)
      cases h₁.symm.trans h₁'
      exact propagate_frame hk hcosts hlethal fuel _ key (i + 1) res hst₁
        (processCell_frame cv grid r seed hk hcosts hlethal hf (hst.bins b hb _ hc)
          (hf.bins b hb _ hc) h₁) h
    · split at h
      · cases h; exact hf
      · exact propagate_frame hk hcosts hlethal fuel st _ 0 res hst hf h

/-- What `updateCosts` may do to `master_array`: it keeps one entry per cell, and every cell
either keeps its cost, or holds a raised cost and lies within `r` of a seed. -/
structure UpdateFrame (master : List UInt8) : Prop where
  length : master.length = grid.sizeX * grid.sizeY
  cells : ∀ x y, x < grid.sizeX → y < grid.sizeY →
    ∃ old new, grid.charMap[grid.getIndex x y]? = some old ∧
      master[grid.getIndex x y]? = some new ∧ Raised cv old new ∧
      (new ≠ old → NearSeed r seed x y)

theorem UpdateFrame.self : UpdateFrame cv grid r seed grid.charMap := by
  refine ⟨grid.charMap_length, fun x y hx hy => ?_⟩
  have hlt : grid.getIndex x y < grid.charMap.length := grid.charMap_length ▸ index_lt hx hy
  exact ⟨_, _, List.getElem?_eq_getElem hlt, List.getElem?_eq_getElem hlt, Raised.refl cv _,
    fun h => absurd rfl h⟩

theorem FrameInv.updateFrame (hf : FrameInv cv grid r seed st)
    (hst : PropInv grid.sizeX grid.sizeY r st) : UpdateFrame cv grid r seed st.master := by
  refine ⟨hst.master_length, fun x y hx hy => ?_⟩
  have hlt : grid.getIndex x y < st.seen.length := hst.seen_length ▸ index_lt hx hy
  have hseen := List.getElem?_eq_getElem hlt
  cases hb : st.seen[grid.getIndex x y]
  · have hmaster := hf.unseen _ (hb ▸ hseen)
    have hgrid := List.getElem?_eq_getElem
      (grid.charMap_length.trans hst.seen_length.symm ▸ hlt : grid.getIndex x y < grid.charMap.length)
    exact ⟨_, _, hgrid, hmaster.trans hgrid, Raised.refl cv _, fun h => absurd rfl h⟩
  · obtain ⟨old, new, hold, hnew, hraised, hnear⟩ := hf.seen x y hx (hb ▸ hseen)
    exact ⟨old, new, hold, hnew, hraised, fun _ => hnear⟩

end Frame

-- ════════════════════════════════════════════════════════════════════════
-- `updateCosts`
-- ════════════════════════════════════════════════════════════════════════

/-- What a fold that extends a list keeps: each element of the result was there at the start,
or was added for some element folded over. -/
theorem foldlM_mem {β γ : Type} {f : List β → γ → Option (List β)} {Q : γ → β → Prop}
    (hf : ∀ acc x acc', f acc x = some acc' → ∀ c ∈ acc', c ∈ acc ∨ Q x c) :
    ∀ (xs : List γ) (acc acc' : List β), xs.foldlM f acc = some acc' →
      ∀ c ∈ acc', c ∈ acc ∨ ∃ x ∈ xs, Q x c
  | [], acc, acc', h => by cases h; exact fun c hc => .inl hc
  | x :: xs, acc, acc', h => by
    obtain ⟨acc₁, h₁, h⟩ := Option.bind_eq_some.mp (by simpa only [List.foldlM_cons] using h)
    intro c hc
    rcases foldlM_mem hf xs acc₁ acc' h c hc with hc | ⟨y, hy, hq⟩
    · rcases hf acc x acc₁ h₁ c hc with hc | hq
      · exact .inl hc
      · exact .inr ⟨x, List.mem_cons_self _ _, hq⟩
    · exact .inr ⟨y, List.mem_cons_of_mem _ hy, hq⟩

/-- Every seed is a lethal cell of the window, queued as its own source. -/
theorem seedObstacles_mem (cv : CostValues) {grid : Costmap2D} {minI minJ maxI maxJ : Nat}
    {bin : List CellData} (h : seedObstacles cv grid minI minJ maxI maxJ = some bin) :
    ∀ c ∈ bin, ∃ i j, c = ⟨grid.getIndex i j, i, j, i, j⟩ ∧ minI ≤ i ∧ i < maxI ∧
      minJ ≤ j ∧ j < maxJ ∧ grid.charMap[grid.getIndex i j]? = some cv.lethalObstacle := by
  have hrow : ∀ (acc : List CellData) j (acc' : List CellData),
      (List.range' minI (maxI - minI)).foldlM (fun bin i => do
        let index := grid.getIndex i j
        let cost ← grid.charMap[index]?
        pure (if cost = cv.lethalObstacle then bin ++ [⟨index, i, j, i, j⟩] else bin)) acc =
        some acc' → ∀ c ∈ acc', c ∈ acc ∨ ∃ i, c = ⟨grid.getIndex i j, i, j, i, j⟩ ∧
          minI ≤ i ∧ i < maxI ∧ grid.charMap[grid.getIndex i j]? = some cv.lethalObstacle := by
    intro acc j acc' h' c hc
    refine (foldlM_mem (Q := fun i c => c = ⟨grid.getIndex i j, i, j, i, j⟩ ∧
      grid.charMap[grid.getIndex i j]? = some cv.lethalObstacle) (fun acc i acc' h c hc => ?_)
      _ acc acc' h' c hc).imp_right fun ⟨i, hi, hq⟩ => ?_
    · obtain ⟨cost, hcost, h⟩ := Option.bind_eq_some.mp h
      cases h
      split_ifs at hc with hl
      · rcases List.mem_append.mp hc with hc | hc
        · exact .inl hc
        · exact .inr ⟨List.mem_singleton.mp hc, hl ▸ hcost⟩
      · exact .inl hc
    · rw [List.mem_range'_1] at hi
      exact ⟨i, hq.1, hi.1, by omega, hq.2⟩
  intro c hc
  rcases foldlM_mem hrow _ [] bin h c hc with hc | ⟨j, hj, i, rfl, hi, hi', hl⟩
  · cases hc
  · rw [List.mem_range'_1] at hj
    exact ⟨i, j, rfl, hi, hi', hj.1, by omega, hl⟩

/-- The seeds of `updateCosts`: the lethal cells of the window `[minI, maxI) × [minJ, maxJ)`
enlarged by `r` and clamped to the grid. -/
def WindowSeed (cv : CostValues) (grid : Costmap2D) (r : Nat) (minI minJ maxI maxJ : Int)
    (sx sy : Nat) : Prop :=
  grid.charMap[grid.getIndex sx sy]? = some cv.lethalObstacle ∧
    minI - r ≤ sx ∧ (sx : Int) < maxI + r ∧ sx < grid.sizeX ∧
    minJ - r ≤ sy ∧ (sy : Int) < maxJ + r ∧ sy < grid.sizeY

/-- A coordinate between the seeding bounds of `updateCosts` lies in the window enlarged by `r`
and clamped to the grid. -/
theorem window_bounds {i size r : Nat} {lo hi : Int} (hlo : (max 0 (lo - r)).toNat ≤ i)
    (hhi : i < (min (size : Int) (hi + r)).toNat) : lo - r ≤ i ∧ (i : Int) < hi + r ∧ i < size := by
  omega

variable {α : Type} {computeCost : α → α → α → Nat → UInt8} (cv : CostValues)

/-- **`updateCosts` only raises costs, and only near the window's lethal cells**, on any grid,
window and fuel, from a layer whose kernels fit and whose cost kernel stays at or below
`LETHAL_OBSTACLE`. -/
theorem updateCosts_frame_of_fits {l : InflationLayer α} (h : CachesFit computeCost l)
    (hlethal : cv.lethalObstacle ≠ cv.noInformation)
    (hcost : ∀ res ins csf d, computeCost res ins csf d ≤ cv.lethalObstacle) (fuel : Nat)
    (grid : Costmap2D) (minI minJ maxI maxJ : Int) :
    ∃ res, l.updateCosts cv fuel grid minI minJ maxI maxJ = some res ∧
      UpdateFrame cv grid l.cellInflationRadius
        (WindowSeed cv grid l.cellInflationRadius minI minJ maxI maxJ) res.master := by
  unfold InflationLayer.updateCosts
  split_ifs with hguard
  · exact ⟨_, rfl, UpdateFrame.self cv grid _ _⟩
  simp only [Bool.or_eq_true, Bool.not_eq_true', decide_eq_true_eq, not_or] at hguard
  have hk := CachesFit.kernelsReady computeCost h hguard.2
  have hcosts : ∀ i j v, kernelAt l.cachedCosts i j = some v → v ≤ cv.lethalObstacle :=
    fun i j v hv => by
      rw [h.costs hguard.2] at hv
      rw [kernelAt_kernel_eq hv]
      exact hcost _ _ _ _
  obtain ⟨bin, hbin, hcells⟩ := seedObstacles_inv cv (r := l.cellInflationRadius) grid
    (max 0 (minI - l.cellInflationRadius)).toNat (max 0 (minJ - l.cellInflationRadius)).toNat
    (min (grid.sizeX : Int) (maxI + l.cellInflationRadius)).toNat
    (min (grid.sizeY : Int) (maxJ + l.cellInflationRadius)).toNat (by omega) (by omega)
  have hsrc : ∀ c ∈ bin, SourceOk l.cellInflationRadius
      (WindowSeed cv grid l.cellInflationRadius minI minJ maxI maxJ) c := fun c hc => by
    obtain ⟨i, j, rfl, hi, hi', hj, hj', hl⟩ := seedObstacles_mem cv hbin c hc
    obtain ⟨hi₁, hi₂, hi₃⟩ := window_bounds hi hi'
    obtain ⟨hj₁, hj₂, hj₃⟩ := window_bounds hj hj'
    exact ⟨⟨hl, hi₁, hi₂, hi₃, hj₁, hj₂, hj₃⟩, by simp⟩
  have hst : PropInv grid.sizeX grid.sizeY l.cellInflationRadius
      ⟨resetSeen l.seen (grid.sizeX * grid.sizeY), grid.charMap, [(0, bin)], []⟩ :=
    ⟨resetSeen_length _ _, grid.charMap_length,
      fun b hb => List.mem_singleton.mp hb ▸ hcells, by simp⟩
  have hf : FrameInv cv grid l.cellInflationRadius
      (WindowSeed cv grid l.cellInflationRadius minI minJ maxI maxJ)
      ⟨resetSeen l.seen (grid.sizeX * grid.sizeY), grid.charMap, [(0, bin)], []⟩ :=
    ⟨fun b hb => List.mem_singleton.mp hb ▸ hsrc, fun _ _ => rfl, fun x y _ hs => by
      simp [resetSeen_eq_replicate, List.getElem?_replicate] at hs⟩
  obtain ⟨res, hres, hinv⟩ := propagate_inv cv hk fuel _ 0 0 hst
  have hframe := propagate_frame cv grid _ _ hk hcosts hlethal fuel _ 0 0 res hst hf hres
  simp only [hbin, hres]
  exact ⟨_, rfl, hframe.updateFrame cv grid _ _ hinv⟩

/-- **`updateCosts` only raises costs, and only near lethal cells.** Over any sequence of
operations from the constructor, and then on every grid, window and fuel, `updateCosts` returns
a master array with one cost per cell. Every cell `(x, y)` of the grid is not lowered unless
its cost was `NO_INFORMATION`, and a lethal cell stays lethal (`Raised`). A cell keeps its cost
unless a lethal cell `(sx, sy)` of the window enlarged by `R` and clamped to the grid
(`WindowSeed`) lies within `R` of it, `dx * dx + dy * dy ≤ R * R` (`NearSeed`).
`cost_values.hpp` and the header's `computeCost` are parameters of the model: the result needs
`LETHAL_OBSTACLE ≠ NO_INFORMATION`, and `computeCost` never above `LETHAL_OBSTACLE`. -/
theorem updateCosts_frame [LinearOrderedField α] (computeCost : α → α → α → Nat → UInt8)
    (floatMax : α) (enabled current : Bool) (ops : List (LayerOp α))
    (hlethal : cv.lethalObstacle ≠ cv.noInformation)
    (hcost : ∀ res ins csf d, computeCost res ins csf d ≤ cv.lethalObstacle) :
    ∃ l, runLayer cv computeCost floatMax (InflationLayer.new floatMax enabled current) ops =
        some l ∧
      ∀ fuel grid minI minJ maxI maxJ, ∃ res,
        l.updateCosts cv fuel grid minI minJ maxI maxJ = some res ∧
        UpdateFrame cv grid l.cellInflationRadius
          (WindowSeed cv grid l.cellInflationRadius minI minJ maxI maxJ) res.master := by
  obtain ⟨l, hrun, hfit⟩ := runLayer_cachesFit computeCost cv floatMax ops _
    (CachesFit.new computeCost floatMax enabled current)
  exact ⟨l, hrun, updateCosts_frame_of_fits cv hfit hlethal hcost⟩

theorem updateCosts_frame_sample :
    ∃ l, runLayer ⟨255, 254, 253, 0⟩ computeCostSample 0 (InflationLayer.new 0 true true) sampleOps =
        some l ∧ l.enabled = true ∧ l.cellInflationRadius = 3 ∧
      ∀ fuel grid minI minJ maxI maxJ, ∃ res,
        l.updateCosts ⟨255, 254, 253, 0⟩ fuel grid minI minJ maxI maxJ = some res ∧
        UpdateFrame ⟨255, 254, 253, 0⟩ grid l.cellInflationRadius
          (WindowSeed ⟨255, 254, 253, 0⟩ grid l.cellInflationRadius minI minJ maxI maxJ)
          res.master := by
  obtain ⟨l, hrun, hframe⟩ := updateCosts_frame ⟨255, 254, 253, 0⟩ computeCostSample 0 true true
    sampleOps (by decide) computeCostSample_le
  exact ⟨l, hrun, (runLayer_sampleOps hrun).1, (runLayer_sampleOps hrun).2, hframe⟩

-- ════════════════════════════════════════════════════════════════════════
-- The distance a cell is reached at
-- ════════════════════════════════════════════════════════════════════════

/-- **A cell is not always reached from its nearest obstacle.** Resolution 0.05 m, inscribed
radius 0.145 m, inflation radius 0.15 m (`R = ⌈0.15 / 0.05⌉ = 3` cells), cost scaling factor 0,
and the whole of `threeObstacleGrid` as window. Cell (3, 0) lies at squared distance 8 from
(1, 2), within the inscribed radius, so its kernel cost is 253. Its neighbours (2, 0) and
(3, 1) are reached first from (0, 0) and (3, 3), and pass on those sources. Cell (3, 0) is
reached only from (0, 0), at squared distance 9, and ends at 252. -/
theorem updateCosts_misses_nearest_obstacle :
    (∀ d, computeCostNoScaling (1 / 20) (29 / 200) d = computeCostSample (1 / 20) (29 / 200) 0 d) ∧
    ⌈(3 / 20 : ℚ) / (1 / 20)⌉₊ = 3 ∧
    (runLayer ⟨255, 254, 253, 0⟩ computeCostSample 0 (InflationLayer.new 0 true true)
        [.onInitialize true (3 / 20) 0 false ⟨4, 4, 1 / 20, 29 / 200, fun _ => 3⟩,
          .onFootprintChanged ⟨4, 4, 1 / 20, 29 / 200, fun _ => 3⟩]
      >>= fun l => l.updateCosts ⟨255, 254, 253, 0⟩ 145 threeObstacleGrid 0 0 4 4).map
        (fun res => (res.finished, res.master)) =
      some (true, [254, 253, 253, 252, 253, 253, 253, 253, 253, 254, 253, 253, 253, 253, 253, 254]) ∧
    computeCostSample (1 / 20) (29 / 200) 0
      (Nat.dist 3 1 * Nat.dist 3 1 + Nat.dist 0 2 * Nat.dist 0 2) = 253 := by
  refine ⟨fun d => ?_, by norm_num, by decide, by decide⟩
  have hd : (d : ℚ) * (1 / 20) * (1 / 20) ≤ 29 / 200 * (29 / 200) ↔ d ≤ 8 := by
    constructor
    · intro h
      by_contra hgt
      have : (9 : ℚ) ≤ d := by exact_mod_cast Nat.not_le.mp hgt
      linarith
    · intro h
      have : (d : ℚ) ≤ 8 := by exact_mod_cast h
      linarith
  simp only [computeCostNoScaling, computeCostSample, hd]

end Nav2Costmap2d
