import Nav2.Costmap2d.InflationBins

/-!
# The cells next to an obstacle

A queued cell inherits its source, so a cell may be reached from an obstacle farther than its
nearest one (`updateCosts_misses_nearest_obstacle`). Next to an obstacle this cannot happen:
when the loop runs to completion, every cell of the grid 4-adjacent to a lethal cell of the
enlarged window is reached from a source at squared distance at most 1, and so ends at least at
`computeCost` at distance 1 when `computeCost` does not grow with the distance
(`updateCosts_adjacent`).

The loop first processes the bin of distance 0, the lethal cells, each its own source, and each
of them queues its unseen neighbours at squared distance 1. The bins stay sorted by distance,
each cell in the bin of its squared distance to its source (`BinsOrdered`), and a bin only ever
grows at its end (`BinsExtend`); so the loop moves from bin 0 to bin 1 and reaches every cell
queued there. `AdjacentInv` tracks one neighbour: it is seen from a source at squared distance
at most 1, or its obstacle is still ahead of the cursor in bin 0, or it is itself ahead of the
cursor in bin 1.
-/

namespace Nav2Costmap2d
open InflationLayer

-- ════════════════════════════════════════════════════════════════════════
-- One iteration
-- ════════════════════════════════════════════════════════════════════════

theorem ite_newCost_ge {noInformation old cost : UInt8} (cond : Prop) [Decidable cond] :
    cost ≤ if old = noInformation ∧ cond then cost else max old cost := by
  split_ifs
  · exact UInt8.le_refl _
  · exact cost_le_max_right old cost

/-- A write leaves at least the kernel cost. -/
theorem cost_le_inflatedCost (cv : CostValues) (u : Bool) (old cost : UInt8) :
    cost ≤ inflatedCost cv u old cost :=
  ite_newCost_ge _

theorem dist_eq_one {a b : Nat} (h : Nat.dist a b = 1) : a + 1 = b ∨ a = b + 1 := by
  unfold Nat.dist at h
  omega

/-- The four neighbours of a cell: left, below, right, above. -/
theorem adjacent_cases {a b c d : Nat} (h : Nat.dist a b + Nat.dist c d = 1) :
    (a + 1 = b ∧ c = d) ∨ (a = b ∧ c + 1 = d) ∨ (a = b + 1 ∧ c = d) ∨ (a = b ∧ c = d + 1) := by
  rcases (by omega : (Nat.dist a b = 0 ∧ Nat.dist c d = 1) ∨ (Nat.dist a b = 1 ∧ Nat.dist c d = 0))
    with ⟨h₁, h₂⟩ | ⟨h₁, h₂⟩
  · have hab := Nat.eq_of_dist_eq_zero h₁
    rcases dist_eq_one h₂ with hcd | hcd
    · exact .inr (.inl ⟨hab, hcd⟩)
    · exact .inr (.inr (.inr ⟨hab, hcd⟩))
  · have hcd := Nat.eq_of_dist_eq_zero h₂
    rcases dist_eq_one h₁ with hab | hab
    · exact .inl ⟨hab, hcd⟩
    · exact .inr (.inr (.inl ⟨hab, hcd⟩))

/-- Two 4-adjacent cells are at squared distance 1. -/
theorem sqDist_of_adjacent {a b c d : Nat} (h : Nat.dist a b + Nat.dist c d = 1) :
    Nat.dist a b * Nat.dist a b + Nat.dist c d * Nat.dist c d = 1 := by
  rcases (by omega : (Nat.dist a b = 0 ∧ Nat.dist c d = 1) ∨ (Nat.dist a b = 1 ∧ Nat.dist c d = 0))
    with ⟨h₁, h₂⟩ | ⟨h₁, h₂⟩ <;> rw [h₁, h₂]

variable {α : Type} {l : InflationLayer α} {r : Nat} {st st' : Propagation}

/-- `enqueue` queues an unseen cell within `R` of the source. -/
theorem enqueue_pushes {index mx my sx sy : Nat} (hk : KernelsReady l r)
    (hdx : Nat.dist mx sx ≤ r + 1) (hdy : Nat.dist my sy ≤ r + 1)
    (hseen : st.seen[index]? = some false)
    (hd : CellData.sqDist ⟨index, mx, my, sx, sy⟩ ≤ r * r)
    (h : enqueue l st index mx my sx sy = some st') :
    st'.bins = pushBin (CellData.sqDist ⟨index, mx, my, sx, sy⟩) ⟨index, mx, my, sx, sy⟩
      st.bins := by
  have hfar : ¬(Nat.dist mx sx * Nat.dist mx sx + Nat.dist my sy * Nat.dist my sy > r * r) :=
    not_lt.mpr hd
  simp only [enqueue, distanceLookup, hk.distances _ _ hdx hdy, hk.radius, hseen, hfar,
    Option.bind_eq_bind, Option.some_bind, Bool.false_eq_true, if_false] at h
  cases h
  rfl

theorem ite_enqueue_pushes {cond : Prop} [Decidable cond] (hcond : cond) {index mx my sx sy : Nat}
    (hk : KernelsReady l r) (hdx : Nat.dist mx sx ≤ r + 1) (hdy : Nat.dist my sy ≤ r + 1)
    (ho : BinsOrdered st.bins) (hseen : st.seen[index]? = some false)
    (hd : CellData.sqDist ⟨index, mx, my, sx, sy⟩ ≤ r * r)
    (h : (if cond then enqueue l st index mx my sx sy else pure st) = some st') :
    ∃ p : Nat, (binCells st'.bins (CellData.sqDist ⟨index, mx, my, sx, sy⟩))[p]? =
      some (CellData.mk index mx my sx sy) := by
  rw [if_pos hcond] at h
  rw [enqueue_pushes hk hdx hdy hseen hd h, binCells_pushBin ho.sorted, if_pos rfl]
  exact ⟨_, List.getElem?_concat_length _ _⟩

/-- **A cell queues each unseen neighbour of the grid within `R` of its source.** -/
theorem enqueueNeighbours_pushes {sizeX sizeY nx ny : Nat} {c : CellData} (hk : KernelsReady l r)
    (hc : CellOk sizeX sizeY r c) (ho : BinsOrdered st.bins)
    (hadj : Nat.dist nx c.x + Nat.dist ny c.y = 1) (hnx : nx < sizeX) (hny : ny < sizeY)
    (hseen : st.seen[ny * sizeX + nx]? = some false)
    (hd : CellData.sqDist ⟨ny * sizeX + nx, nx, ny, c.srcX, c.srcY⟩ ≤ r * r)
    (h : enqueueNeighbours l sizeX sizeY st c = some st') :
    ∃ p : Nat, (binCells st'.bins (CellData.sqDist ⟨ny * sizeX + nx, nx, ny, c.srcX, c.srcY⟩))[p]? =
      some (CellData.mk (ny * sizeX + nx) nx ny c.srcX c.srcY) := by
  simp only [enqueueNeighbours, Option.bind_eq_bind, Option.bind_eq_some] at h
  obtain ⟨st₁, h₁, st₂, h₂, st₃, h₃, h₄⟩ := h
  have a₁ := ite_enqueue_adds h₁
  have a₂ := a₁.trans (ite_enqueue_adds h₂)
  have a₃ := a₂.trans (ite_enqueue_adds h₃)
  have o₁ := ite_enqueue_ordered hk (dist_step_le hc.dx_le).1 (Nat.le_succ_of_le hc.dy_le) ho h₁
  have o₂ := ite_enqueue_ordered hk (Nat.le_succ_of_le hc.dx_le) (dist_step_le hc.dy_le).1 o₁.1 h₂
  have o₃ := ite_enqueue_ordered hk (dist_step_le hc.dx_le).2 (Nat.le_succ_of_le hc.dy_le) o₂.1 h₃
  have o₄ := ite_enqueue_ordered hk (Nat.le_succ_of_le hc.dx_le) (dist_step_le hc.dy_le).2 o₃.1 h₄
  have hidx := hc.index
  rcases adjacent_cases hadj with ⟨hx, rfl⟩ | ⟨rfl, hy⟩ | ⟨rfl, rfl⟩ | ⟨rfl, rfl⟩
  · have hi : c.index - 1 = c.y * sizeX + nx := by rw [hidx]; omega
    have hx' : c.x - 1 = nx := by omega
    obtain ⟨p, hp⟩ := ite_enqueue_pushes (by omega : c.x > 0) hk (dist_step_le hc.dx_le).1
      (Nat.le_succ_of_le hc.dy_le) ho (by rw [hi]; exact hseen) (by rw [hi, hx']; exact hd) h₁
    rw [hi, hx'] at hp
    exact ⟨p, o₄.2 _ _ _ (o₃.2 _ _ _ (o₂.2 _ _ _ hp))⟩
  · have hi : c.index - sizeX = ny * sizeX + c.x := by rw [hidx, ← hy, Nat.add_one_mul]; omega
    have hy' : c.y - 1 = ny := by omega
    obtain ⟨p, hp⟩ := ite_enqueue_pushes (by omega : c.y > 0) hk (Nat.le_succ_of_le hc.dx_le)
      (dist_step_le hc.dy_le).1 o₁.1 (by rw [a₁.seen, hi]; exact hseen)
      (by rw [hi, hy']; exact hd) h₂
    rw [hi, hy'] at hp
    exact ⟨p, o₄.2 _ _ _ (o₃.2 _ _ _ hp)⟩
  · have hi : c.index + 1 = c.y * sizeX + (c.x + 1) := by rw [hidx]; omega
    obtain ⟨p, hp⟩ := ite_enqueue_pushes (by omega : c.x < sizeX - 1) hk (dist_step_le hc.dx_le).2
      (Nat.le_succ_of_le hc.dy_le) o₂.1 (by rw [a₂.seen, hi]; exact hseen) (by rw [hi]; exact hd) h₃
    rw [hi] at hp
    exact ⟨p, o₄.2 _ _ _ hp⟩
  · have hi : c.index + sizeX = (c.y + 1) * sizeX + c.x := by rw [hidx, Nat.add_one_mul]; omega
    obtain ⟨p, hp⟩ := ite_enqueue_pushes (by omega : c.y < sizeY - 1) hk
      (Nat.le_succ_of_le hc.dx_le) (dist_step_le hc.dy_le).2 o₃.1
      (by rw [a₃.seen, hi]; exact hseen) (by rw [hi]; exact hd) h₄
    rw [hi] at hp
    exact ⟨p, hp⟩

/-- One iteration writes `seen_` only at its own cell. -/
theorem processCell_seen_ne (cv : CostValues) {sizeX sizeY j : Nat} {c : CellData}
    (h : processCell cv l sizeX sizeY st c = some st') (hj : j ≠ c.index) :
    st'.seen[j]? = st.seen[j]? := by
  rcases processCell_seen_master cv h with ⟨_, rfl⟩ | ⟨_, _, _, _, _, hs, _⟩
  · rfl
  · rw [hs, List.getElem?_set_ne (Ne.symm hj)]

/-- A queued cell at the index of `(x, y)` is at `(x, y)`. -/
theorem CellOk.coords {sizeX sizeY x y : Nat} {c : CellData} (hc : CellOk sizeX sizeY r c)
    (hx : x < sizeX) (hi : c.index = y * sizeX + x) : c.x = x ∧ c.y = y :=
  getIndex_inj hc.x_lt hx (by rw [← hc.index]; exact hi)

/-- A cell of bin 0 is its own source. -/
theorem CellData.src_eq_of_sqDist_zero {c : CellData} (h : c.sqDist = 0) :
    c.srcX = c.x ∧ c.srcY = c.y := by
  simp only [CellData.sqDist, Nat.add_eq_zero_iff, mul_self_eq_zero] at h
  exact ⟨(Nat.eq_of_dist_eq_zero h.1).symm, (Nat.eq_of_dist_eq_zero h.2).symm⟩

-- ════════════════════════════════════════════════════════════════════════
-- The invariant
-- ════════════════════════════════════════════════════════════════════════

/-- Cell `(nx, ny)` holds the cost `processCell` writes when it reaches the cell from a source
`(ox, oy)` at squared distance at most 1. -/
def ReachedNear (cv : CostValues) (l : InflationLayer α) (sizeX nx ny : Nat) (st : Propagation) :
    Prop :=
  ∃ ox oy old cost, Nat.dist nx ox * Nat.dist nx ox + Nat.dist ny oy * Nat.dist ny oy ≤ 1 ∧
    costLookup l nx ny ox oy = some cost ∧
    st.master[ny * sizeX + nx]? = some (inflatedCost cv l.inflateUnknown old cost)

/-- The invariant of the loop at position `i` of the bin of distance `key`, for a seed
`(sx, sy)` and its neighbour `(nx, ny)`: once seen, the neighbour holds a cost from a source at
squared distance at most 1; and it is seen, or the seed is unseen and still ahead of the cursor
in bin 0, or the neighbour is queued in bin 1, ahead of the cursor once the loop is there. -/
structure AdjacentInv (cv : CostValues) (l : InflationLayer α) (sizeX sx sy nx ny : Nat)
    (st : Propagation) (key i : Nat) : Prop where
  near : st.seen[ny * sizeX + nx]? = some true → ReachedNear cv l sizeX nx ny st
  progress : st.seen[ny * sizeX + nx]? = some true ∨
    (key = 0 ∧ st.seen[sy * sizeX + sx]? = some false ∧ ∃ p : Nat, i ≤ p ∧
      (binCells st.bins 0)[p]? = some (CellData.mk (sy * sizeX + sx) sx sy sx sy)) ∨
    (key ≤ 1 ∧ ∃ (p : Nat) (c : CellData), (key = 1 → i ≤ p) ∧ (binCells st.bins 1)[p]? = some c ∧
      c.index = ny * sizeX + nx)

/-- An iteration keeps the neighbour's cost near: it leaves a seen cell as it is, and marks the
neighbour only from a cell of bin 0 or 1. -/
theorem processCell_reachedNear (cv : CostValues) {sizeX sizeY nx ny : Nat} {c : CellData}
    (hc : CellOk sizeX sizeY r c) (hnx : nx < sizeX)
    (hnear : st.seen[ny * sizeX + nx]? = some true → ReachedNear cv l sizeX nx ny st)
    (hkey : st.seen[ny * sizeX + nx]? = some false → c.sqDist ≤ 1)
    (h : processCell cv l sizeX sizeY st c = some st') :
    st'.seen[ny * sizeX + nx]? = some true → ReachedNear cv l sizeX nx ny st' := by
  intro hn'
  rcases processCell_cases cv h with ⟨-, rfl⟩ | ⟨hs, cost, old, hcost, hold, hn⟩
  · exact hnear hn'
  have ha := enqueueNeighbours_adds hn
  by_cases hi : ny * sizeX + nx = c.index
  · obtain ⟨hx, hy⟩ := hc.coords hnx hi.symm
    have hsq := hkey (hi ▸ hs)
    refine ⟨c.srcX, c.srcY, old, cost, by rw [← hx, ← hy]; exact hsq,
      by rw [← hx, ← hy]; exact hcost, ?_⟩
    rw [ha.master, hi, List.getElem?_set_self (List.getElem?_eq_some_iff.mp hold).1]
  · have hne : c.index ≠ ny * sizeX + nx := Ne.symm hi
    rw [ha.seen, List.getElem?_set_ne hne] at hn'
    obtain ⟨ox, oy, old', cost', hd, hc', hm⟩ := hnear hn'
    exact ⟨ox, oy, old', cost', hd, hc', by rw [ha.master, List.getElem?_set_ne hne]; exact hm⟩

/-- Processing the unseen seed queues its unseen neighbour in bin 1. -/
theorem processCell_seed_pushes (cv : CostValues) {sizeX sizeY sx sy nx ny : Nat}
    (hk : KernelsReady l r) (hr : 1 ≤ r) (hsx : sx < sizeX) (hnx : nx < sizeX) (hny : ny < sizeY)
    (hadj : Nat.dist nx sx + Nat.dist ny sy = 1) (ho : BinsOrdered st.bins)
    (hc : CellOk sizeX sizeY r (CellData.mk (sy * sizeX + sx) sx sy sx sy))
    (hs : st.seen[sy * sizeX + sx]? = some false) (hseen : st.seen[ny * sizeX + nx]? = some false)
    (h : processCell cv l sizeX sizeY st (CellData.mk (sy * sizeX + sx) sx sy sx sy) = some st') :
    ∃ p : Nat, (binCells st'.bins 1)[p]? = some (CellData.mk (ny * sizeX + nx) nx ny sx sy) := by
  have hne : sy * sizeX + sx ≠ ny * sizeX + nx := fun he => by
    obtain ⟨rfl, rfl⟩ := getIndex_inj hsx hnx he
    simp at hadj
  rcases processCell_cases cv h with ⟨hs', -⟩ | ⟨-, cost, old, -, -, hn⟩
  · cases hs.symm.trans hs'
  dsimp only at hn
  obtain ⟨p, hp⟩ := enqueueNeighbours_pushes hk hc (by exact ho) hadj hnx hny
    (by rw [List.getElem?_set_ne hne]; exact hseen)
    (by
      show Nat.dist nx sx * Nat.dist nx sx + Nat.dist ny sy * Nat.dist ny sy ≤ r * r
      rw [sqDist_of_adjacent hadj]
      exact Nat.mul_le_mul hr hr) hn
  dsimp only at hp
  rw [show CellData.sqDist ⟨ny * sizeX + nx, nx, ny, sx, sy⟩ = 1 from sqDist_of_adjacent hadj] at hp
  exact ⟨p, hp⟩

/-- **One iteration keeps the invariant**, moving the cursor one cell on. -/
theorem processCell_adjacent (cv : CostValues) {sizeX sizeY sx sy nx ny key i : Nat}
    {c : CellData} (hk : KernelsReady l r) (hr : 1 ≤ r) (hsx : sx < sizeX) (hnx : nx < sizeX)
    (hny : ny < sizeY) (hadj : Nat.dist nx sx + Nat.dist ny sy = 1)
    (hp : PropInv sizeX sizeY r st) (ho : BinsOrdered st.bins)
    (ha : AdjacentInv cv l sizeX sx sy nx ny st key i) (hc : (binCells st.bins key)[i]? = some c)
    (h : processCell cv l sizeX sizeY st c = some st') :
    AdjacentInv cv l sizeX sx sy nx ny st' key (i + 1) := by
  have hcok := hp.cellOk hc
  have hkey : c.sqDist = key := ho.keys key c (List.getElem?_mem hc)
  have hext := (processCell_ordered cv hk hcok ho h).2
  refine ⟨processCell_reachedNear cv hcok hnx ha.near (fun hs => ?_) h, ?_⟩
  · rcases ha.progress with hA | ⟨rfl, -⟩ | ⟨hk1, -⟩
    · cases hs.symm.trans hA
    · omega
    · omega
  rcases ha.progress with hA | ⟨rfl, hs, p, hip, hp0⟩ | ⟨hk1, p, c', hip, hp1, hidx⟩
  · exact .inl (processCell_seen_stable cv h hA).1
  · by_cases hcs : c.index = sy * sizeX + sx
    · -- the cell is the seed: it queues the neighbour in bin 1
      obtain ⟨hx, hy⟩ := hcok.coords hsx hcs
      obtain ⟨hsx', hsy'⟩ := CellData.src_eq_of_sqDist_zero hkey
      have hceq : c = ⟨sy * sizeX + sx, sx, sy, sx, sy⟩ := by
        obtain ⟨index, x, y, srcX, srcY⟩ := c
        simp only [CellData.mk.injEq]
        exact ⟨hcs, hx, hy, hsx'.trans hx, hsy'.trans hy⟩
      subst hceq
      obtain ⟨b, hb⟩ : ∃ b, st.seen[ny * sizeX + nx]? = some b :=
        ⟨_, List.getElem?_eq_getElem (hp.seen_length ▸ index_lt hnx hny)⟩
      cases b
      · obtain ⟨p', hp'⟩ := processCell_seed_pushes cv hk hr hsx hnx hny hadj ho hcok hs hb h
        exact .inr (.inr ⟨Nat.zero_le _, p', _, fun h => absurd h Nat.zero_ne_one, hp', rfl⟩)
      · exact .inl (processCell_seen_stable cv h hb).1
    · -- another cell: the seed stays unseen and ahead
      have hpi : p ≠ i := by
        rintro rfl
        cases hc.symm.trans hp0
        exact hcs rfl
      refine .inr (.inl ⟨rfl, ?_, p, by omega, hext 0 p _ hp0⟩)
      rw [processCell_seen_ne cv h (Ne.symm hcs)]
      exact hs
  · by_cases hpi : key = 1 ∧ p = i
    · -- the cell is the queued neighbour: it is marked now
      obtain ⟨rfl, rfl⟩ := hpi
      cases hp1.symm.trans hc
      exact .inl (hidx ▸ processCell_marks cv h)
    · refine .inr (.inr ⟨hk1, p, c', fun h1 => ?_, hext 1 p c' hp1, hidx⟩)
      have := hip h1
      have : p ≠ i := fun hpi' => hpi ⟨h1, hpi'⟩
      omega

/-- A bin holding an entry is in the bins. -/
theorem lookup_of_binCells {bins : List (Nat × List CellData)} {key p : Nat} {c : CellData}
    (h : (binCells bins key)[p]? = some c) : ∃ cs, bins.lookup key = some cs := by
  cases hl : bins.lookup key with
  | none => simp [binCells, hl] at h
  | some cs => exact ⟨cs, rfl⟩

/-- Past the end of a bin, the loop moves to the next one, and from bin 0 that is bin 1 while
the neighbour waits there. -/
theorem AdjacentInv.next {cv : CostValues} {sizeX sx sy nx ny key i key' : Nat}
    (ho : BinsOrdered st.bins) (ha : AdjacentInv cv l sizeX sx sy nx ny st key i)
    (hlen : (binCells st.bins key).length ≤ i) (h : nextKey st.bins key = some key') :
    AdjacentInv cv l sizeX sx sy nx ny st key' 0 := by
  refine ⟨ha.near, ?_⟩
  rcases ha.progress with hA | ⟨rfl, -, p, hip, hp0⟩ | ⟨hk1, p, c, hip, hp1, hidx⟩
  · exact .inl hA
  · have := (List.getElem?_eq_some_iff.mp hp0).1
    omega
  · rcases (by omega : key = 0 ∨ key = 1) with rfl | rfl
    · obtain ⟨cs, hcs⟩ := lookup_of_binCells hp1
      cases h.symm.trans (nextKey_zero ho.sorted hcs)
      exact .inr (.inr ⟨le_refl 1, p, c, fun _ => Nat.zero_le p, hp1, hidx⟩)
    · have := (List.getElem?_eq_some_iff.mp hp1).1
      have := hip rfl
      omega

/-- **When the bins are exhausted, the neighbour is seen.** -/
theorem AdjacentInv.seen_of_done {cv : CostValues} {sizeX sx sy nx ny key i : Nat}
    (ho : BinsOrdered st.bins) (ha : AdjacentInv cv l sizeX sx sy nx ny st key i)
    (hlen : (binCells st.bins key).length ≤ i) (h : nextKey st.bins key = none) :
    st.seen[ny * sizeX + nx]? = some true := by
  rcases ha.progress with hA | ⟨rfl, -, p, hip, hp0⟩ | ⟨hk1, p, c, hip, hp1, -⟩
  · exact hA
  · have := (List.getElem?_eq_some_iff.mp hp0).1
    omega
  · rcases (by omega : key = 0 ∨ key = 1) with rfl | rfl
    · obtain ⟨cs, hcs⟩ := lookup_of_binCells hp1
      cases h.symm.trans (nextKey_zero ho.sorted hcs)
    · have := (List.getElem?_eq_some_iff.mp hp1).1
      have := hip rfl
      omega

-- ════════════════════════════════════════════════════════════════════════
-- The seeds
-- ════════════════════════════════════════════════════════════════════════

/-- A fold whose steps keep what they have keeps its start. -/
theorem foldlM_subset {β γ : Type} {f : List β → γ → Option (List β)}
    (hext : ∀ acc x acc', f acc x = some acc' → acc ⊆ acc') :
    ∀ (xs : List γ) (acc acc' : List β), xs.foldlM f acc = some acc' → acc ⊆ acc'
  | [], acc, acc', h => by cases h; exact List.Subset.refl _
  | x :: xs, acc, acc', h => by
    obtain ⟨acc₁, h₁, h⟩ := Option.bind_eq_some.mp (by simpa only [List.foldlM_cons] using h)
    exact (hext _ _ _ h₁).trans (foldlM_subset hext xs acc₁ acc' h)

/-- Such a fold holds what the step at any element it folds over adds. -/
theorem foldlM_mem_of_step {β γ : Type} {f : List β → γ → Option (List β)} {x₀ : γ} {c : β}
    (hext : ∀ acc x acc', f acc x = some acc' → acc ⊆ acc')
    (hadd : ∀ acc acc', f acc x₀ = some acc' → c ∈ acc') :
    ∀ (xs : List γ) (acc acc' : List β), x₀ ∈ xs → xs.foldlM f acc = some acc' → c ∈ acc'
  | [], _, _, hx, _ => absurd hx (List.not_mem_nil _)
  | x :: xs, acc, acc', hx, h => by
    obtain ⟨acc₁, h₁, h₂⟩ := Option.bind_eq_some.mp (by simpa only [List.foldlM_cons] using h)
    rcases List.mem_cons.mp hx with rfl | hx
    · exact foldlM_subset hext xs acc₁ acc' h₂ (hadd _ _ h₁)
    · exact foldlM_mem_of_step hext hadd xs acc₁ acc' hx h₂

/-- **Every lethal cell of the window is seeded**, as its own source. -/
theorem mem_seedObstacles (cv : CostValues) {grid : Costmap2D} {minI minJ maxI maxJ sx sy : Nat}
    {bin : List CellData} (h : seedObstacles cv grid minI minJ maxI maxJ = some bin)
    (hl : grid.charMap[grid.getIndex sx sy]? = some cv.lethalObstacle)
    (hi : minI ≤ sx) (hi' : sx < maxI) (hj : minJ ≤ sy) (hj' : sy < maxJ) :
    CellData.mk (grid.getIndex sx sy) sx sy sx sy ∈ bin := by
  have hext : ∀ (j : Nat) (acc : List CellData) (i : Nat) acc', (do
      let cost ← grid.charMap[grid.getIndex i j]?
      pure (if cost = cv.lethalObstacle then acc ++ [⟨grid.getIndex i j, i, j, i, j⟩] else acc) :
        Option _) = some acc' → acc ⊆ acc' := by
    intro j acc i acc' h
    obtain ⟨cost, -, h⟩ := Option.bind_eq_some.mp h
    cases h
    split_ifs
    · exact List.subset_append_left _ _
    · exact List.Subset.refl _
  unfold seedObstacles at h
  refine foldlM_mem_of_step (fun acc j acc' h' => foldlM_subset (hext j) _ acc acc' h')
    (fun acc acc' h' => foldlM_mem_of_step (hext sy) (fun acc acc' h'' => ?_) _ acc acc'
      (List.mem_range'_1.mpr ⟨hi, by omega⟩) h') _ [] bin (List.mem_range'_1.mpr ⟨hj, by omega⟩) h
  obtain ⟨cost, hcost, h''⟩ := Option.bind_eq_some.mp h''
  cases h''
  rw [if_pos (Option.some.inj (hcost.symm.trans hl))]
  exact List.mem_append_right _ (List.mem_singleton_self _)

-- ════════════════════════════════════════════════════════════════════════
-- `updateCosts`
-- ════════════════════════════════════════════════════════════════════════

variable {computeCost : α → α → α → Nat → UInt8}

/-- **A finished `updateCosts` inflates every neighbour of a lethal cell of the window**, from a
layer whose kernels fit. -/
theorem updateCosts_adjacent_of_fits (cv : CostValues) {l : InflationLayer α}
    (hfit : CachesFit computeCost l)
    (hanti : ∀ res ins csf d d', d ≤ d' → computeCost res ins csf d' ≤ computeCost res ins csf d)
    {fuel : Nat} {grid : Costmap2D} {minI minJ maxI maxJ : Int} {res : UpdateCostsResult α}
    (h : l.updateCosts cv fuel grid minI minJ maxI maxJ = some res) (hfin : res.finished = true)
    (hen : l.enabled = true) (hr : l.cellInflationRadius ≠ 0) {sx sy nx ny : Nat}
    (hs : WindowSeed cv grid l.cellInflationRadius minI minJ maxI maxJ sx sy)
    (hnx : nx < grid.sizeX) (hny : ny < grid.sizeY) (hadj : Nat.dist nx sx + Nat.dist ny sy = 1) :
    ∃ new, res.master[grid.getIndex nx ny]? = some new ∧
      computeCost l.resolution l.inscribedRadius l.costScalingFactor 1 ≤ new := by
  rcases updateCosts_cases cv h with ⟨hoff, -⟩ | ⟨-, -, bin, st, finished, hbin, hprop, rfl⟩
  · rw [hen] at hoff
    exact absurd (hoff.resolve_left Bool.noConfusion) hr
  have hk := CachesFit.kernelsReady computeCost hfit hr
  obtain ⟨hp0, ho0⟩ := seedObstacles_start cv hbin
  obtain ⟨hl, hi₁, hi₂, hsx, hj₁, hj₂, hsy⟩ := hs
  obtain ⟨p, hp⟩ := List.mem_iff_getElem?.mp
    (mem_seedObstacles cv hbin hl (by omega) (by omega) (by omega) (by omega))
  obtain ⟨key, i, ⟨-, hoi, hai⟩, hend⟩ := propagate_induction_at cv
    (P := fun st key i => PropInv grid.sizeX grid.sizeY l.cellInflationRadius st ∧
      BinsOrdered st.bins ∧ AdjacentInv cv l grid.sizeX sx sy nx ny st key i)
    (fun _ _ _ _ _ ⟨hp, ho, ha⟩ hc h' => ⟨processCell_propInv cv hk hp hc h',
      (processCell_ordered cv hk (hp.cellOk hc) ho h').1,
      processCell_adjacent cv hk (Nat.one_le_iff_ne_zero.mpr hr) hsx hnx hny hadj hp ho ha hc h'⟩)
    (fun _ _ _ _ ⟨hp, ho, ha⟩ hlen hn => ⟨hp, ho, ha.next ho hlen hn⟩)
    fuel _ 0 0 _
    ⟨hp0, ho0, fun hn => by simp [List.getElem?_replicate] at hn,
      .inr (.inl ⟨rfl, by simp [List.getElem?_replicate, index_lt hsx hsy], p, Nat.zero_le _,
        by simpa [binCells] using hp⟩)⟩ hprop
  obtain ⟨hlen, hnone⟩ := hend hfin
  obtain ⟨ox, oy, old, cost, hd, hcost, hm⟩ := hai.near (hai.seen_of_done hoi hlen hnone)
  refine ⟨_, hm, ?_⟩
  rw [hfit.costLookup_eq computeCost hr hcost]
  exact UInt8.le_trans (hanti _ _ _ _ _ hd) (cost_le_inflatedCost cv _ _ _)

/-- **Every cell next to a lethal cell is inflated.** Over any sequence of operations from the
constructor, and then on every grid and window with fuel above nine iterations per cell: when
the layer is enabled with a nonzero radius and `computeCost` does not grow with the distance,
every cell of the grid 4-adjacent to a lethal cell of the window enlarged by `R` and clamped to
the grid ends at least at `computeCost` at squared distance 1. -/
theorem updateCosts_adjacent [LinearOrderedField α] (cv : CostValues) (floatMax : α)
    (enabled current : Bool) (ops : List (LayerOp α))
    (hanti : ∀ res ins csf d d', d ≤ d' → computeCost res ins csf d' ≤ computeCost res ins csf d) :
    ∃ l, runLayer cv computeCost floatMax (InflationLayer.new floatMax enabled current) ops =
        some l ∧
      ∀ fuel grid minI minJ maxI maxJ, 9 * (grid.sizeX * grid.sizeY) < fuel → ∃ res,
        l.updateCosts cv fuel grid minI minJ maxI maxJ = some res ∧
        (l.enabled = true → l.cellInflationRadius ≠ 0 →
          ∀ sx sy nx ny, WindowSeed cv grid l.cellInflationRadius minI minJ maxI maxJ sx sy →
            nx < grid.sizeX → ny < grid.sizeY → Nat.dist nx sx + Nat.dist ny sy = 1 →
            ∃ new, res.master[grid.getIndex nx ny]? = some new ∧
              computeCost l.resolution l.inscribedRadius l.costScalingFactor 1 ≤ new) := by
  obtain ⟨l, hrun, hfit⟩ := runLayer_cachesFit computeCost cv floatMax ops _
    (CachesFit.new computeCost floatMax enabled current)
  refine ⟨l, hrun, fun fuel grid minI minJ maxI maxJ hfuel => ?_⟩
  obtain ⟨res, hres, hfin⟩ := updateCosts_finishes cv hfit grid minI minJ maxI maxJ hfuel
  exact ⟨res, hres, fun hen hr _ _ _ _ hs hnx hny hadj =>
    updateCosts_adjacent_of_fits cv hfit hanti hres hfin hen hr hs hnx hny hadj⟩

theorem updateCosts_adjacent_sample :
    ∃ l, runLayer ⟨255, 254, 253, 0⟩ computeCostSample 0 (InflationLayer.new 0 true true) sampleOps =
        some l ∧ l.enabled = true ∧ l.cellInflationRadius = 3 ∧
      ∀ fuel grid minI minJ maxI maxJ, 9 * (grid.sizeX * grid.sizeY) < fuel → ∃ res,
        l.updateCosts ⟨255, 254, 253, 0⟩ fuel grid minI minJ maxI maxJ = some res ∧
        (l.enabled = true → l.cellInflationRadius ≠ 0 →
          ∀ sx sy nx ny,
            WindowSeed ⟨255, 254, 253, 0⟩ grid l.cellInflationRadius minI minJ maxI maxJ sx sy →
            nx < grid.sizeX → ny < grid.sizeY → Nat.dist nx sx + Nat.dist ny sy = 1 →
            ∃ new, res.master[grid.getIndex nx ny]? = some new ∧
              computeCostSample l.resolution l.inscribedRadius l.costScalingFactor 1 ≤ new) := by
  obtain ⟨l, hrun, hadj⟩ := @updateCosts_adjacent ℚ computeCostSample _ ⟨255, 254, 253, 0⟩ 0 true
    true sampleOps fun r i c _ _ h => computeCostSample_anti r i c h
  exact ⟨l, hrun, (runLayer_sampleOps hrun).1, (runLayer_sampleOps hrun).2, hadj⟩

end Nav2Costmap2d
