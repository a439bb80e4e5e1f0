import Nav2.Costmap2d.InflationFrame

/-!
# The propagation loop of `updateCosts`: inflating again, and the work of one call

The layered costmap calls `updateCosts` on the master grid every cycle. When the master grid
already holds what the layer wrote in the previous cycle, the second call changes nothing: it
returns the same master array, logs the same kernel lookups and leaves the layer as it was
(`updateCosts_rerun`).

The wavefront of `updateCosts` reads the master grid only through its lethal cells, the seeds.
The costs the first call writes are lethal exactly where the grid was (`SameLethal`), as long
as the cost kernel reaches `LETHAL_OBSTACLE` only at its centre, so the second call seeds the
same cells. Both propagations then take the same steps (`processCell_rerun`): the second one
reads the costs the first one wrote, and writing the same kernel cost over a cost already
written is writing nothing (`inflatedCost_idem`).

Each cell is marked seen with its one cost lookup, and then queues at most its four neighbours,
so a call makes at most one cost lookup per cell and four distance lookups per cost lookup,
whatever its fuel (`updateCosts_lookups_le`).

The loop's invariants here follow from one run lemma, `propagate_induction`, and from the
inversion lemmas `enqueue_cases` and `processCell_cases`, which say everything one step can do.
-/

namespace Nav2Costmap2d
open InflationLayer

-- ════════════════════════════════════════════════════════════════════════
-- The cost one write leaves
-- ════════════════════════════════════════════════════════════════════════

/-- The cost `processCell` writes at a cell holding `oldCost`, for the kernel cost `cost`: the
kernel cost over `NO_INFORMATION` when it passes the layer's test for unknown cells, the larger
of the two otherwise. -/
def inflatedCost (cv : CostValues) (inflateUnknown : Bool) (oldCost cost : UInt8) : UInt8 :=
  if oldCost = cv.noInformation ∧
      (if inflateUnknown then cost > cv.freeSpace else cost ≥ cv.inscribedInflatedObstacle)
  then cost else max oldCost cost

theorem cost_le_max_right (a b : UInt8) : b ≤ max a b := by
  show b ≤ if a ≤ b then b else a
  split_ifs with h
  · exact UInt8.le_refl b
  · rw [UInt8.le_def, BitVec.le_def] at h ⊢
    omega

variable (cv : CostValues)

theorem cost_max_cases (a b : UInt8) : max a b = b ∨ max a b = a := by
  show (if a ≤ b then b else a) = b ∨ (if a ≤ b then b else a) = a
  split_ifs
  · exact .inl rfl
  · exact .inr rfl

/-- **Writing the same kernel cost twice is writing it once**, whatever the old cost and the
test for unknown cells. -/
theorem ite_newCost_idem {noInformation old cost : UInt8} (cond : Prop) [Decidable cond] :
    (if (if old = noInformation ∧ cond then cost else max old cost) = noInformation ∧ cond
      then cost else max (if old = noInformation ∧ cond then cost else max old cost) cost) =
    if old = noInformation ∧ cond then cost else max old cost := by
  by_cases hfirst : old = noInformation ∧ cond
  · rw [if_pos hfirst]
    split_ifs
    · rfl
    · exact cost_max_eq_left (UInt8.le_refl cost)
  · rw [if_neg hfirst]
    split_ifs with hsecond
    · rcases cost_max_cases old cost with hmax | hmax
      · exact hmax.symm
      · exact absurd ⟨hmax ▸ hsecond.1, hsecond.2⟩ hfirst
    · exact cost_max_eq_left (cost_le_max_right old cost)

theorem inflatedCost_idem (u : Bool) (old cost : UInt8) :
    inflatedCost cv u (inflatedCost cv u old cost) cost = inflatedCost cv u old cost :=
  ite_newCost_idem _

/-- A write leaves a lethal cell lethal, when the kernel cost is at most `LETHAL_OBSTACLE`. -/
theorem inflatedCost_lethal (hlethal : cv.lethalObstacle ≠ cv.noInformation) (u : Bool)
    {cost : UInt8} (hcost : cost ≤ cv.lethalObstacle) :
    inflatedCost cv u cv.lethalObstacle cost = cv.lethalObstacle :=
  (raised_newCost cv hlethal hcost _).lethal rfl

/-- A write makes a cell lethal only with a lethal kernel cost, or over a lethal cell. -/
theorem eq_lethal_of_newCost {noInformation lethal old cost : UInt8} {cond : Prop} [Decidable cond]
    (h : (if old = noInformation ∧ cond then cost else max old cost) = lethal)
    (hne : cost ≠ lethal) : old = lethal := by
  split_ifs at h
  · exact absurd h hne
  · rcases cost_max_cases old cost with hmax | hmax
    · exact absurd (hmax ▸ h) hne
    · exact hmax ▸ h

theorem set_eq_self_of_getElem? {β : Type} {l : List β} {i : Nat} {v : β} (h : l[i]? = some v) :
    l.set i v = l := by
  refine List.ext_getElem? fun j => ?_
  by_cases hij : i = j
  · subst hij
    rw [List.getElem?_set_self (List.getElem?_eq_some_iff.mp h).1, h]
  · exact List.getElem?_set_ne hij

-- ════════════════════════════════════════════════════════════════════════
-- One iteration
-- ════════════════════════════════════════════════════════════════════════

variable {α : Type} (l : InflationLayer α) (sizeX sizeY : Nat)

/-- The four guarded `enqueue`s that end `processCell`: the neighbours to the left, below, to
the right and above, each with the cell's source. -/
def enqueueNeighbours (st : Propagation) (cell : CellData) : Option Propagation := do
  let st ← (if cell.x > 0 then
    enqueue l st (cell.index - 1) (cell.x - 1) cell.y cell.srcX cell.srcY else pure st)
  let st ← (if cell.y > 0 then
    enqueue l st (cell.index - sizeX) cell.x (cell.y - 1) cell.srcX cell.srcY else pure st)
  let st ← (if cell.x < sizeX - 1 then
    enqueue l st (cell.index + 1) (cell.x + 1) cell.y cell.srcX cell.srcY else pure st)
  if cell.y < sizeY - 1 then
    enqueue l st (cell.index + sizeX) cell.x (cell.y + 1) cell.srcX cell.srcY else pure st

/-- `processCell` as its three parts: the test of `seen_`, the write, and the neighbours. -/
theorem processCell_eq (st : Propagation) (cell : CellData) :
    processCell cv l sizeX sizeY st cell = (do
      let isSeen ← st.seen[cell.index]?
      if isSeen then pure st else
      let seen ← setChecked st.seen cell.index true
      let cost ← costLookup l cell.x cell.y cell.srcX cell.srcY
      let oldCost ← st.master[cell.index]?
      let master ← setChecked st.master cell.index (inflatedCost cv l.inflateUnknown oldCost cost)
      enqueueNeighbours l sizeX sizeY ⟨seen, master, st.bins,
        st.lookups ++ [.cost (Nat.dist cell.x cell.srcX) (Nat.dist cell.y cell.srcY)]⟩ cell) :=
  rfl

variable {l sizeX sizeY} {st st' : Propagation}

/-- **What `enqueue` can do**: nothing on a seen cell; otherwise log its distance lookup, and
queue the cell when it lies within the radius. -/
theorem enqueue_cases {index mx my sx sy : Nat} (h : enqueue l st index mx my sx sy = some st') :
    st' = st ∨ ∃ bins, st' = ⟨st.seen, st.master, bins,
      st.lookups ++ [.distance (Nat.dist mx sx) (Nat.dist my sy)]⟩ := by
  simp only [enqueue, Option.bind_eq_bind, Option.bind_eq_some] at h
  obtain ⟨isSeen, -, h⟩ := h
  cases isSeen
  · simp only [Bool.false_eq_true, if_false, Option.bind_eq_some] at h
    obtain ⟨distance, -, h⟩ := h
    split_ifs at h <;> cases h <;> exact .inr ⟨_, rfl⟩
  · simp only [if_true] at h
    cases h; exact .inl rfl

/-- A lookup in the cost kernel. -/
def KernelLookup.isCost : KernelLookup → Bool
  | .cost _ _ => true
  | .distance _ _ => false

@[simp] theorem KernelLookup.isCost_cost (dx dy : Nat) : (KernelLookup.cost dx dy).isCost = true :=
  rfl

/-- `st'` has the `seen_` and the `master_array` of `st`, and at most `k` more lookups, all in
the distance kernel. -/
structure AddsDistanceLookups (k : Nat) (st st' : Propagation) : Prop where
  seen : st'.seen = st.seen
  master : st'.master = st.master
  lookups : ∃ ds : List KernelLookup, st'.lookups = st.lookups ++ ds ∧ ds.length ≤ k ∧
    ds.countP KernelLookup.isCost = 0

theorem AddsDistanceLookups.refl (k : Nat) (st : Propagation) : AddsDistanceLookups k st st :=
  ⟨rfl, rfl, [], (List.append_nil _).symm, Nat.zero_le _, rfl⟩

theorem AddsDistanceLookups.trans {j k : Nat} {st₁ st₂ st₃ : Propagation}
    (h₁ : AddsDistanceLookups j st₁ st₂) (h₂ : AddsDistanceLookups k st₂ st₃) :
    AddsDistanceLookups (j + k) st₁ st₃ := by
  obtain ⟨ds₁, e₁, l₁, c₁⟩ := h₁.lookups
  obtain ⟨ds₂, e₂, l₂, c₂⟩ := h₂.lookups
  refine ⟨h₂.seen.trans h₁.seen, h₂.master.trans h₁.master, ds₁ ++ ds₂, ?_, ?_, ?_⟩
  · rw [e₂, e₁, List.append_assoc]
  · rw [List.length_append]; omega
  · rw [List.countP_append, c₁, c₂]

/-- `enqueue` writes neither `seen_` nor `master_array`, and logs at most one distance
lookup. -/
theorem enqueue_adds {index mx my sx sy : Nat} (h : enqueue l st index mx my sx sy = some st') :
    AddsDistanceLookups 1 st st' := by
  rcases enqueue_cases h with rfl | ⟨bins, rfl⟩
  · exact .refl 1 _
  · exact ⟨rfl, rfl, _, rfl, le_refl _, rfl⟩

theorem ite_enqueue_adds {cond : Prop} [Decidable cond] {index mx my sx sy : Nat}
    (h : (if cond then enqueue l st index mx my sx sy else pure st) = some st') :
    AddsDistanceLookups 1 st st' := by
  split_ifs at h
  · exact enqueue_adds h
  · cases h; exact .refl 1 st

/-- `enqueue` does not read `master_array`: on another master array it takes the same step. -/
theorem enqueue_with_master {index mx my sx sy : Nat}
    (h : enqueue l st index mx my sx sy = some st') (m : List UInt8) :
    enqueue l { st with master := m } index mx my sx sy = some { st' with master := m } := by
  simp only [enqueue, Option.bind_eq_bind, Option.bind_eq_some] at h
  obtain ⟨isSeen, hseen, h⟩ := h
  cases isSeen
  · simp only [Bool.false_eq_true, if_false, Option.bind_eq_some] at h
    obtain ⟨distance, hd, h⟩ := h
    simp only [enqueue, hseen, hd, Option.bind_eq_bind, Option.some_bind, Bool.false_eq_true,
      if_false]
    split_ifs at h ⊢ <;> cases h <;> rfl
  · simp only [if_true] at h
    cases h
    simp only [enqueue, hseen, Option.bind_eq_bind, Option.some_bind, if_true]
    rfl

theorem ite_enqueue_with_master {cond : Prop} [Decidable cond] {index mx my sx sy : Nat}
    (h : (if cond then enqueue l st index mx my sx sy else pure st) = some st') (m : List UInt8) :
    (if cond then enqueue l { st with master := m } index mx my sx sy
      else pure { st with master := m }) = some { st' with master := m } := by
  split_ifs at h ⊢
  · exact enqueue_with_master h m
  · cases h; rfl

/-- The neighbours of a cell: `seen_` and `master_array` untouched, at most four distance
lookups. -/
theorem enqueueNeighbours_adds {c : CellData}
    (h : enqueueNeighbours l sizeX sizeY st c = some st') : AddsDistanceLookups 4 st st' := by
  simp only [enqueueNeighbours, Option.bind_eq_bind, Option.bind_eq_some] at h
  obtain ⟨st₁, h₁, st₂, h₂, st₃, h₃, h₄⟩ := h
  exact (((ite_enqueue_adds h₁).trans (ite_enqueue_adds h₂)).trans (ite_enqueue_adds h₃)).trans
    (ite_enqueue_adds h₄)

theorem enqueueNeighbours_with_master {c : CellData}
    (h : enqueueNeighbours l sizeX sizeY st c = some st') (m : List UInt8) :
    enqueueNeighbours l sizeX sizeY { st with master := m } c = some { st' with master := m } := by
  simp only [enqueueNeighbours, Option.bind_eq_bind, Option.bind_eq_some] at h
  obtain ⟨st₁, h₁, st₂, h₂, st₃, h₃, h₄⟩ := h
  simp only [enqueueNeighbours, ite_enqueue_with_master h₁ m, ite_enqueue_with_master h₂ m,
    ite_enqueue_with_master h₃ m, ite_enqueue_with_master h₄ m, Option.bind_eq_bind,
    Option.some_bind]

/-- **What one iteration can do.** A seen cell changes nothing. An unseen cell is marked seen,
its cost becomes `inflatedCost` of its old cost and the kernel cost at its offset from its
source, the lookup is logged, and its neighbours are enqueued. -/
theorem processCell_cases {c : CellData} (h : processCell cv l sizeX sizeY st c = some st') :
    (st.seen[c.index]? = some true ∧ st' = st) ∨
    (st.seen[c.index]? = some false ∧ ∃ cost old,
      costLookup l c.x c.y c.srcX c.srcY = some cost ∧ st.master[c.index]? = some old ∧
      enqueueNeighbours l sizeX sizeY ⟨st.seen.set c.index true,
        st.master.set c.index (inflatedCost cv l.inflateUnknown old cost), st.bins,
        st.lookups ++ [.cost (Nat.dist c.x c.srcX) (Nat.dist c.y c.srcY)]⟩ c = some st') := by
  rw [processCell_eq] at h
  simp only [Option.bind_eq_bind, Option.bind_eq_some] at h
  obtain ⟨isSeen, hseen, h⟩ := h
  cases isSeen
  · simp only [Bool.false_eq_true, if_false, Option.bind_eq_some] at h
    obtain ⟨seen, hset, cost, hcost, old, hold, master, hmaster, h⟩ := h
    obtain ⟨-, rfl⟩ := setChecked_eq_some hset
    obtain ⟨-, rfl⟩ := setChecked_eq_some hmaster
    exact .inr ⟨hseen, cost, old, hcost, hold, h⟩
  · simp only [if_true] at h
    cases h
    exact .inl ⟨hseen, rfl⟩

/-- What one iteration does to `seen_` and `master_array`. -/
theorem processCell_seen_master {c : CellData} (h : processCell cv l sizeX sizeY st c = some st') :
    (st.seen[c.index]? = some true ∧ st' = st) ∨
    (st.seen[c.index]? = some false ∧ ∃ cost old,
      costLookup l c.x c.y c.srcX c.srcY = some cost ∧ st.master[c.index]? = some old ∧
      st'.seen = st.seen.set c.index true ∧
      st'.master = st.master.set c.index (inflatedCost cv l.inflateUnknown old cost)) :=
  (processCell_cases cv h).imp_right fun ⟨hseen, cost, old, hcost, hold, hn⟩ =>
    ⟨hseen, cost, old, hcost, hold, (enqueueNeighbours_adds hn).seen,
      (enqueueNeighbours_adds hn).master⟩

/-- One iteration keeps the length of `master_array`. -/
theorem processCell_master_length {c : CellData}
    (h : processCell cv l sizeX sizeY st c = some st') : st'.master.length = st.master.length := by
  rcases processCell_seen_master cv h with ⟨_, rfl⟩ | ⟨_, _, _, _, _, _, hm⟩
  · rfl
  · rw [hm, List.length_set]

/-- After one iteration its cell is seen. -/
theorem processCell_marks {c : CellData} (h : processCell cv l sizeX sizeY st c = some st') :
    st'.seen[c.index]? = some true := by
  rcases processCell_seen_master cv h with ⟨hs, rfl⟩ | ⟨hseen, _, _, _, _, hs, _⟩
  · exact hs
  · rw [hs, List.getElem?_set_self (List.getElem?_eq_some_iff.mp hseen).1]

/-- **A seen cell is final**: one iteration leaves it seen and does not write it again. -/
theorem processCell_seen_stable {c : CellData} {i : Nat}
    (h : processCell cv l sizeX sizeY st c = some st') (hi : st.seen[i]? = some true) :
    st'.seen[i]? = some true ∧ st'.master[i]? = st.master[i]? := by
  rcases processCell_seen_master cv h with ⟨_, rfl⟩ | ⟨hseen, _, _, _, _, hs, hm⟩
  · exact ⟨hi, rfl⟩
  · have hne : c.index ≠ i := by rintro rfl; rw [hseen] at hi; cases hi
    rw [hs, hm, List.getElem?_set_ne hne, List.getElem?_set_ne hne]
    exact ⟨hi, rfl⟩

/-- **One iteration on the master array it will leave takes the same step.** If the new master
array already holds, at an unseen cell, the cost this iteration writes there, then writing it
again leaves that array as it is, and `enqueue` never reads it. -/
theorem processCell_rerun {c : CellData} (h : processCell cv l sizeX sizeY st c = some st')
    {m : List UInt8} (hlen : m.length = st.master.length)
    (hfix : st.seen[c.index]? = some false → m[c.index]? = st'.master[c.index]?) :
    processCell cv l sizeX sizeY { st with master := m } c = some { st' with master := m } := by
  rcases processCell_cases cv h with ⟨hseen, rfl⟩ | ⟨hseen, cost, old, hcost, hold, hn⟩
  · simp only [processCell_eq, hseen, Option.bind_eq_bind, Option.some_bind, if_true]
    rfl
  · have hlt : c.index < st.master.length := (List.getElem?_eq_some_iff.mp hold).1
    have hm : m[c.index]? = some (inflatedCost cv l.inflateUnknown old cost) := by
      rw [hfix hseen, (enqueueNeighbours_adds hn).master, List.getElem?_set_self hlt]
    simp only [processCell_eq, hseen, setChecked, if_pos (List.getElem?_eq_some_iff.mp hseen).1,
      hcost, hm, inflatedCost_idem, if_pos (hlen ▸ hlt : c.index < m.length),
      set_eq_self_of_getElem? hm, Option.bind_eq_bind, Option.some_bind, Bool.false_eq_true,
      if_false]
    exact enqueueNeighbours_with_master hn m

-- ════════════════════════════════════════════════════════════════════════
-- The whole loop
-- ════════════════════════════════════════════════════════════════════════

/-- **What every iteration keeps, the whole loop keeps**, whatever its fuel and wherever it
starts. Each iteration processes a queued cell. -/
theorem propagate_induction {P : Propagation → Prop}
    (hstep : ∀ st c st', P st → (∃ b ∈ st.bins, c ∈ b.2) →
      processCell cv l sizeX sizeY st c = some st' → P st') :
    ∀ fuel st key i res, P st → propagate cv l sizeX sizeY fuel st key i = some res → P res.1
  | 0, _, _, _, _, hp, h => by cases h; exact hp
  | fuel + 1, st, key, i, res, hp, h => by
    unfold propagate at h
    dsimp only at h
    split_ifs at h with hi
    · obtain ⟨st₁, h₁, h⟩ := Option.bind_eq_some.mp h
      exact propagate_induction hstep fuel st₁ key (i + 1) res
        (hstep st _ st₁ hp (mem_lookup_getD (List.getElem_mem hi)) h₁) h
    · split at h
      · cases h; exact hp
      · exact propagate_induction hstep fuel st _ 0 res hp h

theorem propagate_master_length :
    ∀ fuel st key i res, propagate cv l sizeX sizeY fuel st key i = some res →
      res.1.master.length = st.master.length := fun fuel st key i res h =>
  propagate_induction cv (P := fun s => s.master.length = st.master.length)
    (fun _ _ _ hp _ hs => (processCell_master_length cv hs).trans hp) fuel st key i res rfl h

/-- **A seen cell is final over the whole loop.** -/
theorem propagate_seen_final {j : Nat} :
    ∀ fuel st key i res, propagate cv l sizeX sizeY fuel st key i = some res →
      st.seen[j]? = some true → res.1.master[j]? = st.master[j]? := fun fuel st key i res h hj =>
  (propagate_induction cv (P := fun s => s.seen[j]? = some true ∧ s.master[j]? = st.master[j]?)
    (fun _ _ _ hp _ hs => ⟨(processCell_seen_stable cv hs hp.1).1,
      (processCell_seen_stable cv hs hp.1).2.trans hp.2⟩) fuel st key i res ⟨hj, rfl⟩ h).2

/-- **The loop on the master array it will leave takes the same steps**, and leaves the same
state. -/
theorem propagate_rerun :
    ∀ fuel st key i res, propagate cv l sizeX sizeY fuel st key i = some res →
      propagate cv l sizeX sizeY fuel { st with master := res.1.master } key i = some res
  | 0, _, _, _, _, h => by cases h; rfl
  | fuel + 1, st, key, i, res, h => by
    unfold propagate at h ⊢
    dsimp only at h ⊢
    split_ifs at h ⊢ with hi
    · obtain ⟨st₁, h₁, h⟩ := Option.bind_eq_some.mp h
      rw [processCell_rerun cv h₁
          ((propagate_master_length cv fuel st₁ key (i + 1) res h).trans
            (processCell_master_length cv h₁))
          fun _ => propagate_seen_final cv fuel st₁ key (i + 1) res h (processCell_marks cv h₁),
        Option.bind_eq_bind, Option.some_bind]
      exact propagate_rerun fuel st₁ key (i + 1) res h
    · split at h
      · cases h; rfl
      · exact propagate_rerun fuel st _ 0 res h

/-- The loop does not read the layer's `seen_`, only the kernels, the radius and
`inflate_unknown_`. -/
theorem propagate_with_seen (s : List Bool) :
    propagate cv { l with seen := s } sizeX sizeY = propagate cv l sizeX sizeY := by
  funext fuel
  induction fuel with
  | zero => rfl
  | succ fuel ih =>
    funext st key i
    unfold propagate
    rw [ih]
    rfl

-- ════════════════════════════════════════════════════════════════════════
-- The seeds
-- ════════════════════════════════════════════════════════════════════════

/-- Two master arrays with the same lethal cells. -/
def SameLethal (m m' : List UInt8) : Prop :=
  ∀ i : Nat, m[i]? = some cv.lethalObstacle ↔ m'[i]? = some cv.lethalObstacle

/-- **The seeds depend only on the lethal cells**: a grid of the same size with the same lethal
cells gives the same seeds. -/
theorem seedObstacles_congr {grid grid' : Costmap2D} (hx : grid'.sizeX = grid.sizeX)
    (hlen : grid'.charMap.length = grid.charMap.length)
    (hl : SameLethal cv grid'.charMap grid.charMap) (minI minJ maxI maxJ : Nat) :
    seedObstacles cv grid' minI minJ maxI maxJ = seedObstacles cv grid minI minJ maxI maxJ := by
  have hcell : ∀ (k : Nat) (bin : List CellData) (c : CellData),
      (grid'.charMap[k]? >>= fun cost =>
        pure (if cost = cv.lethalObstacle then bin ++ [c] else bin)) =
      (grid.charMap[k]? >>= fun cost =>
        pure (if cost = cv.lethalObstacle then bin ++ [c] else bin)) := by
    intro k bin c
    by_cases hk : k < grid.charMap.length
    · have hkl := hl k
      rw [List.getElem?_eq_getElem hk, List.getElem?_eq_getElem (hlen ▸ hk)] at hkl ⊢
      simp only [Option.some.injEq] at hkl
      simp only [Option.bind_eq_bind, Option.some_bind, hkl]
    · rw [List.getElem?_eq_none (by omega), List.getElem?_eq_none (by omega)]
  simp only [seedObstacles, Costmap2D.getIndex, hx, hcell]

variable {r : Nat} {grid : Costmap2D}

/-- One iteration keeps the lethal cells of the grid, when the cost kernel is lethal only at
its centre and the cell's source is lethal. -/
theorem processCell_sameLethal {c : CellData}
    (hcosts : ∀ i j v, kernelAt l.cachedCosts i j = some v →
      v ≤ cv.lethalObstacle ∧ (v = cv.lethalObstacle → i = 0 ∧ j = 0))
    (hlethal : cv.lethalObstacle ≠ cv.noInformation)
    (hsrc : grid.charMap[grid.getIndex c.srcX c.srcY]? = some cv.lethalObstacle)
    (hidx : c.index = c.y * grid.sizeX + c.x) (hl : SameLethal cv st.master grid.charMap)
    (h : processCell cv l sizeX sizeY st c = some st') : SameLethal cv st'.master grid.charMap := by
  rcases processCell_seen_master cv h with ⟨_, rfl⟩ | ⟨_, cost, old, hcost, hold, _, hm⟩
  · exact hl
  obtain ⟨hle, hcentre⟩ := hcosts _ _ _ hcost
  intro i
  rw [hm]
  by_cases hi : c.index = i
  · subst hi
    rw [List.getElem?_set_self (List.getElem?_eq_some_iff.mp hold).1, Option.some.injEq]
    constructor
    · intro hnew
      by_cases hc : cost = cv.lethalObstacle
      · obtain ⟨hx, hy⟩ := hcentre hc
        rw [hidx, Nat.eq_of_dist_eq_zero hx, Nat.eq_of_dist_eq_zero hy]
        exact hsrc
      · exact (hl c.index).mp (hold.trans (congrArg some (eq_lethal_of_newCost hnew hc)))
    · intro hg
      rw [Option.some.inj (hold.symm.trans ((hl c.index).mpr hg))]
      exact inflatedCost_lethal cv hlethal _ hle
  · rw [List.getElem?_set_ne hi]
    exact hl i

/-- **The loop keeps the lethal cells of the grid**, from a state whose queued cells come from
lethal cells. -/
theorem propagate_sameLethal (hk : KernelsReady l r)
    (hcosts : ∀ i j v, kernelAt l.cachedCosts i j = some v →
      v ≤ cv.lethalObstacle ∧ (v = cv.lethalObstacle → i = 0 ∧ j = 0))
    (hlethal : cv.lethalObstacle ≠ cv.noInformation) (seed : Nat → Nat → Prop)
    (hseed : ∀ sx sy, seed sx sy → grid.charMap[grid.getIndex sx sy]? = some cv.lethalObstacle)
    (fuel : Nat) (st : Propagation) (key i : Nat) {res : Propagation × Bool}
    (hst : PropInv grid.sizeX grid.sizeY r st) (hf : FrameInv cv grid r seed st)
    (hl : SameLethal cv st.master grid.charMap)
    (h : propagate cv l grid.sizeX grid.sizeY fuel st key i = some res) :
    SameLethal cv res.1.master grid.charMap :=
  (propagate_induction cv (P := fun s => PropInv grid.sizeX grid.sizeY r s ∧
      FrameInv cv grid r seed s ∧ SameLethal cv s.master grid.charMap)
    (fun s c s' ⟨hp, hf, hl⟩ ⟨b, hb, hc⟩ hs => by
      obtain ⟨s'', hs'', hp'⟩ := processCell_inv cv hk hp (hp.bins b hb c hc)
      cases hs.symm.trans hs''
      exact ⟨hp', processCell_frame cv grid r seed hk (fun i j v hv => (hcosts i j v hv).1) hlethal
          hf (hp.bins b hb c hc) (hf.bins b hb c hc) hs,
        processCell_sameLethal cv hcosts hlethal (hseed _ _ (hf.bins b hb c hc).1)
          (hp.bins b hb c hc).index hl hs⟩)
    fuel st key i res ⟨hst, hf, hl⟩ h).2.2

-- ════════════════════════════════════════════════════════════════════════
-- `updateCosts`
-- ════════════════════════════════════════════════════════════════════════

variable {computeCost : α → α → α → Nat → UInt8}

/-- `updateCosts` of an enabled layer of radius `R ≠ 0`: seed the lethal cells of the window
enlarged by `R`, then run the loop from them over a cleared `seen_`. -/
theorem updateCosts_eq {l : InflationLayer α} (hen : l.enabled = true)
    (hr : l.cellInflationRadius ≠ 0) (fuel : Nat) (grid : Costmap2D) (minI minJ maxI maxJ : Int) :
    l.updateCosts cv fuel grid minI minJ maxI maxJ =
      (seedObstacles cv grid (max 0 (minI - l.cellInflationRadius)).toNat
          (max 0 (minJ - l.cellInflationRadius)).toNat
          (min (grid.sizeX : Int) (maxI + l.cellInflationRadius)).toNat
          (min (grid.sizeY : Int) (maxJ + l.cellInflationRadius)).toNat).bind fun bin =>
        (propagate cv l grid.sizeX grid.sizeY fuel
          ⟨List.replicate (grid.sizeX * grid.sizeY) false, grid.charMap, [(0, bin)], []⟩ 0 0).map
          fun res => ⟨{ l with seen := res.1.seen }, res.1.master, res.1.lookups, res.2⟩ := by
  unfold InflationLayer.updateCosts
  rw [if_neg (by simp [hen, hr])]
  dsimp only
  rw [resetSeen_eq_replicate]
  rcases seedObstacles cv grid _ _ _ _ with _ | bin
  · rfl
  · dsimp only [Option.some_bind]
    rcases propagate cv l grid.sizeX grid.sizeY fuel _ 0 0 with _ | ⟨st, finished⟩ <;> rfl

/-- **What `updateCosts` can do**: hand the grid back when the layer is disabled or its radius
is 0; otherwise seed the enlarged window and run the loop. -/
theorem updateCosts_cases {l : InflationLayer α} {fuel : Nat} {minI minJ maxI maxJ : Int}
    {res : UpdateCostsResult α} (h : l.updateCosts cv fuel grid minI minJ maxI maxJ = some res) :
    ((l.enabled = false ∨ l.cellInflationRadius = 0) ∧ res = ⟨l, grid.charMap, [], true⟩) ∨
    (l.enabled = true ∧ l.cellInflationRadius ≠ 0 ∧ ∃ bin st finished,
      seedObstacles cv grid (max 0 (minI - l.cellInflationRadius)).toNat
          (max 0 (minJ - l.cellInflationRadius)).toNat
          (min (grid.sizeX : Int) (maxI + l.cellInflationRadius)).toNat
          (min (grid.sizeY : Int) (maxJ + l.cellInflationRadius)).toNat = some bin ∧
      propagate cv l grid.sizeX grid.sizeY fuel
          ⟨List.replicate (grid.sizeX * grid.sizeY) false, grid.charMap, [(0, bin)], []⟩ 0 0 =
        some (st, finished) ∧
      res = ⟨{ l with seen := st.seen }, st.master, st.lookups, finished⟩) := by
  by_cases hg : l.enabled = false ∨ l.cellInflationRadius = 0
  · refine .inl ⟨hg, ?_⟩
    unfold InflationLayer.updateCosts at h
    rw [if_pos (by rcases hg with hg | hg <;> simp [hg])] at h
    exact (Option.some.inj h).symm
  · simp only [not_or, Bool.not_eq_false] at hg
    rw [updateCosts_eq cv hg.1 hg.2] at h
    obtain ⟨bin, hbin, h⟩ := Option.bind_eq_some.mp h
    obtain ⟨⟨st, finished⟩, hprop, rfl⟩ := Option.map_eq_some'.mp h
    exact .inr ⟨hg.1, hg.2, bin, st, finished, hbin, hprop, rfl⟩

/-- **`updateCosts` on the costs it wrote returns what it returned**, on any grid, window and
fuel, from a layer whose kernels fit, when `computeCost` is at most `LETHAL_OBSTACLE` and
reaches it only at distance 0. -/
theorem updateCosts_rerun_of_fits {l : InflationLayer α} (hfit : CachesFit computeCost l)
    (hlethal : cv.lethalObstacle ≠ cv.noInformation)
    (hcost : ∀ res ins csf d, computeCost res ins csf d ≤ cv.lethalObstacle)
    (hcentre : ∀ res ins csf d, computeCost res ins csf d = cv.lethalObstacle → d = 0)
    {fuel : Nat} {minI minJ maxI maxJ : Int} {res : UpdateCostsResult α}
    (hres : l.updateCosts cv fuel grid minI minJ maxI maxJ = some res) (grid' : Costmap2D)
    (hx : grid'.sizeX = grid.sizeX) (hy : grid'.sizeY = grid.sizeY)
    (hmap : grid'.charMap = res.master) :
    res.layer.updateCosts cv fuel grid' minI minJ maxI maxJ = some res := by
  rcases updateCosts_cases cv hres with ⟨hg, rfl⟩ | ⟨hen, hr, bin, st, finished, hbin, hprop, rfl⟩
  · unfold InflationLayer.updateCosts
    rw [if_pos (by rcases hg with hg | hg <;> simp [hg])]
    dsimp only at hmap ⊢
    rw [hmap]
  have hk := CachesFit.kernelsReady computeCost hfit hr
  have hcosts : ∀ i j v, kernelAt l.cachedCosts i j = some v →
      v ≤ cv.lethalObstacle ∧ (v = cv.lethalObstacle → i = 0 ∧ j = 0) := fun i j v hv => by
    rw [hfit.costs hr] at hv
    rw [kernelAt_kernel_eq hv]
    refine ⟨hcost _ _ _ _, fun h0 => ?_⟩
    have hsq := Nat.add_eq_zero_iff.mp (hcentre _ _ _ _ h0)
    exact ⟨mul_self_eq_zero.mp hsq.1, mul_self_eq_zero.mp hsq.2⟩
  obtain ⟨bin', hbin', hcells⟩ := seedObstacles_inv cv (r := l.cellInflationRadius) grid
    (max 0 (minI - l.cellInflationRadius)).toNat (max 0 (minJ - l.cellInflationRadius)).toNat
    (min (grid.sizeX : Int) (maxI + l.cellInflationRadius)).toNat
    (min (grid.sizeY : Int) (maxJ + l.cellInflationRadius)).toNat (by omega) (by omega)
  cases hbin.symm.trans hbin'
  let seed := fun sx sy => grid.charMap[grid.getIndex sx sy]? = some cv.lethalObstacle
  have hsrc : ∀ c ∈ bin, SourceOk l.cellInflationRadius seed c := fun c hc => by
    obtain ⟨i, j, rfl, -, -, -, -, hl⟩ := seedObstacles_mem cv hbin c hc
    exact ⟨hl, by simp⟩
  have hsame := propagate_sameLethal cv hk hcosts hlethal seed (fun _ _ => id) fuel
    ⟨List.replicate (grid.sizeX * grid.sizeY) false, grid.charMap, [(0, bin)], []⟩ 0 0
    ⟨List.length_replicate _ _, grid.charMap_length,
      fun b hb => List.mem_singleton.mp hb ▸ hcells, by simp⟩
    ⟨fun b hb => List.mem_singleton.mp hb ▸ hsrc, fun _ _ => rfl, fun x y _ hs => by
      simp [List.getElem?_replicate] at hs⟩
    (fun _ => Iff.rfl) hprop
  have hlen : grid'.charMap.length = grid.charMap.length := by
    rw [grid'.charMap_length, grid.charMap_length, hx, hy]
  have hrerun := propagate_rerun cv _ _ _ _ _ hprop
  dsimp only at hrerun hmap
  rw [updateCosts_eq cv (l := { l with seen := st.seen }) hen hr]
  dsimp only
  rw [seedObstacles_congr cv hx hlen (hmap ▸ hsame), hx, hy, hbin, Option.some_bind,
    propagate_with_seen, hmap, hrerun]
  rfl

/-- **Inflating the inflated costs again changes nothing.** Over any sequence of operations
from the constructor, and then on every grid, window and fuel: when `updateCosts` returns, a
second call of the layer it leaves, on a grid of the same size that holds the master array it
wrote, over the same window and fuel, returns the same result, with the same master array, the
same kernel lookups and the same layer. `cost_values.hpp` and the header's `computeCost` are
parameters of the model: the result needs `LETHAL_OBSTACLE ≠ NO_INFORMATION`, and `computeCost`
at most `LETHAL_OBSTACLE` and equal to it only at distance 0. -/
theorem updateCosts_rerun [LinearOrderedField α] (computeCost : α → α → α → Nat → UInt8)
    (floatMax : α) (enabled current : Bool) (ops : List (LayerOp α))
    (hlethal : cv.lethalObstacle ≠ cv.noInformation)
    (hcost : ∀ res ins csf d, computeCost res ins csf d ≤ cv.lethalObstacle)
    (hcentre : ∀ res ins csf d, computeCost res ins csf d = cv.lethalObstacle → d = 0) :
    ∃ l, runLayer cv computeCost floatMax (InflationLayer.new floatMax enabled current) ops =
        some l ∧
      ∀ fuel grid minI minJ maxI maxJ res,
        l.updateCosts cv fuel grid minI minJ maxI maxJ = some res →
        ∀ grid' : Costmap2D, grid'.sizeX = grid.sizeX → grid'.sizeY = grid.sizeY →
          grid'.charMap = res.master →
          res.layer.updateCosts cv fuel grid' minI minJ maxI maxJ = some res := by
  obtain ⟨l, hrun, hfit⟩ := runLayer_cachesFit computeCost cv floatMax ops _
    (CachesFit.new computeCost floatMax enabled current)
  exact ⟨l, hrun, fun _ _ _ _ _ _ _ hres grid' hx hy hmap =>
    updateCosts_rerun_of_fits cv hfit hlethal hcost hcentre hres grid' hx hy hmap⟩

theorem updateCosts_rerun_sample :
    ∃ l, runLayer ⟨255, 254, 253, 0⟩ computeCostSample 0 (InflationLayer.new 0 true true) sampleOps =
        some l ∧ l.enabled = true ∧ l.cellInflationRadius = 3 ∧
      ∀ fuel grid minI minJ maxI maxJ res,
        l.updateCosts ⟨255, 254, 253, 0⟩ fuel grid minI minJ maxI maxJ = some res →
        ∀ grid' : Costmap2D, grid'.sizeX = grid.sizeX → grid'.sizeY = grid.sizeY →
          grid'.charMap = res.master →
          res.layer.updateCosts ⟨255, 254, 253, 0⟩ fuel grid' minI minJ maxI maxJ = some res := by
  obtain ⟨l, hrun, hrerun⟩ := updateCosts_rerun ⟨255, 254, 253, 0⟩ computeCostSample 0 true true
    sampleOps (by decide) computeCostSample_le fun _ _ _ _ => computeCostSample_eq_lethal
  exact ⟨l, hrun, (runLayer_sampleOps hrun).1, (runLayer_sampleOps hrun).2, hrerun⟩

-- ════════════════════════════════════════════════════════════════════════
-- The work of one call
-- ════════════════════════════════════════════════════════════════════════

/-- The work invariant of the loop over `n` cells: one cost lookup per cell marked seen so far,
and at most four distance lookups per cost lookup. -/
structure WorkInv (n : Nat) (st : Propagation) : Prop where
  costs : st.lookups.countP KernelLookup.isCost + st.seen.count false = n
  distances : st.lookups.countP (fun e => !e.isCost) ≤ 4 * st.lookups.countP KernelLookup.isCost

/-- **One iteration keeps the work invariant**: a cell is marked seen together with its one cost
lookup, and its neighbours add at most four distance lookups. -/
theorem processCell_workInv {c : CellData} {n : Nat}
    (h : processCell cv l sizeX sizeY st c = some st') (hw : WorkInv n st) : WorkInv n st' := by
  rcases processCell_cases cv h with ⟨_, rfl⟩ | ⟨hseen, cost, old, -, -, hn⟩
  · exact hw
  obtain ⟨hs, -, ds, hds, hlen, hcost⟩ := enqueueNeighbours_adds hn
  have hlt : c.index < st.seen.length := (List.getElem?_eq_some_iff.mp hseen).1
  have hfalse : st.seen[c.index] = false := by simpa [List.getElem?_eq_getElem hlt] using hseen
  have hcount := List.count_set true false st.seen c.index hlt
  have hpos : 0 < st.seen.count false := List.count_pos_iff.mpr (hfalse ▸ List.getElem_mem hlt)
  have hdist := List.countP_le_length (fun e : KernelLookup => !e.isCost) (l := ds)
  simp only [hfalse, beq_self_eq_true, if_true, Bool.true_beq, Bool.false_eq_true, if_false]
    at hcount
  obtain ⟨hc, hd⟩ := hw
  constructor
  · simp only [hs, hds, List.countP_append, List.countP_cons, List.countP_nil, hcost,
      KernelLookup.isCost_cost, hcount, if_true]
    omega
  · simp only [hds, List.countP_append, List.countP_cons, List.countP_nil, hcost,
      KernelLookup.isCost_cost, Bool.not_true, Bool.false_eq_true, if_true, if_false]
    omega

theorem propagate_workInv {n : Nat} :
    ∀ fuel st key i res, WorkInv n st → propagate cv l sizeX sizeY fuel st key i = some res →
      WorkInv n res.1 :=
  propagate_induction cv fun _ _ _ hw _ hs => processCell_workInv cv hs hw

/-- **`updateCosts` does at most one cost lookup per cell, and at most four distance lookups per
cost lookup**, on every layer, grid, window and fuel: each cell it reaches is marked seen with
its one cost lookup, and enqueues at most its four neighbours. -/
theorem updateCosts_lookups_le {l : InflationLayer α} {fuel : Nat} {minI minJ maxI maxJ : Int}
    {res : UpdateCostsResult α} (h : l.updateCosts cv fuel grid minI minJ maxI maxJ = some res) :
    res.lookups.countP KernelLookup.isCost ≤ grid.sizeX * grid.sizeY ∧
      res.lookups.countP (fun e => !e.isCost) ≤ 4 * res.lookups.countP KernelLookup.isCost := by
  rcases updateCosts_cases cv h with ⟨-, rfl⟩ | ⟨-, -, bin, st, finished, -, hprop, rfl⟩
  · simp
  · have hw : WorkInv (grid.sizeX * grid.sizeY) st := propagate_workInv cv _ _ _ _ _
      ⟨by simp, by simp⟩ hprop
    dsimp only
    exact ⟨by have := hw.costs; omega, hw.distances⟩

/-- A layer of radius 1 whose kernels are built: squared distances, and a cost kernel lethal at
its centre and inscribed elsewhere. -/
def radiusOneLayer : InflationLayer ℚ :=
  { InflationLayer.new 0 true true with
    cellInflationRadius := 1, cachedCellInflationRadius := 1,
    cachedDistances := kernel 3 fun i j => i * i + j * j,
    cachedCosts := kernel 3 fun i j => if i * i + j * j = 0 then 254 else 253 }

theorem updateCosts_lookups_le_sample :
    ∃ res, radiusOneLayer.updateCosts ⟨255, 254, 253, 0⟩ 20 ⟨2, 1, [254, 0], rfl⟩ 0 0 2 1 =
        some res ∧
      res.lookups.countP KernelLookup.isCost ≤ 2 * 1 ∧
      res.lookups.countP (fun e => !e.isCost) ≤ 4 * res.lookups.countP KernelLookup.isCost := by
  obtain ⟨res, hres⟩ : ∃ res, radiusOneLayer.updateCosts ⟨255, 254, 253, 0⟩ 20
      ⟨2, 1, [254, 0], rfl⟩ 0 0 2 1 = some res := ⟨_, rfl⟩
  exact ⟨res, hres, updateCosts_lookups_le _ hres⟩

end Nav2Costmap2d
