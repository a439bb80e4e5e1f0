import Nav2.Costmap2d.InflationSafety

/-!
# The propagation loop runs to completion

The loop of `updateCosts` is modelled with fuel. Each iteration either moves past one queued
cell or moves on to the next bin. A cell seen for the first time is marked and queues at most
four neighbours, each adding at most one cell and one bin ahead of the cursor; a cell already
seen queues nothing. So the cells and bins still ahead of the cursor, plus eight per unseen
cell, strictly decrease (`Propagation.weight`), and the loop exhausts the bins within
`9 · size_x · size_y + 1` iterations. Once it has, more fuel changes nothing.
-/

namespace Nav2Costmap2d
open InflationLayer

-- ════════════════════════════════════════════════════════════════════════
-- What is left to visit
-- ════════════════════════════════════════════════════════════════════════

/-- The cells and the bins strictly after distance `key`, one unit each. -/
def weightAfter (bins : List (Nat × List CellData)) (key : Nat) : Nat :=
  ((bins.filter fun b => key < b.1).map fun b => b.2.length + 1).sum

/-- What the loop still has to visit from position `i` of the bin of distance `key`. -/
def binWeight (bins : List (Nat × List CellData)) (key i : Nat) : Nat :=
  ((bins.lookup key).getD []).length - i + weightAfter bins key

/-- The potential of the propagation loop at the cursor `(key, i)`: what is left to visit, and
eight for each cell not seen yet. -/
def Propagation.weight (st : Propagation) (key i : Nat) : Nat :=
  binWeight st.bins key i + 8 * st.seen.count false

@[simp] theorem weightAfter_nil (key : Nat) : weightAfter [] key = 0 := rfl

@[simp] theorem weightAfter_cons (k key : Nat) (cells : List CellData)
    (bins : List (Nat × List CellData)) :
    weightAfter ((k, cells) :: bins) key =
      (if key < k then cells.length + 1 else 0) + weightAfter bins key := by
  by_cases h : key < k <;> simp [weightAfter, List.filter_cons, h]

theorem weightAfter_of_forall_le {key : Nat} :
    ∀ {bins : List (Nat × List CellData)}, (∀ b ∈ bins, b.1 ≤ key) → weightAfter bins key = 0
  | [], _ => rfl
  | (k, cells) :: bins, h => by
    rw [weightAfter_cons, if_neg (Nat.not_lt.mpr (h _ (List.mem_cons_self _ _))),
      weightAfter_of_forall_le fun b hb => h b (List.mem_cons_of_mem _ hb)]

theorem weightAfter_anti {key key' : Nat} (hle : key ≤ key') :
    ∀ bins : List (Nat × List CellData), weightAfter bins key' ≤ weightAfter bins key
  | [] => le_refl _
  | (k, cells) :: bins => by
    have := weightAfter_anti hle bins
    simp only [weightAfter_cons]
    split_ifs <;> omega

theorem weightAfter_append (bins bins' : List (Nat × List CellData)) (key : Nat) :
    weightAfter (bins ++ bins') key = weightAfter bins key + weightAfter bins' key := by
  simp [weightAfter]

theorem lookup_cons_eq {β : Type} (k key : Nat) (b : β) (bins : List (Nat × β)) :
    ((k, b) :: bins).lookup key = if key = k then some b else bins.lookup key := by
  by_cases h : key = k
  · subst h; simp
  · rw [List.lookup_cons, beq_false_of_ne h, if_neg h]

theorem lookup_pushBin_length (d key : Nat) (c : CellData) :
    ∀ bins : List (Nat × List CellData),
      (((pushBin d c bins).lookup key).getD []).length ≤
        ((bins.lookup key).getD []).length + if d = key then 1 else 0
  | [] => by by_cases h : key = d <;> simp [pushBin, lookup_cons_eq, h]
  | (k, cells) :: bins => by
    have ih := lookup_pushBin_length d key c bins
    by_cases h₁ : d < k
    · rw [pushBin, if_pos h₁]
      by_cases hd : key = d
      · simp [lookup_cons_eq, hd]
      · simp [lookup_cons_eq, hd, Ne.symm hd]
    by_cases h₂ : d = k
    · rw [pushBin, if_neg h₁, if_pos h₂]
      subst h₂
      by_cases hd : key = d
      · simp [lookup_cons_eq, hd]
      · simp [lookup_cons_eq, hd, Ne.symm hd]
    · rw [pushBin, if_neg h₁, if_neg h₂]
      by_cases hk : key = k
      · simp [lookup_cons_eq, hk]
      · simpa [lookup_cons_eq, hk] using ih

theorem weightAfter_pushBin (d key : Nat) (c : CellData) :
    ∀ bins : List (Nat × List CellData),
      weightAfter (pushBin d c bins) key ≤ weightAfter bins key + if key < d then 2 else 0
  | [] => by by_cases h : key < d <;> simp [pushBin, h]
  | (k, cells) :: bins => by
    have ih := weightAfter_pushBin d key c bins
    by_cases h₁ : d < k
    · rw [pushBin, if_pos h₁]
      by_cases hd : key < d <;> simp [hd]; omega
    by_cases h₂ : d = k
    · rw [pushBin, if_neg h₁, if_pos h₂]
      subst h₂
      by_cases hd : key < d <;> simp [hd]; omega
    · rw [pushBin, if_neg h₁, if_neg h₂, weightAfter_cons, weightAfter_cons]
      omega

/-- **Queueing one cell adds at most two units ahead of the cursor**: the cell, and its bin
when that is new. -/
theorem binWeight_pushBin (d : Nat) (c : CellData) (bins : List (Nat × List CellData))
    (key i : Nat) : binWeight (pushBin d c bins) key i ≤ binWeight bins key i + 2 := by
  have h₁ := lookup_pushBin_length d key c bins
  have h₂ := weightAfter_pushBin d key c bins
  unfold binWeight
  split_ifs at h₁ h₂ <;> omega

-- ════════════════════════════════════════════════════════════════════════
-- One iteration
-- ════════════════════════════════════════════════════════════════════════

/-- `st'` has the same `seen_` as `st`, and at most `n` more units ahead of any cursor. -/
def Grows (n : Nat) (st st' : Propagation) : Prop :=
  st'.seen = st.seen ∧ ∀ key i, binWeight st'.bins key i ≤ binWeight st.bins key i + n

theorem Grows.of_eq {n : Nat} {st st' : Propagation} (hs : st'.seen = st.seen)
    (hb : st'.bins = st.bins) : Grows n st st' :=
  ⟨hs, fun _ _ => hb ▸ Nat.le_add_right _ _⟩

theorem Grows.trans {m n : Nat} {st₁ st₂ st₃ : Propagation} (h₁ : Grows m st₁ st₂)
    (h₂ : Grows n st₂ st₃) : Grows (m + n) st₁ st₃ :=
  ⟨h₂.1.trans h₁.1, fun key i => by have := h₁.2 key i; have := h₂.2 key i; omega⟩

variable {α : Type} {l : InflationLayer α} {st st' : Propagation}

theorem enqueue_grows {index mx my sx sy : Nat} (h : enqueue l st index mx my sx sy = some st') :
    Grows 2 st st' := by
  simp only [enqueue, Option.bind_eq_bind, Option.bind_eq_some] at h
  obtain ⟨isSeen, -, h⟩ := h
  cases isSeen
  · simp only [Bool.false_eq_true, if_false, Option.bind_eq_some] at h
    obtain ⟨distance, -, h⟩ := h
    split_ifs at h
    · cases h; exact Grows.of_eq rfl rfl
    · cases h; exact ⟨rfl, binWeight_pushBin _ _ _⟩
  · simp only [if_true] at h
    cases h; exact Grows.of_eq rfl rfl

theorem ite_enqueue_grows {cond : Prop} [Decidable cond] {index mx my sx sy : Nat}
    (h : (if cond then enqueue l st index mx my sx sy else pure st) = some st') :
    Grows 2 st st' := by
  split_ifs at h
  · exact enqueue_grows h
  · cases h; exact Grows.of_eq rfl rfl

variable (cv : CostValues) (sizeX sizeY : Nat)

/-- **One iteration does not raise the potential**: a seen cell changes nothing, and an unseen
one is marked (eight units less) and queues at most four cells (eight units more). -/
theorem processCell_weight {c : CellData} (h : processCell cv l sizeX sizeY st c = some st')
    (key i : Nat) : st'.weight key i ≤ st.weight key i := by
  simp only [processCell, Option.bind_eq_bind, Option.bind_eq_some] at h
  obtain ⟨isSeen, hseen, h⟩ := h
  cases isSeen
  · simp only [Bool.false_eq_true, if_false, Option.bind_eq_some] at h
    obtain ⟨seen, hset, _, _, _, _, _, _, st₁, h₁, st₂, h₂, st₃, h₃, h₄⟩ := h
    have hg := (ite_enqueue_grows h₁).trans ((ite_enqueue_grows h₂).trans
      ((ite_enqueue_grows h₃).trans (ite_enqueue_grows h₄)))
    unfold setChecked at hset
    split_ifs at hset with hlt
    cases hset
    have hfalse : st.seen[c.index] = false := by
      simpa [List.getElem?_eq_getElem hlt] using hseen
    have hcount := List.count_set true false st.seen c.index hlt
    have hpos : 0 < st.seen.count false :=
      List.count_pos_iff.mpr (hfalse ▸ List.getElem_mem hlt)
    simp only [hfalse, beq_self_eq_true, if_true, Bool.true_beq, Bool.false_eq_true, if_false] at hcount
    have hb := hg.2 key i
    simp only [Propagation.weight, hg.1, hcount] at hb ⊢
    omega
  · simp only [if_true] at h
    cases h; exact le_refl _

/-- From a cursor whose cell is queued, one iteration lowers the potential. -/
theorem weight_succ_lt {key i : Nat} (hi : i < ((st.bins.lookup key).getD []).length) :
    st.weight key (i + 1) < st.weight key i := by
  unfold Propagation.weight binWeight; omega

/-- **Moving to the next bin lowers the potential**: that bin is no longer ahead of the cursor,
and no bin lies between the two distances. -/
theorem binWeight_nextKey {bins : List (Nat × List CellData)} {key i key' : Nat}
    (hi : ¬i < ((bins.lookup key).getD []).length) (h : nextKey bins key = some key') :
    binWeight bins key' 0 < binWeight bins key i := by
  obtain ⟨⟨k, cells⟩, hfind, rfl⟩ := Option.map_eq_some'.mp h
  obtain ⟨hlt, pre, post, rfl, hpre⟩ := List.find?_eq_some.mp hfind
  have hlt : key < k := by simpa using hlt
  have hpre : ∀ a ∈ pre, a.1 ≤ key := fun a ha => by simpa using hpre a ha
  have hlook : (pre ++ (k, cells) :: post).lookup k = some cells := by
    rw [List.lookup_append, List.lookup_eq_none_iff.mpr fun a ha => by
      simpa using Nat.ne_of_gt (Nat.lt_of_le_of_lt (hpre a ha) hlt)]
    simp
  have hwk := weightAfter_anti hlt.le post
  unfold binWeight
  rw [hlook, weightAfter_append, weightAfter_append, weightAfter_of_forall_le hpre,
    weightAfter_of_forall_le fun a ha => (hpre a ha).trans hlt.le]
  simp only [weightAfter_cons, if_pos hlt, lt_irrefl, if_false, Option.getD_some]
  omega

-- ════════════════════════════════════════════════════════════════════════
-- The whole loop
-- ════════════════════════════════════════════════════════════════════════

variable {r : Nat}

/-- **The propagation loop finishes** when its fuel exceeds the potential at its start, on any
state whose queued cells are fine. -/
theorem propagate_finishes (hk : KernelsReady l r) :
    ∀ fuel st key i, PropInv sizeX sizeY r st → st.weight key i < fuel →
      ∃ st', propagate cv l sizeX sizeY fuel st key i = some (st', true) ∧
        PropInv sizeX sizeY r st'
  | 0, _, _, _, _, hw => absurd hw (Nat.not_lt_zero _)
  | fuel + 1, st, key, i, hst, hw => by
    unfold propagate
    dsimp only
    by_cases hi : i < ((st.bins.lookup key).getD []).length
    · rw [dif_pos hi]
      obtain ⟨b, hb, hc⟩ := mem_lookup_getD (List.getElem_mem hi)
      obtain ⟨st', hst', hinv⟩ := processCell_inv cv hk hst (hst.bins b hb _ hc)
      rw [hst']
      have := processCell_weight cv sizeX sizeY hst' key (i + 1)
      have := weight_succ_lt hi
      exact propagate_finishes hk fuel st' key (i + 1) hinv (by omega)
    · rw [dif_neg hi]
      split
      · exact ⟨st, rfl, hst⟩
      · rename_i key' hkey
        have := binWeight_nextKey hi hkey
        exact propagate_finishes hk fuel st key' 0 hst (by unfold Propagation.weight at hw ⊢; omega)

/-- **More fuel changes nothing** once the loop has finished. -/
theorem propagate_add_fuel {res : Propagation} :
    ∀ fuel st key i, propagate cv l sizeX sizeY fuel st key i = some (res, true) →
      ∀ k, propagate cv l sizeX sizeY (fuel + k) st key i = some (res, true)
  | 0, _, _, _, h, _ => by simp [propagate] at h
  | fuel + 1, st, key, i, h, k => by
    rw [Nat.add_right_comm]
    unfold propagate at h ⊢
    dsimp only at h ⊢
    split_ifs at h ⊢ with hi
    · obtain ⟨st', hst', h⟩ := Option.bind_eq_some.mp h
      rw [Option.bind_eq_bind, hst', Option.some_bind]
      exact propagate_add_fuel fuel st' key (i + 1) h k
    · split at h
      · exact h
      · exact propagate_add_fuel fuel st _ 0 h k

-- ════════════════════════════════════════════════════════════════════════
-- `updateCosts`
-- ════════════════════════════════════════════════════════════════════════

theorem foldlM_length_le {β γ : Type} {m : Nat} {f : List β → γ → Option (List β)}
    (hf : ∀ acc x acc', f acc x = some acc' → acc'.length ≤ acc.length + m) :
    ∀ (xs : List γ) (acc acc' : List β), xs.foldlM f acc = some acc' →
      acc'.length ≤ acc.length + m * xs.length
  | [], acc, acc', h => by cases h; simp
  | x :: xs, acc, acc', h => by
    obtain ⟨acc₁, h₁, h⟩ := Option.bind_eq_some.mp (by simpa only [List.foldlM_cons] using h)
    have := hf acc x acc₁ h₁
    have := foldlM_length_le hf xs acc₁ acc' h
    rw [List.length_cons, Nat.mul_succ]
    omega

/-- The window has at most one seed per cell. -/
theorem seedObstacles_length {grid : Costmap2D} {minI minJ maxI maxJ : Nat} {bin : List CellData}
    (h : seedObstacles cv grid minI minJ maxI maxJ = some bin) :
    bin.length ≤ (maxI - minI) * (maxJ - minJ) := by
  have hrow : ∀ (acc : List CellData) j (acc' : List CellData),
      (List.range' minI (maxI - minI)).foldlM (fun bin i => do
        let index := grid.getIndex i j
        let cost ← grid.charMap[index]?
        pure (if cost = cv.lethalObstacle then bin ++ [⟨index, i, j, i, j⟩] else bin)) acc =
        some acc' → acc'.length ≤ acc.length + (maxI - minI) := fun acc j acc' h' => by
    have := foldlM_length_le (m := 1) (fun acc i acc' h => by
      obtain ⟨cost, -, h⟩ := Option.bind_eq_some.mp h
      cases h
      split_ifs <;> simp) _ acc acc' h'
    simpa using this
  simpa [Nat.mul_comm] using foldlM_length_le hrow _ [] bin h

theorem resetSeen_eq_replicate (seen : List Bool) (n : Nat) :
    resetSeen seen n = List.replicate n false := by
  unfold resetSeen
  dsimp only
  split_ifs with h
  · simp
  · rw [not_not.mp h]

variable {computeCost : α → α → α → Nat → UInt8}

/-- **`updateCosts` finishes** on any grid and window when its fuel exceeds nine iterations per
cell, from a layer whose kernels fit. -/
theorem updateCosts_finishes {l : InflationLayer α} (h : CachesFit computeCost l)
    (grid : Costmap2D) (minI minJ maxI maxJ : Int) {fuel : Nat}
    (hfuel : 9 * (grid.sizeX * grid.sizeY) < fuel) :
    ∃ res, l.updateCosts cv fuel grid minI minJ maxI maxJ = some res ∧ res.finished = true := by
  unfold InflationLayer.updateCosts
  split_ifs with hguard
  · exact ⟨_, rfl, rfl⟩
  simp only [Bool.or_eq_true, Bool.not_eq_true', decide_eq_true_eq, not_or] at hguard
  have hk := CachesFit.kernelsReady computeCost h hguard.2
  obtain ⟨bin, hbin, hcells⟩ := seedObstacles_inv cv (r := l.cellInflationRadius) grid
    (max 0 (minI - l.cellInflationRadius)).toNat (max 0 (minJ - l.cellInflationRadius)).toNat
    (min (grid.sizeX : Int) (maxI + l.cellInflationRadius)).toNat
    (min (grid.sizeY : Int) (maxJ + l.cellInflationRadius)).toNat (by omega) (by omega)
  have hlen : bin.length ≤ grid.sizeX * grid.sizeY :=
    (seedObstacles_length cv hbin).trans (Nat.mul_le_mul (by omega) (by omega))
  have hw : Propagation.weight ⟨resetSeen l.seen (grid.sizeX * grid.sizeY), grid.charMap,
      [(0, bin)], []⟩ 0 0 < fuel := by
    simp only [Propagation.weight, binWeight, resetSeen_eq_replicate, List.count_replicate_self,
      lookup_cons_eq, if_true, Option.getD_some, weightAfter_cons, lt_irrefl, if_false,
      weightAfter_nil]
    omega
  obtain ⟨res, hres, -⟩ := propagate_finishes cv grid.sizeX grid.sizeY hk fuel _ 0 0
    ⟨resetSeen_length _ _, grid.charMap_length, by simpa using hcells, by simp⟩ hw
  simp only [hbin, hres]
  exact ⟨_, rfl, rfl⟩

/-- **Once `updateCosts` has finished, more fuel changes nothing.** -/
theorem updateCosts_of_le_fuel {l : InflationLayer α} {grid : Costmap2D}
    {minI minJ maxI maxJ : Int} {fuel fuel' : Nat} {res : UpdateCostsResult α}
    (h : l.updateCosts cv fuel grid minI minJ maxI maxJ = some res) (hfin : res.finished = true)
    (hle : fuel ≤ fuel') : l.updateCosts cv fuel' grid minI minJ maxI maxJ = some res := by
  obtain ⟨k, rfl⟩ := Nat.exists_eq_add_of_le hle
  unfold InflationLayer.updateCosts at h ⊢
  split_ifs at h ⊢
  · exact h
  dsimp only at h ⊢
  split at h
  · cases h
  rename_i bin hbin
  split at h
  · cases h
  rename_i st finished hprop
  cases h
  cases hfin
  simp only [hbin, propagate_add_fuel cv grid.sizeX grid.sizeY _ _ _ _ hprop k]

/-- **Over any run, `updateCosts` runs to completion.** From the constructor, after any sequence
of operations, `updateCosts` on any grid and window exhausts its bins within nine iterations per
cell, and its result does not depend on the fuel beyond that. -/
theorem runLayer_updateCosts_finishes [LinearOrderedField α] (floatMax : α) (enabled current : Bool)
    (ops : List (LayerOp α)) :
    ∃ l, runLayer cv computeCost floatMax (InflationLayer.new floatMax enabled current) ops =
        some l ∧
      ∀ grid minI minJ maxI maxJ fuel, 9 * (grid.sizeX * grid.sizeY) < fuel →
        ∃ res, l.updateCosts cv fuel grid minI minJ maxI maxJ = some res ∧ res.finished = true ∧
          ∀ fuel', fuel ≤ fuel' → l.updateCosts cv fuel' grid minI minJ maxI maxJ = some res := by
  obtain ⟨l, hrun, hfit⟩ := runLayer_cachesFit computeCost cv floatMax ops _
    (CachesFit.new computeCost floatMax enabled current)
  refine ⟨l, hrun, fun grid minI minJ maxI maxJ fuel hfuel => ?_⟩
  obtain ⟨res, hres, hfin⟩ := updateCosts_finishes cv hfit grid minI minJ maxI maxJ hfuel
  exact ⟨res, hres, hfin, fun _ hle => updateCosts_of_le_fuel cv hres hfin hle⟩

theorem runLayer_updateCosts_finishes_sample :
    ∃ l, runLayer ⟨255, 254, 253, 0⟩ computeCostSample 0 (InflationLayer.new 0 true true) sampleOps =
        some l ∧ l.enabled = true ∧ l.cellInflationRadius = 3 ∧
      ∃ res, l.updateCosts ⟨255, 254, 253, 0⟩ 145 threeObstacleGrid 0 0 4 4 = some res ∧
        res.finished = true := by
  obtain ⟨l, hrun, hfin⟩ := @runLayer_updateCosts_finishes ℚ ⟨255, 254, 253, 0⟩ computeCostSample _
    0 true true sampleOps
  obtain ⟨res, hres, hdone, -⟩ := hfin threeObstacleGrid 0 0 4 4 145 (by decide)
  exact ⟨l, hrun, (runLayer_sampleOps hrun).1, (runLayer_sampleOps hrun).2, res, hres, hdone⟩

end Nav2Costmap2d
