import Nav2.Msgs

/-!
# The back-up recovery

`nav2_recoveries::BackUp` drives the robot along its x axis by `command_x_` metres at a fixed
0.025 m/s, and stops early when a simulated pose ahead would collide. Each cycle,
`isCollisionFree` simulates up to `simulate_ahead_time_` seconds ahead, one cycle at a time, and
hands every simulated pose to the collision checker.

The `Recovery` base class is not in the sources. From it the model keeps the cycle frequency,
the collision checker (a verdict per pose) and the two ways a cycle commands the robot:
`stopRobot` and publishing a twist. The checked poses and the command are returned as data.
The pose `nav2_util::getCurrentPose` looks up is an `Option`, reduced to position and yaw.

The simulation loop is specified by three lemmas. `simulateAhead_checked` says the checked poses
are a prefix of one sequence, `driftPose`. `simulateAhead_fst_eq_all` gives the verdict, and
`simulateAhead_stops` gives the reason the prefix ends early. Each pass adds
`v * (cycle_count / f)` to x alone, so the poses do not turn with the heading, and the k-th lies
`v * k * (k + 1) / (2 * f)` from the start (`driftPose_zero_x`).
-/

namespace Nav2Recoveries
open Nav2dMsgs

/-- `nav2_recoveries::Status`. -/
inductive Status
  | succeeded
  | failed
  | running
  deriving DecidableEq, Repr

/-- `static_cast<int>` of a `double`: truncation toward zero. -/
def truncToInt {α : Type} [LinearOrderedRing α] [FloorRing α] (x : α) : Int :=
  if 0 ≤ x then ⌊x⌋ else ⌈x⌉

/-- What a cycle sends the robot: `stopRobot()` or `vel_pub_->publish(cmd_vel)`. -/
inductive VelocityCommand (α : Type)
  | stop
  | publish (cmdVel : Twist2D α)
  deriving DecidableEq, Repr

/-- One `onCycleUpdate`: the status, the poses handed to the collision checker in order, and the
command sent, if any. -/
structure CycleOutcome (α : Type) where
  status : Status
  checked : List (Pose2D α)
  command : Option (VelocityCommand α)
  deriving DecidableEq, Repr

/-- The state of `BackUp` its methods read and write. `cycleFrequency` and `collisionChecker` are
`cycle_frequency_` and `collision_checker_` of the `Recovery` base. -/
structure BackUp (α : Type) where
  cycleFrequency : α
  simulateAheadTime : α
  commandX : α
  initialPose : Pose2D α
  collisionChecker : Pose2D α → Bool

section Model

variable {α : Type} [LinearOrderedField α]

/-- The constructor: `simulate_ahead_time_` is 2.0 unless the parameter is set. `command_x_` and
`initial_pose_` are only read after `onRun` writes them. -/
def BackUp.new (cycleFrequency : α) (collisionChecker : Pose2D α → Bool)
    (simulateAheadTime : Option α) : BackUp α :=
  ⟨cycleFrequency, simulateAheadTime.getD 2, 0, default, collisionChecker⟩

/-- `BackUp::onRun`: records `command->target.x` (y and z only trigger a log line), then the
initial pose, or fails when that pose is not available. -/
def BackUp.onRun (b : BackUp α) (targetX : α) (currentPose : Option (Pose2D α)) :
    Status × BackUp α :=
  let b := { b with commandX := targetX }
  match currentPose with
  | none => (.failed, b)
  | some pose => (.succeeded, { b with initialPose := pose })

/-- The `while` loop of `BackUp::isCollisionFree`, entered at `cycle_count = cycleCount` with
`remaining` passes left before `cycle_count` reaches `max_cycle_count`. It returns the verdict
and the poses handed to `collision_checker_->isCollisionFree`, in order. -/
def simulateAhead (isFree : Pose2D α → Bool) (cmdVelX cycleFrequency diffDist : α) :
    Nat → Nat → Pose2D α → Bool × List (Pose2D α)
  | 0, _, _ => (true, [])
  | remaining + 1, cycleCount, pose2d =>
    let simPositionChange := cmdVelX * (cycleCount / cycleFrequency)
    let pose2d := { pose2d with x := pose2d.x + simPositionChange }
    if diffDist - |simPositionChange| ≤ 0 then (true, [])
    else if !isFree pose2d then (false, [pose2d])
    else
      let rest :=
        simulateAhead isFree cmdVelX cycleFrequency diffDist remaining (cycleCount + 1) pose2d
      (rest.1, pose2d :: rest.2)

/-- The `j`-th pose the loop builds when entered at `cycle_count = c` with `pose2d`: each pass adds
its `sim_position_change`, `v * (cycle_count / f)`, to x, and nothing else changes. -/
def driftPose (v f : α) (c : Nat) (pose2d : Pose2D α) (j : Nat) : Pose2D α :=
  { pose2d with x := pose2d.x + ∑ i in Finset.range (j + 1), v * ((c + i : Nat) / f) }

@[simp] theorem driftPose_zero (v f : α) (c : Nat) (pose2d : Pose2D α) :
    driftPose v f c pose2d 0 = { pose2d with x := pose2d.x + v * (c / f) } := by
  simp [driftPose]

theorem driftPose_succ (v f : α) (c j : Nat) (pose2d : Pose2D α) :
    driftPose v f c pose2d (j + 1) = driftPose v f (c + 1) (driftPose v f c pose2d 0) j := by
  have hshift : ∀ i ∈ Finset.range (j + 1),
      v * ((c + (i + 1) : Nat) / f) = v * ((c + 1 + i : Nat) / f) :=
    fun i _ => by rw [← Nat.add_assoc, Nat.add_right_comm]
  simp only [driftPose, Finset.sum_range_succ' _ (j + 1), zero_add, Finset.sum_range_one, add_zero,
    Finset.sum_congr rfl hshift]
  congr 1
  ring

/-- From the start of the loop the drift is the triangular number of passes: pose `k` lies
`v * k * (k + 1) / (2 * f)` along x, wherever the robot heads. -/
theorem driftPose_zero_x (v f : α) (pose2d : Pose2D α) (k : Nat) :
    (driftPose v f 0 pose2d k).x = pose2d.x + v * (k * (k + 1) / 2) / f := by
  induction k with
  | zero => simp [driftPose]
  | succ k ih =>
    simp only [driftPose, zero_add] at ih ⊢
    rw [Finset.sum_range_succ, ← add_assoc, ih]
    push_cast
    ring

section Loop

variable (isFree : Pose2D α → Bool) (v f d : α)

/-- What one pass of the loop does: it stops at the distance test, or stops after handing the
checker a pose in collision, or hands it a free pose and goes on. -/
theorem simulateAhead_succ (r c : Nat) (pose2d : Pose2D α) :
    (d - |v * (c / f)| ≤ 0 ∧ simulateAhead isFree v f d (r + 1) c pose2d = (true, [])) ∨
    (¬ d - |v * (c / f)| ≤ 0 ∧ isFree (driftPose v f c pose2d 0) = false ∧
      simulateAhead isFree v f d (r + 1) c pose2d = (false, [driftPose v f c pose2d 0])) ∨
    (¬ d - |v * (c / f)| ≤ 0 ∧ isFree (driftPose v f c pose2d 0) = true ∧
      simulateAhead isFree v f d (r + 1) c pose2d =
        ((simulateAhead isFree v f d r (c + 1) (driftPose v f c pose2d 0)).1,
          driftPose v f c pose2d 0 :: (simulateAhead isFree v f d r (c + 1) (driftPose v f c pose2d 0)).2)) := by
  rw [driftPose_zero]
  by_cases hd : d - |v * (c / f)| ≤ 0
  · exact .inl ⟨hd, if_pos hd⟩
  · cases hfree : isFree { pose2d with x := pose2d.x + v * (c / f) }
    · exact .inr (.inl ⟨hd, rfl, by simp only [simulateAhead, if_neg hd, hfree]; rfl⟩)
    · exact .inr (.inr ⟨hd, rfl, by simp only [simulateAhead, if_neg hd, hfree]; rfl⟩)

/-- The checked poses are a prefix of the drift sequence. -/
theorem simulateAhead_checked (r c : Nat) (pose2d : Pose2D α) :
    ∃ n, (simulateAhead isFree v f d r c pose2d).2 =
      (List.range n).map (driftPose v f c pose2d) := by
  induction r generalizing c pose2d with
  | zero => exact ⟨0, rfl⟩
  | succ r ih =>
    rcases simulateAhead_succ isFree v f d r c pose2d with ⟨-, h⟩ | ⟨-, -, h⟩ | ⟨-, -, h⟩ <;> rw [h]
    · exact ⟨0, rfl⟩
    · exact ⟨1, rfl⟩
    · obtain ⟨n, hn⟩ := ih (c + 1) (driftPose v f c pose2d 0)
      refine ⟨n + 1, ?_⟩
      rw [hn, List.range_succ_eq_map, List.map_cons, List.map_map]
      simp only [Function.comp_def, driftPose_succ]

theorem simulateAhead_length_le (r c : Nat) (pose2d : Pose2D α) :
    (simulateAhead isFree v f d r c pose2d).2.length ≤ r := by
  induction r generalizing c pose2d with
  | zero => exact le_rfl
  | succ r ih =>
    rcases simulateAhead_succ isFree v f d r c pose2d with ⟨-, h⟩ | ⟨-, -, h⟩ | ⟨-, -, h⟩ <;> rw [h]
    · exact Nat.zero_le _
    · exact Nat.succ_le_succ (Nat.zero_le _)
    · exact Nat.succ_le_succ (ih (c + 1) _)

/-- Every checked pose passed the distance test of its pass. -/
theorem simulateAhead_dist_pos (r c : Nat) (pose2d : Pose2D α) :
    ∀ j < (simulateAhead isFree v f d r c pose2d).2.length,
      0 < d - |v * ((c + j : Nat) / f)| := by
  induction r generalizing c pose2d with
  | zero => exact fun j hj => absurd hj (Nat.not_lt_zero j)
  | succ r ih =>
    intro j hj
    have hpass : ¬ d - |v * (c / f)| ≤ 0 → 0 < d - |v * ((c + 0 : Nat) / f)| := fun hd =>
      not_le.mp (by simpa using hd)
    rcases simulateAhead_succ isFree v f d r c pose2d with ⟨-, h⟩ | ⟨hd, -, h⟩ | ⟨hd, -, h⟩ <;>
      rw [h] at hj
    · exact absurd hj (Nat.not_lt_zero j)
    · rw [Nat.lt_one_iff.mp hj]
      exact hpass hd
    · cases j with
      | zero => exact hpass hd
      | succ j =>
        have := ih (c + 1) _ j (Nat.lt_of_succ_lt_succ hj)
        rwa [Nat.add_right_comm] at this

/-- The verdict is true exactly when every checked pose is free: the loop returns false right
after the first pose in collision. -/
theorem simulateAhead_fst_eq_all (r c : Nat) (pose2d : Pose2D α) :
    (simulateAhead isFree v f d r c pose2d).1 =
      (simulateAhead isFree v f d r c pose2d).2.all isFree := by
  induction r generalizing c pose2d with
  | zero => rfl
  | succ r ih =>
    rcases simulateAhead_succ isFree v f d r c pose2d with ⟨-, h⟩ | ⟨-, hfree, h⟩ | ⟨-, hfree, h⟩ <;>
      rw [h]
    · rfl
    · rw [List.all_cons, hfree, Bool.false_and]
    · rw [List.all_cons, hfree, Bool.true_and, ih]

/-- A loop that returns true before `max_cycle_count` passes left at the distance test. -/
theorem simulateAhead_stops (r c : Nat) (pose2d : Pose2D α)
    (hshort : (simulateAhead isFree v f d r c pose2d).2.length < r)
    (hfree : (simulateAhead isFree v f d r c pose2d).1 = true) :
    d - |v * ((c + (simulateAhead isFree v f d r c pose2d).2.length : Nat) / f)| ≤ 0 := by
  induction r generalizing c pose2d with
  | zero => exact absurd hshort (Nat.not_lt_zero _)
  | succ r ih =>
    rcases simulateAhead_succ isFree v f d r c pose2d with ⟨hd, h⟩ | ⟨-, -, h⟩ | ⟨-, -, h⟩ <;>
      rw [h] at hshort hfree ⊢
    · simpa using hd
    · cases hfree
    · have := ih (c + 1) _ (Nat.lt_of_succ_lt_succ hshort) hfree
      rwa [List.length_cons, ← Nat.add_assoc, Nat.add_right_comm]

/-- When every pass up to `max_cycle_count` passes the distance test and finds its pose free, the
loop checks all `r` drift poses and returns true. -/
theorem simulateAhead_complete (r c : Nat) (pose2d : Pose2D α)
    (hdist : ∀ j < r, 0 < d - |v * ((c + j : Nat) / f)|)
    (hfree : ∀ j < r, isFree (driftPose v f c pose2d j) = true) :
    simulateAhead isFree v f d r c pose2d = (true, (List.range r).map (driftPose v f c pose2d)) := by
  obtain ⟨n, hn⟩ := simulateAhead_checked isFree v f d r c pose2d
  have hlen : (simulateAhead isFree v f d r c pose2d).2.length = n := by simp [hn]
  have hle : n ≤ r := hlen ▸ simulateAhead_length_le isFree v f d r c pose2d
  have hall : (simulateAhead isFree v f d r c pose2d).1 = true := by
    rw [simulateAhead_fst_eq_all, hn]
    simpa using fun j hj => hfree j (by omega)
  have hnr : n = r := by
    by_contra hne
    have hstop := simulateAhead_stops isFree v f d r c pose2d (by omega) hall
    rw [hlen] at hstop
    exact absurd hstop (not_le.mpr (hdist n (by omega)))
  exact Prod.ext hall (hn.trans (by rw [hnr]))

end Loop

variable [FloorRing α]

/-- `BackUp::isCollisionFree`. -/
def BackUp.isCollisionFree (b : BackUp α) (distance : α) (cmdVel : Twist2D α)
    (pose2d : Pose2D α) : Bool × List (Pose2D α) :=
  let diffDist := |b.commandX| - distance
  let maxCycleCount := truncToInt (b.cycleFrequency * b.simulateAheadTime)
  simulateAhead b.collisionChecker cmdVel.x b.cycleFrequency diffDist maxCycleCount.toNat 0 pose2d

/-- `BackUp::onCycleUpdate`, with `sqrt` the square root the distance is taken with. -/
def BackUp.onCycleUpdate (b : BackUp α) (sqrt : α → α) (currentPose : Option (Pose2D α)) :
    CycleOutcome α :=
  match currentPose with
  | none => ⟨.failed, [], none⟩
  | some current =>
    let diffX := b.initialPose.x - current.x
    let diffY := b.initialPose.y - current.y
    let distance := sqrt (diffX * diffX + diffY * diffY)
    if distance ≥ |b.commandX| then ⟨.succeeded, [], some .stop⟩
    else
      let cmdVel : Twist2D α := ⟨if b.commandX < 0 then -0.025 else 0.025, 0, 0⟩
      let pose2d : Pose2D α := ⟨current.x, current.y, current.theta⟩
      let result := b.isCollisionFree distance cmdVel pose2d
      if !result.1 then ⟨.succeeded, result.2, some .stop⟩
      else ⟨.running, result.2, some (.publish cmdVel)⟩

/-- **What `isCollisionFree` checks.** It hands the collision checker the first `n` drift poses
from the given pose, for some `n` up to `max_cycle_count`, and the step `v * (k / f)` of each of
those passes is short of the remaining distance `|command_x_| - distance`. It returns true
exactly when every checked pose is free, and when it returns true after fewer than
`max_cycle_count` passes, the step of the next pass reaches the remaining distance. -/
theorem isCollisionFree_spec (b : BackUp α) (distance : α) (cmdVel : Twist2D α)
    (pose2d : Pose2D α) :
    ∃ n ≤ (truncToInt (b.cycleFrequency * b.simulateAheadTime)).toNat,
      (b.isCollisionFree distance cmdVel pose2d).2 =
        (List.range n).map (driftPose cmdVel.x b.cycleFrequency 0 pose2d) ∧
      (b.isCollisionFree distance cmdVel pose2d).1 =
        (b.isCollisionFree distance cmdVel pose2d).2.all b.collisionChecker ∧
      (∀ j < n, |cmdVel.x * (j / b.cycleFrequency)| < |b.commandX| - distance) ∧
      ((b.isCollisionFree distance cmdVel pose2d).1 = true →
        n < (truncToInt (b.cycleFrequency * b.simulateAheadTime)).toNat →
        |b.commandX| - distance ≤ |cmdVel.x * (n / b.cycleFrequency)|) := by
  obtain ⟨n, hn⟩ := simulateAhead_checked b.collisionChecker cmdVel.x b.cycleFrequency
    (|b.commandX| - distance) (truncToInt (b.cycleFrequency * b.simulateAheadTime)).toNat 0 pose2d
  have hlen : (b.isCollisionFree distance cmdVel pose2d).2.length = n := by
    simp [BackUp.isCollisionFree, hn]
  refine ⟨n, hlen ▸ simulateAhead_length_le _ _ _ _ _ _ _, hn, simulateAhead_fst_eq_all _ _ _ _ _ _ _,
    fun j hj => ?_, fun hfree hshort => ?_⟩
  · have hpass := simulateAhead_dist_pos b.collisionChecker cmdVel.x b.cycleFrequency
      (|b.commandX| - distance) _ 0 pose2d j (hlen.symm ▸ hj)
    rw [Nat.zero_add] at hpass
    exact sub_pos.mp hpass
  · have hstop := simulateAhead_stops _ _ _ _ _ _ _ (hlen.symm ▸ hshort) hfree
    rw [BackUp.isCollisionFree] at hlen
    rw [hlen] at hstop
    simpa [sub_nonpos] using hstop

/-- A cycle publishes a velocity only when the robot is short of `|command_x_|` and every pose it
handed the collision checker was free. The velocity is 0.025 m/s along x, backwards when
`command_x_` is negative. Every other cycle fails, or stops the robot and succeeds. -/
theorem onCycleUpdate_publish (b : BackUp α) (sqrt : α → α) (currentPose : Option (Pose2D α))
    (cmdVel : Twist2D α)
    (h : (b.onCycleUpdate sqrt currentPose).command = some (.publish cmdVel)) :
    (b.onCycleUpdate sqrt currentPose).status = .running ∧
      (∀ q ∈ (b.onCycleUpdate sqrt currentPose).checked, b.collisionChecker q = true) ∧
      cmdVel = ⟨if b.commandX < 0 then -0.025 else 0.025, 0, 0⟩ ∧
      ∃ current, currentPose = some current ∧
        sqrt ((b.initialPose.x - current.x) * (b.initialPose.x - current.x) +
          (b.initialPose.y - current.y) * (b.initialPose.y - current.y)) < |b.commandX| := by
  cases currentPose with
  | none => simp [BackUp.onCycleUpdate] at h
  | some current =>
    simp only [BackUp.onCycleUpdate] at h ⊢
    generalize (if b.commandX < 0 then (-0.025 : α) else 0.025) = vx at h ⊢
    split_ifs at h ⊢ with hfar hfree
    · simp at h
    · simp at h
    · simp only [Option.some.injEq, VelocityCommand.publish.injEq] at h
      simp only [Bool.not_eq_true', Bool.not_eq_false] at hfree
      rw [BackUp.isCollisionFree, simulateAhead_fst_eq_all, List.all_eq_true] at hfree
      exact ⟨rfl, fun q hq => by simpa using hfree q hq, h.symm, current, rfl, not_le.mp hfar⟩

/-- The robot 0.5 m from its start, backing up 1 m at 10 Hz with 2 s simulated ahead, and every
pose from x = 1 m on in collision: the 20 poses checked stay below x = 0.775 m, and the cycle
publishes. -/
theorem onCycleUpdate_publish_sample :
    let b : BackUp ℝ := ⟨10, 2, 1, ⟨0, 0, 0⟩, fun q => decide (q.x < 1)⟩
    (b.onCycleUpdate Real.sqrt (some ⟨3 / 10, 2 / 5, 0⟩)).command = some (.publish ⟨1 / 40, 0, 0⟩) ∧
      (b.onCycleUpdate Real.sqrt (some ⟨3 / 10, 2 / 5, 0⟩)).status = .running ∧
      (∀ q ∈ (b.onCycleUpdate Real.sqrt (some ⟨3 / 10, 2 / 5, 0⟩)).checked,
        b.collisionChecker q = true) ∧
      (⟨1 / 40, 0, 0⟩ : Twist2D ℝ) = ⟨if b.commandX < 0 then -0.025 else 0.025, 0, 0⟩ ∧
      ∃ current, some (⟨3 / 10, 2 / 5, 0⟩ : Pose2D ℝ) = some current ∧
        Real.sqrt ((b.initialPose.x - current.x) * (b.initialPose.x - current.x) +
          (b.initialPose.y - current.y) * (b.initialPose.y - current.y)) < |b.commandX| := by
  intro b
  have hdist : Real.sqrt ((0 - 3 / 10) * (0 - 3 / 10) + (0 - 2 / 5) * (0 - 2 / 5)) = (1 / 2 : ℝ) := by
    rw [show ((0 : ℝ) - 3 / 10) * (0 - 3 / 10) + (0 - 2 / 5) * (0 - 2 / 5) = 1 / 2 * (1 / 2) by
      norm_num]
    exact Real.sqrt_mul_self (by norm_num)
  have htrunc : (truncToInt ((10 : ℝ) * 2)).toNat = 20 := by norm_num [truncToInt]; rfl
  have hfree : ∀ v : ℝ, v = 1 / 40 → ∀ d,
      (simulateAhead b.collisionChecker v 10 d 20 0 ⟨3 / 10, 2 / 5, 0⟩).1 = true := by
    rintro v rfl d
    obtain ⟨n, hn⟩ := simulateAhead_checked b.collisionChecker (1 / 40 : ℝ) 10 d 20 0 ⟨3 / 10, 2 / 5, 0⟩
    have hlen := simulateAhead_length_le b.collisionChecker (1 / 40 : ℝ) 10 d 20 0 ⟨3 / 10, 2 / 5, 0⟩
    rw [simulateAhead_fst_eq_all, hn]
    rw [hn, List.length_map, List.length_range] at hlen
    simp only [List.all_eq_true, b, decide_eq_true_eq]
    intro q hq
    obtain ⟨k, hk, rfl⟩ := List.mem_map.mp hq
    rw [List.mem_range] at hk
    rw [driftPose_zero_x]
    have hk' : (k : ℝ) ≤ 19 := by exact_mod_cast (by omega : k ≤ 19)
    have hk0 : (0 : ℝ) ≤ k := k.cast_nonneg
    nlinarith
  have h : (b.onCycleUpdate Real.sqrt (some ⟨3 / 10, 2 / 5, 0⟩)).command =
      some (.publish ⟨1 / 40, 0, 0⟩) := by
    simp only [BackUp.onCycleUpdate, BackUp.isCollisionFree, htrunc, hdist]
    norm_num [hfree]
  exact ⟨h, onCycleUpdate_publish b Real.sqrt _ _ h⟩

/-- **How a cycle ends.** A cycle fails exactly when the current pose is not available, and then
sends nothing. Any other cycle either stops the robot and succeeds, or publishes a velocity and
keeps running. It succeeds exactly when the robot is `|command_x_|` from its initial pose, or
the collision checker found a pose in collision: a collision ahead ends the recovery with
SUCCEEDED, never FAILED. -/
theorem onCycleUpdate_outcome (b : BackUp α) (sqrt : α → α) (currentPose : Option (Pose2D α)) :
    let out := b.onCycleUpdate sqrt currentPose
    (out.status = .failed ↔ currentPose = none) ∧
    (out.status = .failed ∧ out.command = none ∨ out.status = .succeeded ∧ out.command = some .stop ∨
      out.status = .running ∧ ∃ cmdVel, out.command = some (.publish cmdVel)) ∧
    ∀ current, currentPose = some current →
      (out.status = .succeeded ↔
        |b.commandX| ≤ sqrt ((b.initialPose.x - current.x) * (b.initialPose.x - current.x) +
          (b.initialPose.y - current.y) * (b.initialPose.y - current.y)) ∨
        ∃ q ∈ out.checked, b.collisionChecker q = false) := by
  intro out
  cases currentPose with
  | none => exact ⟨iff_of_true rfl rfl, .inl ⟨rfl, rfl⟩, fun _ h => by cases h⟩
  | some current =>
    simp only [out, BackUp.onCycleUpdate, Option.some.injEq, forall_eq']
    generalize (if b.commandX < 0 then (-0.025 : α) else 0.025) = vx
    rw [BackUp.isCollisionFree, simulateAhead_fst_eq_all]
    by_cases hfar : |b.commandX| ≤
        sqrt ((b.initialPose.x - current.x) * (b.initialPose.x - current.x) +
          (b.initialPose.y - current.y) * (b.initialPose.y - current.y))
    · rw [if_pos hfar]
      exact ⟨by simp, .inr (.inl ⟨rfl, rfl⟩), iff_of_true rfl (.inl hfar)⟩
    rw [if_neg hfar]
    split_ifs with hfree
    · simp only [Bool.not_eq_true', List.all_eq_false, Bool.not_eq_true] at hfree
      exact ⟨by simp, .inr (.inl ⟨rfl, rfl⟩), iff_of_true rfl (.inr hfree)⟩
    · simp only [Bool.not_eq_true', Bool.not_eq_false, List.all_eq_true] at hfree
      refine ⟨by simp, .inr (.inr ⟨rfl, _, rfl⟩), iff_of_false (by simp) ?_⟩
      rintro (h | ⟨q, hq, hcoll⟩)
      · exact hfar h
      · simp [hfree q hq] at hcoll

end Model

/-- **The simulated poses ignore the heading and accelerate.** Cycle frequency 10 Hz,
simulate-ahead time 2 s, `command_x_` 1 m, the robot still at its initial pose (0, 0, π/2), and
a checker that finds every pose free. The cycle checks 20 poses. The k-th lies at
x = 0.025 * k * (k + 1) / 20 on the x axis, not 0.025 * k / 10 along the heading. -/
theorem isCollisionFree_ignores_heading :
    let b : BackUp ℝ := ⟨10, 2, 1, ⟨0, 0, Real.pi / 2⟩, fun _ => true⟩
    let out := b.onCycleUpdate Real.sqrt (some ⟨0, 0, Real.pi / 2⟩)
    out.status = .running ∧
      out.checked = (List.range 20).map (fun k => ⟨k * (k + 1) / 800, 0, Real.pi / 2⟩) ∧
      out.checked[1]? ≠ some ⟨0 + 0.025 * (1 / 10) * Real.cos (Real.pi / 2),
        0 + 0.025 * (1 / 10) * Real.sin (Real.pi / 2), Real.pi / 2⟩ := by
  have htrunc : truncToInt ((10 : ℝ) * 2) = 20 := by norm_num [truncToInt]
  have hdist : ∀ j < 20, (0 : ℝ) < 1 - |(0.025 : ℝ) * (((0 + j : Nat) : ℝ) / 10)| := fun j hj => by
    have hj' : (j : ℝ) < 20 := by exact_mod_cast hj
    rw [Nat.zero_add, abs_of_nonneg (by positivity)]
    linarith
  have hrun := simulateAhead_complete (fun _ => true) 0.025 10 1 20 0 ⟨0, 0, Real.pi / 2⟩ hdist
    fun _ _ => rfl
  have hposes : (List.range 20).map (driftPose (0.025 : ℝ) 10 0 ⟨0, 0, Real.pi / 2⟩) =
      (List.range 20).map (fun k => ⟨k * (k + 1) / 800, 0, Real.pi / 2⟩) :=
    List.map_congr_left fun k _ => by
      show (⟨(driftPose (0.025 : ℝ) 10 0 ⟨0, 0, Real.pi / 2⟩ k).x, 0, Real.pi / 2⟩ : Pose2D ℝ) = _
      rw [driftPose_zero_x]
      congr 1
      ring
  have h20 : (20 : Int).toNat = 20 := rfl
  simp only [BackUp.onCycleUpdate, BackUp.isCollisionFree, htrunc, h20, sub_self, mul_zero,
    add_zero, sub_zero, Real.sqrt_zero, abs_one, ge_iff_le, not_le.mpr zero_lt_one,
    not_lt.mpr zero_le_one, if_false, hrun, hposes, Bool.not_true, Bool.false_eq_true, true_and]
  norm_num [Real.cos_pi_div_two]

end Nav2Recoveries
