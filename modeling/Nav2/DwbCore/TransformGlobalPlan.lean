import Nav2.DwbCore.Scoring

/-!
# Windowing and pruning the global plan

The state of `DWBLocalPlanner` and `DWBLocalPlanner::transformGlobalPlan`, which cuts the part
of the stored global plan near the robot out of it. With `prune_plan` on, it also erases from the
stored plan every pose before the window. The only field any operation changes is `globalPlan`.

Frame transforms are a partial oracle `tf frame stampedPose`. On failure the caller's output
variable keeps the value it had, as it does in `nav_2d_utils::transformPose`.

Main results: `transformGlobalPlan_window` gives the window over the reals, and
`transformGlobalPlan_idempotent` says that a second call at the same pose changes nothing.
`transformGlobalPlan_erases_whole_plan` shows that pruning can erase the whole plan, goal
included, when no pose is near the robot.
-/

namespace DwbCore
open Nav2dMsgs DwbMsgs NavCore2

/-- What the planner reads of `costmap_ros_`. -/
structure CostmapInfo (α : Type) where
  sizeInCellsX : Nat
  sizeInCellsY : Nat
  resolution : α
  globalFrameID : String

/-- A goal checker plugin. -/
structure GoalChecker (α : Type) where
  isGoalReached : Pose2D α → Pose2D α → Twist2D α → Bool

/-- `DWBLocalPlanner`: its plugins, collaborators and parameters, and the stored plan
`global_plan_`. -/
structure DWBLocalPlanner (α : Type) where
  tf : String → Pose2DStamped α → Option (Pose2DStamped α)
  costmap : CostmapInfo α
  trajGenerator : TrajectoryGenerator α
  goalChecker : GoalChecker α
  critics : List (TrajectoryCritic α)
  prunePlan : Bool
  pruneDistance : α
  globalPlan : Path2D α

namespace DWBLocalPlanner

variable {α : Type} {p : DWBLocalPlanner α} {n : Nat}

/-- `global_plan_.poses.erase(begin(global_plan_.poses), begin + n)`. -/
def pruneTo (p : DWBLocalPlanner α) (n : Nat) : DWBLocalPlanner α :=
  { p with globalPlan := { p.globalPlan with poses := p.globalPlan.poses.drop n } }

@[simp] theorem pruneTo_poses : (p.pruneTo n).globalPlan.poses = p.globalPlan.poses.drop n := rfl
@[simp] theorem pruneTo_frameId : (p.pruneTo n).globalPlan.frameId = p.globalPlan.frameId := rfl
@[simp] theorem pruneTo_tf : (p.pruneTo n).tf = p.tf := rfl
@[simp] theorem pruneTo_costmap : (p.pruneTo n).costmap = p.costmap := rfl
@[simp] theorem pruneTo_prunePlan : (p.pruneTo n).prunePlan = p.prunePlan := rfl
@[simp] theorem pruneTo_pruneDistance : (p.pruneTo n).pruneDistance = p.pruneDistance := rfl
@[simp] theorem pruneTo_critics : (p.pruneTo n).critics = p.critics := rfl
@[simp] theorem pruneTo_trajGenerator : (p.pruneTo n).trajGenerator = p.trajGenerator := rfl
@[simp] theorem pruneTo_goalChecker : (p.pruneTo n).goalChecker = p.goalChecker := rfl
@[simp] theorem pruneTo_zero : p.pruneTo 0 = p := rfl

end DWBLocalPlanner

variable {α : Type} [LinearOrderedField α]

/-- `getSquareDistance`. -/
def getSquareDistance (poseA poseB : Pose2D α) : α :=
  let xDiff := poseA.x - poseB.x
  let yDiff := poseA.y - poseB.y
  xDiff * xDiff + yDiff * yDiff

namespace DWBLocalPlanner

/-- `dist_threshold`: half the larger side of the local costmap. -/
def distThreshold (p : DWBLocalPlanner α) : α :=
  (max p.costmap.sizeInCellsX p.costmap.sizeInCellsY : Nat) * p.costmap.resolution / 2

/-- `sq_transform_start_threshold`. -/
def sqTransformStartThreshold (p : DWBLocalPlanner α) : α :=
  if p.prunePlan then min (p.distThreshold * p.distThreshold) (p.pruneDistance * p.pruneDistance)
  else p.distThreshold * p.distThreshold

/-- `sq_transform_end_threshold`. -/
def sqTransformEndThreshold (p : DWBLocalPlanner α) : α :=
  let shortenTransformedPlan := true
  if shortenTransformedPlan then
    min (p.distThreshold * p.distThreshold) (p.pruneDistance * p.pruneDistance)
  else p.distThreshold * p.distThreshold

/-- The iterator `transformation_begin`, as an index: the first pose strictly within the start
threshold of the robot. -/
def transformationBegin (p : DWBLocalPlanner α) (robot : Pose2D α) : Nat :=
  p.globalPlan.poses.findIdx fun q => getSquareDistance robot q < p.sqTransformStartThreshold

/-- The iterator `transformation_end`, as an index: the first pose from `transformation_begin`
on that lies farther than the end threshold. -/
def transformationEnd (p : DWBLocalPlanner α) (robot : Pose2D α) : Nat :=
  p.transformationBegin robot + (p.globalPlan.poses.drop (p.transformationBegin robot)).findIdx
    fun q => getSquareDistance robot q > p.sqTransformEndThreshold

/-- The poses from `transformation_begin` up to `transformation_end`, before the transform. -/
def windowPoses (p : DWBLocalPlanner α) (robot : Pose2D α) : List (Pose2D α) :=
  (p.globalPlan.poses.drop (p.transformationBegin robot)).take
    (p.transformationEnd robot - p.transformationBegin robot)

/-- The lambda `transformGlobalPoseToLocal`. A failed transform leaves the default-constructed
`transformed_pose`. -/
def transformGlobalPoseToLocal (p : DWBLocalPlanner α) (q : Pose2D α) : Pose2D α :=
  ((p.tf p.costmap.globalFrameID ⟨p.globalPlan.frameId, q⟩).getD default).pose

end DWBLocalPlanner

open DWBLocalPlanner

/-- `DWBLocalPlanner::transformGlobalPlan`: the result or the exception, and the planner after
the call. Pruning happens before the final emptiness check, so it also happens when the call
throws there. -/
def transformGlobalPlan (p : DWBLocalPlanner α) (pose : Pose2DStamped α) :
    Except PlannerException (Path2D α) × DWBLocalPlanner α :=
  if p.globalPlan.poses.length = 0 then
    (.error (.plannerException "Received plan with zero length"), p)
  else
    match p.tf p.globalPlan.frameId pose with
    | none =>
      (.error (.plannerTFException "Unable to transform robot pose into global plan's frame"), p)
    | some robotPose =>
      let transformedPlan : Path2D α :=
        ⟨p.costmap.globalFrameID, (p.windowPoses robotPose.pose).map p.transformGlobalPoseToLocal⟩
      let p' := if p.prunePlan then p.pruneTo (p.transformationBegin robotPose.pose) else p
      if transformedPlan.poses.length = 0 then
        (.error (.plannerException "Resulting plan has 0 poses in it."), p')
      else (.ok transformedPlan, p')

-- ════════════════════════════════════════════════════════════════════════
-- The three outcomes of `transformGlobalPlan`
-- ════════════════════════════════════════════════════════════════════════

variable {p : DWBLocalPlanner α} {pose : Pose2DStamped α} {robotPose : Pose2DStamped α}
  {n : Nat} {robot : Pose2D α}

@[simp] theorem transformGlobalPoseToLocal_pruneTo :
    (p.pruneTo n).transformGlobalPoseToLocal = p.transformGlobalPoseToLocal := rfl

@[simp] theorem sqTransformStartThreshold_pruneTo :
    (p.pruneTo n).sqTransformStartThreshold = p.sqTransformStartThreshold := rfl

@[simp] theorem sqTransformEndThreshold_pruneTo :
    (p.pruneTo n).sqTransformEndThreshold = p.sqTransformEndThreshold := rfl

theorem transformGlobalPlan_of_nil (h : p.globalPlan.poses = []) :
    transformGlobalPlan p pose = (.error (.plannerException "Received plan with zero length"), p) := by
  simp [transformGlobalPlan, h]

theorem transformGlobalPlan_of_tf_none (hne : p.globalPlan.poses ≠ [])
    (h : p.tf p.globalPlan.frameId pose = none) :
    transformGlobalPlan p pose =
      (.error (.plannerTFException "Unable to transform robot pose into global plan's frame"), p) := by
  simp [transformGlobalPlan, hne, h]

theorem transformGlobalPlan_of_tf_some (hne : p.globalPlan.poses ≠ [])
    (h : p.tf p.globalPlan.frameId pose = some robotPose) :
    transformGlobalPlan p pose =
      (if p.windowPoses robotPose.pose = [] then
        .error (.plannerException "Resulting plan has 0 poses in it.")
      else .ok ⟨p.costmap.globalFrameID, (p.windowPoses robotPose.pose).map p.transformGlobalPoseToLocal⟩,
      if p.prunePlan then p.pruneTo (p.transformationBegin robotPose.pose) else p) := by
  simp only [transformGlobalPlan, List.length_eq_zero, hne, if_false, h, List.length_map]
  split_ifs <;> rfl

/-- **What a call can do to the planner**: erase a prefix of the stored plan, and nothing
else. -/
theorem transformGlobalPlan_snd_eq_pruneTo (p : DWBLocalPlanner α) (pose : Pose2DStamped α) :
    ∃ n, (transformGlobalPlan p pose).2 = p.pruneTo n := by
  by_cases hne : p.globalPlan.poses = []
  · exact ⟨0, by simp [transformGlobalPlan_of_nil hne]⟩
  cases htf : p.tf p.globalPlan.frameId pose with
  | none => exact ⟨0, by simp [transformGlobalPlan_of_tf_none hne htf]⟩
  | some r =>
    rw [transformGlobalPlan_of_tf_some hne htf]
    cases p.prunePlan
    · exact ⟨0, rfl⟩
    · exact ⟨_, rfl⟩

/-- A call that returns normally leaves a non-empty stored plan, so the goal can be read off its
last pose. -/
theorem globalPlan_ne_nil_of_transformGlobalPlan_ok {path : Path2D α}
    (h : (transformGlobalPlan p pose).1 = .ok path) :
    (transformGlobalPlan p pose).2.globalPlan.poses ≠ [] := by
  by_cases hne : p.globalPlan.poses = []
  · simp [transformGlobalPlan_of_nil hne] at h
  cases htf : p.tf p.globalPlan.frameId pose with
  | none => simp [transformGlobalPlan_of_tf_none hne htf] at h
  | some r =>
    rw [transformGlobalPlan_of_tf_some hne htf] at h ⊢
    have hw : p.windowPoses r.pose ≠ [] := fun hw => by simp [hw] at h
    cases p.prunePlan
    · exact hne
    · exact fun hd => hw (by
        simp only [windowPoses, List.drop_eq_nil_of_le (by simpa using hd), List.take_nil])

-- ════════════════════════════════════════════════════════════════════════
-- The window as two scans
-- ════════════════════════════════════════════════════════════════════════

theorem drop_findIdx {β : Type} (l : List β) (P : β → Bool) :
    l.drop (l.findIdx P) = l.dropWhile fun x => !P x := by
  induction l with
  | nil => rfl
  | cons x l ih => cases h : P x <;> simp [List.findIdx_cons, h, ih]

theorem take_findIdx {β : Type} (l : List β) (P : β → Bool) :
    l.take (l.findIdx P) = l.takeWhile fun x => !P x := by
  induction l with
  | nil => rfl
  | cons x l ih => cases h : P x <;> simp [List.findIdx_cons, h, ih]

/-- The window is the catch-up scan followed by the horizon scan. -/
theorem windowPoses_eq : p.windowPoses robot =
    (p.globalPlan.poses.dropWhile fun q => !decide (getSquareDistance robot q <
      p.sqTransformStartThreshold)).takeWhile
      fun q => !decide (getSquareDistance robot q > p.sqTransformEndThreshold) := by
  rw [windowPoses, transformationEnd, Nat.add_sub_cancel_left, take_findIdx, transformationBegin,
    drop_findIdx]

theorem transformationBegin_le : p.transformationBegin robot ≤ p.globalPlan.poses.length :=
  List.findIdx_le_length _

/-- After pruning to the catch-up pose, the catch-up pose is the head of the stored plan. -/
theorem transformationBegin_pruneTo_self
    (hlt : p.transformationBegin robot < p.globalPlan.poses.length) :
    (p.pruneTo (p.transformationBegin robot)).transformationBegin robot = 0 := by
  have hhead := List.findIdx_getElem (w := hlt)
  simp only [transformationBegin, sqTransformStartThreshold_pruneTo, pruneTo_poses] at hlt hhead ⊢
  rw [List.drop_eq_getElem_cons hlt, List.findIdx_cons, hhead, cond_true]

theorem windowPoses_pruneTo_self (hlt : p.transformationBegin robot < p.globalPlan.poses.length) :
    (p.pruneTo (p.transformationBegin robot)).windowPoses robot = p.windowPoses robot := by
  simp only [windowPoses, transformationEnd, transformationBegin_pruneTo_self hlt,
    Nat.add_sub_cancel_left, List.drop_zero, pruneTo_poses, sqTransformEndThreshold_pruneTo]

theorem windowPoses_of_begin_eq (heq : p.transformationBegin robot = p.globalPlan.poses.length) :
    p.windowPoses robot = [] := by
  simp [windowPoses, heq]

/-- **Windowing twice at the same pose changes nothing.** The second call returns the same
local path, or throws again, and leaves the stored plan as the first call left it. -/
theorem transformGlobalPlan_idempotent (p : DWBLocalPlanner α) (pose : Pose2DStamped α) :
    (transformGlobalPlan (transformGlobalPlan p pose).2 pose).2 = (transformGlobalPlan p pose).2 ∧
    (∀ path, (transformGlobalPlan p pose).1 = .ok path →
      (transformGlobalPlan (transformGlobalPlan p pose).2 pose).1 = .ok path) ∧
    ((transformGlobalPlan p pose).1.isOk = false →
      (transformGlobalPlan (transformGlobalPlan p pose).2 pose).1.isOk = false) := by
  by_cases hne : p.globalPlan.poses = []
  · simp [transformGlobalPlan_of_nil hne]
  cases htf : p.tf p.globalPlan.frameId pose with
  | none => simp [transformGlobalPlan_of_tf_none hne htf]
  | some r =>
    rw [transformGlobalPlan_of_tf_some hne htf]
    cases hprune : p.prunePlan
    · simp [transformGlobalPlan_of_tf_some hne htf, hprune]
    rcases (show p.transformationBegin r.pose ≤ _ from transformationBegin_le).lt_or_eq with
      hlt | heq
    · have hne' : (p.pruneTo (p.transformationBegin r.pose)).globalPlan.poses ≠ [] := by
        simp [List.drop_eq_nil_iff]; omega
      simp [transformGlobalPlan_of_tf_some hne' (by simpa using htf), hprune,
        transformationBegin_pruneTo_self hlt, windowPoses_pruneTo_self hlt]
    · have hnil : (p.pruneTo (p.transformationBegin r.pose)).globalPlan.poses = [] := by
        simp [heq]
      simp [transformGlobalPlan_of_nil hnil, windowPoses_of_begin_eq heq]

-- ════════════════════════════════════════════════════════════════════════
-- The window over real distances
-- ════════════════════════════════════════════════════════════════════════

/-- Transforms that keep every pose and relabel it into the requested frame. -/
def identityTransform : String → Pose2DStamped α → Option (Pose2DStamped α) :=
  fun frame q => some ⟨frame, q.pose⟩

/-- The horizon threshold, in metres: half the larger costmap side, capped by the prune
distance. The code compares squares, so signs do not matter. -/
def windowEndThreshold (p : DWBLocalPlanner α) : α := min |p.distThreshold| |p.pruneDistance|

/-- The catch-up threshold, in metres: capped by the prune distance only when `prune_plan` is
on. -/
def windowStartThreshold (p : DWBLocalPlanner α) : α :=
  if p.prunePlan then windowEndThreshold p else |p.distThreshold|

/-- `window` is the local window of `poses` around `robot`, over real distances. The poses
before it are not strictly within `startThr` of the robot; it starts at the first one that is
(the catch-up pose); it holds no pose farther than `endThr`; and the pose after it, if any, is
farther than `endThr` (the horizon pose). -/
def IsLocalWindow (poses : List (Pose2D ℝ)) (robot : Pose2D ℝ) (startThr endThr : ℝ)
    (window : List (Pose2D ℝ)) : Prop :=
  ∃ before after, poses = before ++ window ++ after ∧
    (∀ q ∈ before, ¬√(getSquareDistance robot q) < startThr) ∧
    (∀ q ∈ (window ++ after).head?, √(getSquareDistance robot q) < startThr) ∧
    (∀ q ∈ window, ¬√(getSquareDistance robot q) > endThr) ∧
    (∀ q ∈ after.head?, √(getSquareDistance robot q) > endThr)

theorem getSquareDistance_nonneg (a b : Pose2D α) : 0 ≤ getSquareDistance a b :=
  add_nonneg (mul_self_nonneg _) (mul_self_nonneg _)

theorem min_mul_self_eq_sq (a b : α) : min (a * a) (b * b) = min |a| |b| ^ 2 := by
  rw [← abs_mul_abs_self a, ← abs_mul_abs_self b]
  rcases le_total |a| |b| with h | h
  · rw [min_eq_left h, min_eq_left (mul_self_le_mul_self (abs_nonneg a) h), sq]
  · rw [min_eq_right h, min_eq_right (mul_self_le_mul_self (abs_nonneg b) h), sq]

theorem sqTransformEndThreshold_eq : p.sqTransformEndThreshold = windowEndThreshold p ^ 2 :=
  min_mul_self_eq_sq _ _

theorem sqTransformStartThreshold_eq : p.sqTransformStartThreshold = windowStartThreshold p ^ 2 := by
  unfold sqTransformStartThreshold windowStartThreshold
  split_ifs
  · exact sqTransformEndThreshold_eq
  · rw [← abs_mul_abs_self, sq]

theorem windowEndThreshold_nonneg : 0 ≤ windowEndThreshold p :=
  le_min (abs_nonneg _) (abs_nonneg _)

theorem windowStartThreshold_nonneg : 0 ≤ windowStartThreshold p := by
  unfold windowStartThreshold; split_ifs
  · exact windowEndThreshold_nonneg
  · exact abs_nonneg _

/-- The catch-up scan followed by the horizon scan splits a list into the part before the
catch-up element, the window, and the rest. -/
theorem scans_split {β : Type} (l : List β) (S E : β → Bool) :
    ∃ before after, l = before ++ (l.dropWhile fun x => !S x).takeWhile (fun x => !E x) ++ after ∧
      (∀ x ∈ before, S x = false) ∧
      (∀ x ∈ ((l.dropWhile fun x => !S x).takeWhile (fun x => !E x) ++ after).head?, S x = true) ∧
      (∀ x ∈ (l.dropWhile fun x => !S x).takeWhile (fun x => !E x), E x = false) ∧
      (∀ x ∈ after.head?, E x = true) := by
  refine ⟨l.takeWhile (fun x => !S x), (l.dropWhile fun x => !S x).dropWhile (fun x => !E x),
    by simp, fun x hx => by simpa using List.mem_takeWhile_imp hx, fun x hx => ?_,
    fun x hx => by simpa using List.mem_takeWhile_imp hx, fun x hx => ?_⟩
  · have h := List.head?_dropWhile_not (fun x => !S x) l
    rw [List.takeWhile_append_dropWhile] at hx
    rw [Option.mem_def.mp hx] at h
    simpa using h
  · have h := List.head?_dropWhile_not (fun x => !E x) (l.dropWhile fun x => !S x)
    rw [Option.mem_def.mp hx] at h
    simpa using h

/-- **The local window.** With identity transforms, the stored plan has a local window over real
distances, and `transformGlobalPlan` returns exactly that window when it is non-empty and
throws otherwise. The catch-up threshold is capped by the prune distance only with `prune_plan`
on; only then is the window non-empty whenever some pose lies strictly within the horizon
threshold. -/
theorem transformGlobalPlan_window (p : DWBLocalPlanner ℝ) (pose : Pose2DStamped ℝ) :
    ∃ window, IsLocalWindow p.globalPlan.poses pose.pose (windowStartThreshold p)
        (windowEndThreshold p) window ∧
      (∀ path, (transformGlobalPlan { p with tf := identityTransform } pose).1 = .ok path ↔
        window ≠ [] ∧ path = ⟨p.costmap.globalFrameID, window⟩) ∧
      (p.prunePlan = true →
        (∃ q ∈ p.globalPlan.poses, √(getSquareDistance pose.pose q) < windowEndThreshold p) →
        window ≠ []) := by
  set q : DWBLocalPlanner ℝ := { p with tf := identityTransform }
  have hs : ∀ x, decide (getSquareDistance pose.pose x < q.sqTransformStartThreshold) = true ↔
      √(getSquareDistance pose.pose x) < windowStartThreshold p := fun x => by
    rw [decide_eq_true_iff, sqTransformStartThreshold_eq,
      Real.sqrt_lt (getSquareDistance_nonneg _ _) windowStartThreshold_nonneg]; rfl
  have he : ∀ x, decide (getSquareDistance pose.pose x > q.sqTransformEndThreshold) = true ↔
      √(getSquareDistance pose.pose x) > windowEndThreshold p := fun x => by
    rw [decide_eq_true_iff, sqTransformEndThreshold_eq, gt_iff_lt, gt_iff_lt,
      Real.lt_sqrt windowEndThreshold_nonneg]; rfl
  obtain ⟨before, after, hsplit, hb, hc, hwin, ha⟩ := scans_split p.globalPlan.poses
    (fun x => decide (getSquareDistance pose.pose x < q.sqTransformStartThreshold))
    (fun x => decide (getSquareDistance pose.pose x > q.sqTransformEndThreshold))
  rw [← windowPoses_eq] at hsplit hc hwin
  have hspec : IsLocalWindow p.globalPlan.poses pose.pose (windowStartThreshold p)
      (windowEndThreshold p) (q.windowPoses pose.pose) :=
    ⟨before, after, hsplit, fun x hx h => by simpa [hb x hx] using (hs x).mpr h,
      fun x hx => (hs x).mp (hc x hx), fun x hx h => by simpa [hwin x hx] using (he x).mpr h,
      fun x hx => (he x).mp (ha x hx)⟩
  refine ⟨q.windowPoses pose.pose, hspec, fun path => ?_, fun hprune ⟨x, hx, hlt⟩ hnil => ?_⟩
  · by_cases hne : p.globalPlan.poses = []
    · obtain ⟨-, hnil, -⟩ : before = [] ∧ q.windowPoses pose.pose = [] ∧ after = [] := by
        simpa [hne] using hsplit.symm
      simp [transformGlobalPlan_of_nil (p := q) hne, hnil]
    · have hlocal : q.transformGlobalPoseToLocal = id := rfl
      rw [transformGlobalPlan_of_tf_some (p := q) hne rfl]
      split_ifs with h <;> simp [h, hlocal, eq_comm]
  · obtain ⟨before, after, hsplit, hb, hc, -, ha⟩ := hspec
    rw [hnil, List.append_nil] at hsplit
    rw [hnil, List.nil_append] at hc
    simp only [windowStartThreshold, hprune, if_true] at hb hc
    rw [hsplit] at hx
    rcases List.mem_append.mp hx with hx | hx
    · exact hb x hx hlt
    · obtain ⟨y, ys, rfl⟩ := List.exists_cons_of_ne_nil (List.ne_nil_of_mem hx)
      exact lt_asymm (hc y rfl) (ha y rfl)

/-- A planner with identity transforms, a `40 × 40` costmap at `0.1` m (half side `2` m), a prune
distance of `1` m and no plugins. -/
def samplePlanner (prunePlan : Bool) (poses : List (Pose2D α)) : DWBLocalPlanner α :=
  ⟨identityTransform, ⟨40, 40, 1 / 10, "odom"⟩, ⟨fun _ => [], fun _ _ twist => ⟨twist, []⟩⟩,
    ⟨fun _ _ _ => false⟩, [], prunePlan, 1, ⟨"map", poses⟩⟩

/-- With `prune_plan` off, a pose `0.5` m from the robot lies strictly within
`min(2, prune_distance) = 1` m, yet the call throws. The catch-up scan stops at the pose `1.5` m
away, which is inside the costmap but beyond the horizon threshold. -/
theorem transformGlobalPlan_window_counterexample :
    √(getSquareDistance (⟨0, 0, 0⟩ : Pose2D ℝ) ⟨1 / 2, 0, 0⟩) <
      min (samplePlanner (α := ℝ) false []).distThreshold (samplePlanner (α := ℝ) false []).pruneDistance ∧
    (transformGlobalPlan (samplePlanner (α := ℝ) false [⟨3 / 2, 0, 0⟩, ⟨1 / 2, 0, 0⟩])
      ⟨"map", ⟨0, 0, 0⟩⟩).1 = .error (.plannerException "Resulting plan has 0 poses in it.") := by
  constructor
  · rw [Real.sqrt_lt' (by norm_num [samplePlanner, distThreshold])]
    norm_num [samplePlanner, distThreshold, getSquareDistance]
  · norm_num [transformGlobalPlan, samplePlanner, identityTransform, windowPoses,
      transformationBegin, transformationEnd, sqTransformStartThreshold, sqTransformEndThreshold,
      distThreshold, getSquareDistance, List.findIdx_cons]

/-- With `prune_plan` on and the only pose of the plan `10` m from the robot, the call erases the
whole stored plan, goal included, before it throws for the empty window. -/
theorem transformGlobalPlan_erases_whole_plan :
    (transformGlobalPlan (samplePlanner (α := ℝ) true [⟨10, 0, 0⟩]) ⟨"map", ⟨0, 0, 0⟩⟩).1 =
      .error (.plannerException "Resulting plan has 0 poses in it.") ∧
    (transformGlobalPlan (samplePlanner (α := ℝ) true [⟨10, 0, 0⟩])
      ⟨"map", ⟨0, 0, 0⟩⟩).2.globalPlan.poses = [] := by
  norm_num [transformGlobalPlan, samplePlanner, identityTransform, windowPoses, transformationBegin,
    transformationEnd, sqTransformStartThreshold, sqTransformEndThreshold, distThreshold,
    getSquareDistance, List.findIdx_cons]

end DwbCore
