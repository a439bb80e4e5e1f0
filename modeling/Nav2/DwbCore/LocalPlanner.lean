import Nav2.DwbCore.TransformGlobalPlan

/-!
# The planning cycle

`DWBLocalPlanner::setPlan`, `prepareGlobalPlan`, both overloads of `computeVelocityCommands`,
and `isGoalReached`: the cycle around the scoring loop, with every call it makes on the critics.
The log holds one `(position, call)` entry per call, in order; `callsOf i` is what the critic
at position `i` sees of it.

Main results: `computeVelocityCommands_critic_calls` gives the calls each critic receives in one
cycle; `run_globalPlan_suffix` says that over any run of calls the stored plan is a suffix of the
last plan set; `computeVelocityCommands_ignores_failed_transforms` shows a cycle that returns a
command although its transforms into the costmap frame failed.
-/

namespace DwbCore
open Nav2dMsgs DwbMsgs NavCore2

section Log

variable {α : Type} {i n : Nat} {call : CriticCall α} {l₁ l₂ : List (Nat × CriticCall α)}

/-- A loop `for (critic : critics_) critic->call(...)` over `n` critics, as log entries. -/
def broadcast (n : Nat) (call : CriticCall α) : List (Nat × CriticCall α) :=
  (List.range n).map fun i => (i, call)

/-- The calls the critic at position `i` received, in order. -/
def callsOf (i : Nat) (log : List (Nat × CriticCall α)) : List (CriticCall α) :=
  log.filterMap fun e => if e.1 = i then some e.2 else none

@[simp] theorem callsOf_nil : callsOf i ([] : List (Nat × CriticCall α)) = [] := rfl

@[simp] theorem callsOf_append : callsOf i (l₁ ++ l₂) = callsOf i l₁ ++ callsOf i l₂ :=
  List.filterMap_append _ _ _

theorem callsOf_broadcast (h : i < n) : callsOf i (broadcast n call) = [call] := by
  induction n with
  | zero => omega
  | succ n ih =>
    rw [broadcast, List.range_succ, List.map_append, ← broadcast, callsOf_append]
    rcases Nat.lt_succ_iff_lt_or_eq.mp h with h | rfl
    · rw [ih h]; simp [callsOf, h.ne']
    · have hnone : callsOf i (broadcast i call) = [] := by
        simp only [callsOf, broadcast, List.filterMap_map]
        exact List.filterMap_eq_nil_iff.mpr fun a ha => by simp [(List.mem_range.mp ha).ne]
      rw [hnone]; simp [callsOf]

end Log

variable {α : Type} [LinearOrderedField α]

-- ════════════════════════════════════════════════════════════════════════
-- The calls of the scoring loop
-- ════════════════════════════════════════════════════════════════════════

/-- Every entry of a log is a `scoreTrajectory` call on a critic with nonzero scale. -/
def ScoreCallsOnly (critics : List (TrajectoryCritic α)) (log : List (Nat × CriticCall α)) :
    Prop :=
  ∀ e ∈ log, (∃ traj, e.2 = .scoreTrajectory traj) ∧ ∀ c ∈ critics[e.1]?, c.scale ≠ 0

/-- The critic loop of `scoreTrajectory` calls only critics with nonzero scale. -/
theorem scoreCritics_snd_scale {traj : Trajectory2D α} {b : α} {i : Nat}
    {cs : List (TrajectoryCritic α)} {acc : TrajectoryScore α} :
    ∀ j ∈ (scoreCritics traj b i cs acc).2, ∃ k, j = i + k ∧ ∀ c ∈ cs[k]?, c.scale ≠ 0 := by
  induction cs generalizing i acc with
  | nil => simp [scoreCritics]
  | cons c cs ih =>
    have shift : ∀ {j}, (∃ k, j = i + 1 + k ∧ ∀ c' ∈ cs[k]?, c'.scale ≠ 0) →
        ∃ k, j = i + k ∧ ∀ c' ∈ (c :: cs)[k]?, c'.scale ≠ 0 :=
      fun ⟨k, hj, hk⟩ => ⟨k + 1, by omega, by rwa [List.getElem?_cons_succ]⟩
    by_cases hs : c.scale = 0
    · rw [scoreCritics_cons_zero hs]
      exact fun j hj => shift (ih j hj)
    · have hhead : ∀ j ∈ [i], ∃ k, j = i + k ∧ ∀ c' ∈ (c :: cs)[k]?, c'.scale ≠ 0 :=
        fun j hj => ⟨0, List.mem_singleton.mp hj, fun c' hc' => by
          rw [List.getElem?_cons_zero, Option.mem_some_iff] at hc'
          exact hc' ▸ hs⟩
      cases hc : c.scoreTrajectory traj with
      | error msg => rw [scoreCritics_cons_error hs hc]; exact hhead
      | ok r =>
        rw [scoreCritics_cons_ok hs hc]
        dsimp only
        split_ifs
        · exact hhead
        · intro j hj
          rcases List.mem_cons.mp hj with rfl | hj
          · exact hhead _ (List.mem_singleton_self _)
          · exact shift (ih j hj)

theorem ScoreCallsOnly.append {critics : List (TrajectoryCritic α)}
    {l₁ l₂ : List (Nat × CriticCall α)} (h₁ : ScoreCallsOnly critics l₁)
    (h₂ : ScoreCallsOnly critics l₂) : ScoreCallsOnly critics (l₁ ++ l₂) := by
  intro e he
  rcases List.mem_append.mp he with he | he
  exacts [h₁ e he, h₂ e he]

theorem scoringStep_scoreCallsOnly {critics : List (TrajectoryCritic α)} {s : ScoringLoop α}
    {u : Trajectory2D α} (h : ScoreCallsOnly critics s.calls) :
    ScoreCallsOnly critics (scoringStep critics s u).calls := by
  rw [scoringStep_calls]
  refine h.append fun e he => ?_
  obtain ⟨j, hj, rfl⟩ := List.mem_map.mp he
  obtain ⟨k, rfl, hk⟩ := scoreCritics_snd_scale j hj
  exact ⟨⟨u, rfl⟩, by simpa using hk⟩

theorem foldl_scoringStep_scoreCallsOnly {critics : List (TrajectoryCritic α)}
    {l : List (Trajectory2D α)} {s : ScoringLoop α} (h : ScoreCallsOnly critics s.calls) :
    ScoreCallsOnly critics (l.foldl (scoringStep critics) s).calls := by
  induction l generalizing s with
  | nil => exact h
  | cons u l ih => exact ih (scoringStep_scoreCallsOnly h)

/-- **The scoring loop only calls `scoreTrajectory`, and only on critics with nonzero scale.** -/
theorem coreScoringAlgorithm_scoreCallsOnly (gen : TrajectoryGenerator α)
    (critics : List (TrajectoryCritic α)) (pose : Pose2D α) (velocity : Twist2D α)
    (results : Option (LocalPlanEvaluation α)) :
    ScoreCallsOnly critics (coreScoringAlgorithm gen critics pose velocity results).calls :=
  foldl_scoringStep_scoreCallsOnly fun e he => absurd he (List.not_mem_nil e)

theorem ScoreCallsOnly.callsOf {critics : List (TrajectoryCritic α)}
    {log : List (Nat × CriticCall α)} (h : ScoreCallsOnly critics log) (i : Nat) :
    (∀ call ∈ callsOf i log, ∃ traj, call = .scoreTrajectory traj) ∧
      (∀ c ∈ critics[i]?, c.scale = 0 → callsOf i log = []) := by
  constructor
  · intro call hcall
    obtain ⟨e, he, hsome⟩ := List.mem_filterMap.mp hcall
    split_ifs at hsome with hi
    obtain ⟨traj, htraj⟩ := (h e he).1
    exact ⟨traj, by rw [← Option.some.inj hsome, htraj]⟩
  · intro c hc hzero
    refine List.eq_nil_iff_forall_not_mem.mpr fun call hcall => ?_
    obtain ⟨e, he, hsome⟩ := List.mem_filterMap.mp hcall
    split_ifs at hsome with hi
    exact (h e he).2 c (hi ▸ hc) hzero

theorem coreScoringAlgorithm_result_cases (gen : TrajectoryGenerator α)
    (critics : List (TrajectoryCritic α)) (pose : Pose2D α) (velocity : Twist2D α)
    (results : Option (LocalPlanEvaluation α)) :
    (∃ best, (coreScoringAlgorithm gen critics pose velocity results).result = .ok best) ∨
      ∃ tracker, (coreScoringAlgorithm gen critics pose velocity results).result =
        .error (.noLegalTrajectories tracker) := by
  rw [coreScoringAlgorithm_result]
  split_ifs
  exacts [.inr ⟨_, rfl⟩, .inl ⟨_, rfl⟩]

-- ════════════════════════════════════════════════════════════════════════
-- The code
-- ════════════════════════════════════════════════════════════════════════

namespace DWBLocalPlanner

/-- `setPlan`: reset every critic, then replace the stored plan. Publishing is left out. -/
def setPlan (p : DWBLocalPlanner α) (path : Path2D α) :
    DWBLocalPlanner α × List (Nat × CriticCall α) :=
  ({ p with globalPlan := path }, broadcast p.critics.length .reset)

/-- `prepareGlobalPlan`: the local path, and the goal (the last pose of the stored plan after
pruning) transformed into the costmap frame. `transformPose` writes the goal in place, so a
failed goal transform leaves it in the plan's frame. The stored plan is not empty here
(`globalPlan_ne_nil_of_transformGlobalPlan_ok`), so `poses.back()` is defined. -/
def prepareGlobalPlan (p : DWBLocalPlanner α) (pose : Pose2DStamped α) :
    Except PlannerException (Path2D α × Pose2DStamped α) × DWBLocalPlanner α :=
  match h : (transformGlobalPlan p pose).1 with
  | .error e => (.error e, (transformGlobalPlan p pose).2)
  | .ok transformedPlan =>
    let p' := (transformGlobalPlan p pose).2
    let goalPose : Pose2DStamped α :=
      ⟨p'.globalPlan.frameId, p'.globalPlan.poses.getLast
        (globalPlan_ne_nil_of_transformGlobalPlan_ok h)⟩
    (.ok (transformedPlan, (p'.tf p'.costmap.globalFrameID goalPose).getD goalPose), p')

/-- What one cycle returns or throws, the planner after it, the evaluation record, and the
calls it made on the critics. -/
structure CycleOutcome (α : Type) where
  result : Except PlannerException (Twist2D α)
  planner : DWBLocalPlanner α
  results : Option (LocalPlanEvaluation α)
  calls : List (Nat × CriticCall α)

/-- `computeVelocityCommands(pose, velocity, results)`: prepare the plan and every critic,
score, then debrief every critic with the chosen twist; on `NoLegalTrajectoriesException`
debrief every critic with the zero twist and rethrow. Publishing is left out. -/
def computeVelocityCommandsWithResults (p : DWBLocalPlanner α) (pose : Pose2DStamped α)
    (velocity : Twist2D α) (results : Option (LocalPlanEvaluation α)) : CycleOutcome α :=
  match prepareGlobalPlan p pose with
  | (.error e, p') => ⟨.error e, p', results, []⟩
  | (.ok (transformedPlan, goalPose), p') =>
    let prepared := broadcast p'.critics.length
      (.prepare pose.pose velocity goalPose.pose transformedPlan)
    let scored := coreScoringAlgorithm p'.trajGenerator p'.critics pose.pose velocity results
    match scored.result with
    | .ok best =>
      ⟨.ok best.traj.velocity, p', scored.results,
        prepared ++ scored.calls ++ broadcast p'.critics.length (.debrief best.traj.velocity)⟩
    | .error (.noLegalTrajectories tracker) =>
      ⟨.error (.noLegalTrajectories tracker), p', scored.results,
        prepared ++ scored.calls ++ broadcast p'.critics.length (.debrief default)⟩
    | .error e => ⟨.error e, p', scored.results, prepared ++ scored.calls⟩

/-- `computeVelocityCommands(pose, velocity)`: run the cycle with a fresh evaluation record when
one should be recorded. Publishing the record is left out. -/
def computeVelocityCommands (p : DWBLocalPlanner α) (pose : Pose2DStamped α)
    (velocity : Twist2D α) (shouldRecordEvaluation : Bool) : CycleOutcome α :=
  p.computeVelocityCommandsWithResults pose velocity
    (if shouldRecordEvaluation then some .fresh else none)

/-- `isGoalReached`: false without a plan; otherwise hand the robot pose and the goal, both
transformed into the costmap frame, to the goal checker. A failed transform leaves the
default-constructed output pose. -/
def isGoalReached (p : DWBLocalPlanner α) (pose : Pose2DStamped α) (velocity : Twist2D α) :
    Bool :=
  match p.globalPlan.poses.getLast? with
  | none => false
  | some goal =>
    let localStartPose := (p.tf p.costmap.globalFrameID pose).getD default
    let localGoalPose := (p.tf p.costmap.globalFrameID ⟨p.globalPlan.frameId, goal⟩).getD default
    p.goalChecker.isGoalReached localStartPose.pose localGoalPose.pose velocity

end DWBLocalPlanner

open DWBLocalPlanner

-- ════════════════════════════════════════════════════════════════════════
-- One cycle
-- ════════════════════════════════════════════════════════════════════════

variable {p : DWBLocalPlanner α} {pose : Pose2DStamped α} {velocity : Twist2D α}
  {results : Option (LocalPlanEvaluation α)}

theorem prepareGlobalPlan_snd : (prepareGlobalPlan p pose).2 = (transformGlobalPlan p pose).2 := by
  unfold prepareGlobalPlan; split <;> rfl

/-- A cycle changes the stored plan only: the plugins and parameters stay. -/
theorem prepareGlobalPlan_snd_eq_pruneTo (p : DWBLocalPlanner α) (pose : Pose2DStamped α) :
    ∃ n, (prepareGlobalPlan p pose).2 = p.pruneTo n := by
  rw [prepareGlobalPlan_snd]; exact transformGlobalPlan_snd_eq_pruneTo p pose

theorem computeVelocityCommandsWithResults_of_error {e : PlannerException}
    (h : (prepareGlobalPlan p pose).1 = .error e) :
    p.computeVelocityCommandsWithResults pose velocity results =
      ⟨.error e, (prepareGlobalPlan p pose).2, results, []⟩ := by
  unfold computeVelocityCommandsWithResults
  rw [← Prod.mk.eta (p := prepareGlobalPlan p pose), h]

variable {plan : Path2D α} {goal : Pose2DStamped α}

/-- **A cycle that finds a legal trajectory**: every critic is prepared, the scoring loop runs,
and every critic is debriefed with the returned twist. -/
theorem computeVelocityCommandsWithResults_of_ok {best : TrajectoryScore α}
    (h : (prepareGlobalPlan p pose).1 = .ok (plan, goal))
    (hb : (coreScoringAlgorithm p.trajGenerator p.critics pose.pose velocity results).result =
      .ok best) :
    p.computeVelocityCommandsWithResults pose velocity results =
      ⟨.ok best.traj.velocity, (prepareGlobalPlan p pose).2,
        (coreScoringAlgorithm p.trajGenerator p.critics pose.pose velocity results).results,
        broadcast p.critics.length (.prepare pose.pose velocity goal.pose plan) ++
          (coreScoringAlgorithm p.trajGenerator p.critics pose.pose velocity results).calls ++
          broadcast p.critics.length (.debrief best.traj.velocity)⟩ := by
  obtain ⟨n, hp⟩ := prepareGlobalPlan_snd_eq_pruneTo p pose
  unfold computeVelocityCommandsWithResults
  rw [← Prod.mk.eta (p := prepareGlobalPlan p pose), h, hp]
  simp only [pruneTo_critics, pruneTo_trajGenerator, hb]

/-- **A cycle with no legal trajectory**: every critic is prepared, the scoring loop runs, and
every critic is debriefed with the zero twist before the exception is rethrown. -/
theorem computeVelocityCommandsWithResults_of_noLegal {tracker : IllegalTrajectoryTracker}
    (h : (prepareGlobalPlan p pose).1 = .ok (plan, goal))
    (hb : (coreScoringAlgorithm p.trajGenerator p.critics pose.pose velocity results).result =
      .error (.noLegalTrajectories tracker)) :
    p.computeVelocityCommandsWithResults pose velocity results =
      ⟨.error (.noLegalTrajectories tracker), (prepareGlobalPlan p pose).2,
        (coreScoringAlgorithm p.trajGenerator p.critics pose.pose velocity results).results,
        broadcast p.critics.length (.prepare pose.pose velocity goal.pose plan) ++
          (coreScoringAlgorithm p.trajGenerator p.critics pose.pose velocity results).calls ++
          broadcast p.critics.length (.debrief ⟨0, 0, 0⟩)⟩ := by
  obtain ⟨n, hp⟩ := prepareGlobalPlan_snd_eq_pruneTo p pose
  unfold computeVelocityCommandsWithResults
  rw [← Prod.mk.eta (p := prepareGlobalPlan p pose), h, hp]
  simp only [pruneTo_critics, pruneTo_trajGenerator, hb]
  rfl

theorem computeVelocityCommandsWithResults_planner :
    (p.computeVelocityCommandsWithResults pose velocity results).planner =
      (prepareGlobalPlan p pose).2 := by
  cases h : (prepareGlobalPlan p pose).1 with
  | error e => rw [computeVelocityCommandsWithResults_of_error h]
  | ok pg =>
    obtain ⟨plan, goal⟩ := pg
    rcases coreScoringAlgorithm_result_cases p.trajGenerator p.critics pose.pose velocity
      results with ⟨_, hb⟩ | ⟨_, hb⟩
    · rw [computeVelocityCommandsWithResults_of_ok h hb]
    · rw [computeVelocityCommandsWithResults_of_noLegal h hb]

/-- The goal `prepareGlobalPlan` hands to the critics: the last pose of the stored plan after
pruning, transformed into the costmap frame when that transform succeeds. -/
theorem prepareGlobalPlan_fst_of_ok (h : (transformGlobalPlan p pose).1 = .ok plan) :
    ∃ goal, (transformGlobalPlan p pose).2.globalPlan.poses.getLast? = some goal ∧
      (prepareGlobalPlan p pose).1 = .ok (plan,
        ((transformGlobalPlan p pose).2.tf p.costmap.globalFrameID
          ⟨p.globalPlan.frameId, goal⟩).getD ⟨p.globalPlan.frameId, goal⟩) := by
  obtain ⟨n, hn⟩ := transformGlobalPlan_snd_eq_pruneTo p pose
  unfold prepareGlobalPlan
  split
  · simp_all
  · rename_i plan' h'
    obtain rfl : plan' = plan := Except.ok.inj (h'.symm.trans h)
    refine ⟨_, List.getLast?_eq_getLast _ (globalPlan_ne_nil_of_transformGlobalPlan_ok h'), ?_⟩
    simp only [hn, pruneTo_costmap, pruneTo_frameId]

/-- **The goal is never read off an empty plan.** For every stored plan, empty or not, every
robot pose and either setting of `prune_plan`: when `transformGlobalPlan` returns normally, the
stored plan it leaves after pruning is non-empty, so `prepareGlobalPlan` takes the goal from its
last pose (`global_plan_.poses.back()`) and returns the local plan with that goal. -/
theorem transformGlobalPlan_ok_plan_nonempty (p : DWBLocalPlanner α) (pose : Pose2DStamped α)
    (path : Path2D α) (h : (transformGlobalPlan p pose).1 = .ok path) :
    (transformGlobalPlan p pose).2.globalPlan.poses ≠ [] ∧
    ∃ goal, (transformGlobalPlan p pose).2.globalPlan.poses.getLast? = some goal ∧
      (prepareGlobalPlan p pose).1 = .ok (path,
        ((transformGlobalPlan p pose).2.tf p.costmap.globalFrameID
          ⟨p.globalPlan.frameId, goal⟩).getD ⟨p.globalPlan.frameId, goal⟩) :=
  ⟨globalPlan_ne_nil_of_transformGlobalPlan_ok h, prepareGlobalPlan_fst_of_ok h⟩

theorem transformGlobalPlan_ok_plan_nonempty_sample :
    (transformGlobalPlan (samplePlanner (α := ℚ) true [⟨1 / 2, 0, 0⟩]) ⟨"map", ⟨0, 0, 0⟩⟩).1 =
      .ok ⟨"odom", [⟨1 / 2, 0, 0⟩]⟩ ∧
    (transformGlobalPlan (samplePlanner (α := ℚ) true [⟨1 / 2, 0, 0⟩])
      ⟨"map", ⟨0, 0, 0⟩⟩).2.globalPlan.poses ≠ [] ∧
    ∃ goal, (transformGlobalPlan (samplePlanner (α := ℚ) true [⟨1 / 2, 0, 0⟩])
        ⟨"map", ⟨0, 0, 0⟩⟩).2.globalPlan.poses.getLast? = some goal ∧
      (prepareGlobalPlan (samplePlanner (α := ℚ) true [⟨1 / 2, 0, 0⟩]) ⟨"map", ⟨0, 0, 0⟩⟩).1 =
        .ok (⟨"odom", [⟨1 / 2, 0, 0⟩]⟩,
          ((transformGlobalPlan (samplePlanner (α := ℚ) true [⟨1 / 2, 0, 0⟩])
            ⟨"map", ⟨0, 0, 0⟩⟩).2.tf "odom" ⟨"map", goal⟩).getD ⟨"map", goal⟩) := by
  have h : (transformGlobalPlan (samplePlanner (α := ℚ) true [⟨1 / 2, 0, 0⟩])
      ⟨"map", ⟨0, 0, 0⟩⟩).1 = .ok ⟨"odom", [⟨1 / 2, 0, 0⟩]⟩ := by
    norm_num [transformGlobalPlan, samplePlanner, identityTransform, windowPoses,
      transformationBegin, transformationEnd, sqTransformStartThreshold, sqTransformEndThreshold,
      distThreshold, getSquareDistance, List.findIdx_cons, transformGlobalPoseToLocal]
  exact ⟨h, transformGlobalPlan_ok_plan_nonempty _ _ _ h⟩

/-- **The calls each critic receives in one cycle.** When `prepareGlobalPlan` throws, no critic
is called and the exception propagates. Otherwise each critic is prepared once, then receives
only `scoreTrajectory` calls, none at all when its scale is 0, then is debriefed once: with the
returned twist, or with the zero twist when no trajectory is legal. -/
theorem computeVelocityCommands_critic_calls (p : DWBLocalPlanner α) (pose : Pose2DStamped α)
    (velocity : Twist2D α) (results : Option (LocalPlanEvaluation α))
    (i : Fin p.critics.length) :
    (∀ e, (prepareGlobalPlan p pose).1 = .error e →
      callsOf i (p.computeVelocityCommandsWithResults pose velocity results).calls = [] ∧
      (p.computeVelocityCommandsWithResults pose velocity results).result = .error e) ∧
    ∀ plan goal, (prepareGlobalPlan p pose).1 = .ok (plan, goal) →
      ∃ scores v, callsOf i (p.computeVelocityCommandsWithResults pose velocity results).calls =
          .prepare pose.pose velocity goal.pose plan :: scores ++ [.debrief v] ∧
        (∀ call ∈ scores, ∃ traj, call = .scoreTrajectory traj) ∧
        (p.critics[i].scale = 0 → scores = []) ∧
        ((∃ cmd, (p.computeVelocityCommandsWithResults pose velocity results).result = .ok cmd ∧
            v = cmd) ∨
          (∃ tracker, (p.computeVelocityCommandsWithResults pose velocity results).result =
            .error (.noLegalTrajectories tracker) ∧ v = ⟨0, 0, 0⟩)) := by
  refine ⟨fun e h => by simp [computeVelocityCommandsWithResults_of_error h], fun plan goal h => ?_⟩
  obtain ⟨hscore, hzero⟩ := (coreScoringAlgorithm_scoreCallsOnly p.trajGenerator p.critics
    pose.pose velocity results).callsOf i
  have hcalls : ∀ v : Twist2D α, callsOf i
      (broadcast p.critics.length (.prepare pose.pose velocity goal.pose plan) ++
        (coreScoringAlgorithm p.trajGenerator p.critics pose.pose velocity results).calls ++
        broadcast p.critics.length (.debrief v)) =
      .prepare pose.pose velocity goal.pose plan ::
        callsOf i (coreScoringAlgorithm p.trajGenerator p.critics pose.pose velocity results).calls ++
        [.debrief v] := fun v => by
    simp [callsOf_broadcast i.isLt]
  have hz := hzero p.critics[i] (by simp)
  rcases coreScoringAlgorithm_result_cases p.trajGenerator p.critics pose.pose velocity
    results with ⟨best, hb⟩ | ⟨tracker, hb⟩
  · rw [computeVelocityCommandsWithResults_of_ok h hb]
    exact ⟨_, _, hcalls _, hscore, hz, .inl ⟨_, rfl, rfl⟩⟩
  · rw [computeVelocityCommandsWithResults_of_noLegal h hb]
    exact ⟨_, _, hcalls _, hscore, hz, .inr ⟨_, rfl, rfl⟩⟩

-- ════════════════════════════════════════════════════════════════════════
-- Runs
-- ════════════════════════════════════════════════════════════════════════

/-- The calls the controller server makes on the planner. -/
inductive PlannerCall (α : Type) where
  | setPlan (path : Path2D α)
  | computeVelocityCommands (pose : Pose2DStamped α) (velocity : Twist2D α)
      (shouldRecordEvaluation : Bool)
  | isGoalReached (pose : Pose2DStamped α) (velocity : Twist2D α)

/-- The planner after one call. -/
def PlannerCall.apply (p : DWBLocalPlanner α) : PlannerCall α → DWBLocalPlanner α
  | .setPlan path => (p.setPlan path).1
  | .computeVelocityCommands pose velocity record =>
    (p.computeVelocityCommands pose velocity record).planner
  | .isGoalReached _ _ => p

/-- The last plan set, after one more call. -/
def PlannerCall.planAfter (path : Path2D α) : PlannerCall α → Path2D α
  | .setPlan path' => path'
  | .computeVelocityCommands _ _ _ => path
  | .isGoalReached _ _ => path

/-- The planner after a run of calls. -/
def runPlanner (p : DWBLocalPlanner α) (calls : List (PlannerCall α)) : DWBLocalPlanner α :=
  calls.foldl PlannerCall.apply p

/-- The plan of the last `setPlan` call of a run, or `init` when there is none. -/
def lastPlanSet (init : Path2D α) (calls : List (PlannerCall α)) : Path2D α :=
  calls.foldl PlannerCall.planAfter init

/-- The invariant of a run from `p`: only the stored plan differs from `p`, and it is in the
frame of `path` and a suffix of it. -/
structure PlanFrom (p : DWBLocalPlanner α) (path : Path2D α) (q : DWBLocalPlanner α) : Prop where
  rest : { q with globalPlan := p.globalPlan } = p
  frameId : q.globalPlan.frameId = path.frameId
  suffix : q.globalPlan.poses <:+ path.poses

omit [LinearOrderedField α] in
theorem PlanFrom.pruneTo {path : Path2D α} {q : DWBLocalPlanner α} (h : PlanFrom p path q)
    (n : Nat) : PlanFrom p path (q.pruneTo n) :=
  ⟨h.rest, h.frameId, (List.drop_suffix n _).trans h.suffix⟩

theorem PlanFrom.apply {path : Path2D α} {q : DWBLocalPlanner α} (h : PlanFrom p path q)
    (call : PlannerCall α) : PlanFrom p (call.planAfter path) (call.apply q) := by
  cases call with
  | setPlan path' => exact ⟨h.rest, rfl, List.suffix_refl _⟩
  | computeVelocityCommands pose velocity record =>
    obtain ⟨n, hn⟩ := prepareGlobalPlan_snd_eq_pruneTo q pose
    simp only [PlannerCall.apply, PlannerCall.planAfter, computeVelocityCommands,
      computeVelocityCommandsWithResults_planner, hn]
    exact h.pruneTo n
  | isGoalReached => exact h

theorem PlanFrom.runPlanner {path : Path2D α} {q : DWBLocalPlanner α} (h : PlanFrom p path q)
    (calls : List (PlannerCall α)) :
    PlanFrom p (lastPlanSet path calls) (DwbCore.runPlanner q calls) := by
  induction calls generalizing path q with
  | nil => exact h
  | cons call calls ih => exact ih (h.apply call)

/-- **Over any run, the stored plan is a suffix of the last plan set.** The plugins and
parameters never change, and the stored plan keeps the frame of the last plan set and is a
suffix of it, possibly empty. -/
theorem runPlanner_globalPlan_suffix (p : DWBLocalPlanner α) (calls : List (PlannerCall α)) :
    { runPlanner p calls with globalPlan := p.globalPlan } = p ∧
    (runPlanner p calls).globalPlan.frameId = (lastPlanSet p.globalPlan calls).frameId ∧
    (runPlanner p calls).globalPlan.poses <:+ (lastPlanSet p.globalPlan calls).poses :=
  let h := (PlanFrom.mk rfl rfl (List.suffix_refl _) : PlanFrom p p.globalPlan p).runPlanner calls
  ⟨h.rest, h.frameId, h.suffix⟩

/-- **`isGoalReached` checks the goal it was given, and nothing else.** After any run of calls,
the planner reports the goal reached exactly when its stored plan is not empty and the goal
checker accepts the robot pose against the last pose of the last plan set, both transformed
into the costmap frame with the planner's own transforms. Pruning never moves the goal; once
the stored plan is empty, the goal is not reached again before the next `setPlan`. -/
theorem runPlanner_isGoalReached (p : DWBLocalPlanner α) (calls : List (PlannerCall α))
    (pose : Pose2DStamped α) (velocity : Twist2D α) :
    (runPlanner p calls).isGoalReached pose velocity = true ↔
      (runPlanner p calls).globalPlan.poses ≠ [] ∧
      ∃ goal, (lastPlanSet p.globalPlan calls).poses.getLast? = some goal ∧
        p.goalChecker.isGoalReached ((p.tf p.costmap.globalFrameID pose).getD default).pose
          ((p.tf p.costmap.globalFrameID
            ⟨(lastPlanSet p.globalPlan calls).frameId, goal⟩).getD default).pose velocity = true := by
  have h := (PlanFrom.mk rfl rfl (List.suffix_refl _) : PlanFrom p p.globalPlan p).runPlanner calls
  have htf := congrArg DWBLocalPlanner.tf h.rest
  have hcm := congrArg DWBLocalPlanner.costmap h.rest
  have hgc := congrArg DWBLocalPlanner.goalChecker h.rest
  dsimp only at htf hcm hgc
  unfold isGoalReached
  rcases hq : (runPlanner p calls).globalPlan.poses.getLast? with _ | goal
  · simp [List.getLast?_eq_none_iff.mp hq]
  · have hne : (runPlanner p calls).globalPlan.poses ≠ [] := fun h0 => by simp [h0] at hq
    have hgoal : (lastPlanSet p.globalPlan calls).poses.getLast? = some goal := by
      rw [List.getLast?_eq_getLast _ (h.suffix.ne_nil hne), ← h.suffix.getLast hne,
        ← List.getLast?_eq_getLast _ hne, hq]
    simp only [hgoal, htf, hcm, hgc, h.frameId, ne_eq, hne, not_false_eq_true, true_and,
      Option.some.injEq, exists_eq_left']

-- ════════════════════════════════════════════════════════════════════════
-- Failed transforms
-- ════════════════════════════════════════════════════════════════════════

/-- Transforms that succeed only into the frame `"map"`. -/
def mapOnlyTransform : String → Pose2DStamped α → Option (Pose2DStamped α) :=
  fun frame q => if frame = "map" then some ⟨frame, q.pose⟩ else none

/-- A planner whose plan is in `"map"` and whose costmap is in `"odom"`, with no transform into
`"odom"`. The plan's only pose is `0.5` m from the robot, one path critic scores the two
candidates of `sampleGenerator`, and the goal checker compares the two poses. -/
def noOdomTransformPlanner : DWBLocalPlanner ℚ :=
  { samplePlanner true [⟨1 / 2, 0, 0⟩] with
    tf := mapOnlyTransform
    trajGenerator := sampleGenerator
    critics := sampleCritics
    goalChecker := ⟨fun start goal _ => decide (start = goal)⟩ }

/-- With every transform into the costmap frame failing, the cycle still returns a command: the
critics are prepared with the default pose as the local path and with the goal left in the
plan's frame. `isGoalReached` compares two default poses and reports the goal `0.5` m away as
reached. -/
theorem computeVelocityCommands_ignores_failed_transforms :
    noOdomTransformPlanner.tf "odom" ⟨"map", ⟨1 / 2, 0, 0⟩⟩ = none ∧
    noOdomTransformPlanner.tf "odom" ⟨"map", ⟨0, 0, 0⟩⟩ = none ∧
    (noOdomTransformPlanner.computeVelocityCommands ⟨"map", ⟨0, 0, 0⟩⟩ ⟨0, 0, 0⟩ false).result =
      .ok ⟨0, 0, 1⟩ ∧
    callsOf 0 (noOdomTransformPlanner.computeVelocityCommands ⟨"map", ⟨0, 0, 0⟩⟩ ⟨0, 0, 0⟩
      false).calls =
      [.prepare ⟨0, 0, 0⟩ ⟨0, 0, 0⟩ ⟨1 / 2, 0, 0⟩ ⟨"odom", [⟨0, 0, 0⟩]⟩,
        .scoreTrajectory ⟨⟨1, 0, 0⟩, []⟩, .scoreTrajectory ⟨⟨0, 0, 1⟩, []⟩,
        .debrief ⟨0, 0, 1⟩] ∧
    noOdomTransformPlanner.isGoalReached ⟨"map", ⟨0, 0, 0⟩⟩ ⟨0, 0, 0⟩ = true := by
  have hodom : ¬("odom" = "map") := by decide
  have htf : transformGlobalPlan noOdomTransformPlanner ⟨"map", ⟨0, 0, 0⟩⟩ =
      (.ok ⟨"odom", [⟨0, 0, 0⟩]⟩, noOdomTransformPlanner) := by
    norm_num [transformGlobalPlan, noOdomTransformPlanner, samplePlanner, mapOnlyTransform,
      windowPoses, transformationBegin, transformationEnd, sqTransformStartThreshold,
      sqTransformEndThreshold, distThreshold, getSquareDistance, List.findIdx_cons,
      transformGlobalPoseToLocal, hodom]
    rfl
  obtain ⟨goal, hgoal, hprep⟩ := prepareGlobalPlan_fst_of_ok (congrArg Prod.fst htf)
  rw [htf] at hgoal hprep
  obtain rfl : goal = ⟨1 / 2, 0, 0⟩ := by
    simpa [noOdomTransformPlanner, samplePlanner, eq_comm] using hgoal
  have hscored : coreScoringAlgorithm noOdomTransformPlanner.trajGenerator
      noOdomTransformPlanner.critics ⟨0, 0, 0⟩ ⟨0, 0, 0⟩ none =
      ⟨.ok ⟨⟨⟨0, 0, 1⟩, []⟩, [⟨"PathDist", 0, 1⟩], 0⟩, none,
        [(0, .scoreTrajectory ⟨⟨1, 0, 0⟩, []⟩), (0, .scoreTrajectory ⟨⟨0, 0, 1⟩, []⟩)]⟩ := by
    norm_num [noOdomTransformPlanner, coreScoringAlgorithm, candidates, sampleGenerator,
      sampleCritics, scoringStep, scoreTrajectory, scoreCritics, ScoringLoop.init,
      ScoringLoop.initScore]
  simp only [computeVelocityCommands, if_false, Bool.false_eq_true,
    computeVelocityCommandsWithResults_of_ok hprep (congrArg ScoringOutcome.result hscored),
    callsOf_append, callsOf_broadcast (show 0 < noOdomTransformPlanner.critics.length by decide)]
  rw [hscored]
  norm_num [noOdomTransformPlanner, samplePlanner, mapOnlyTransform, hodom, isGoalReached, callsOf,
    List.filterMap_cons]

end DwbCore
