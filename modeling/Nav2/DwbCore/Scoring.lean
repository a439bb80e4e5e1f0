import Nav2.Msgs

/-!
# Trajectory scoring

`DWBLocalPlanner::scoreTrajectory` and `DWBLocalPlanner::coreScoringAlgorithm`: every candidate
twist is turned into a trajectory, the critics score it in their configured order, and the
cheapest legal trajectory wins. Scoring a trajectory stops early once its running total exceeds
a positive best-so-far total.

Critics and the trajectory generator are plugins. A critic is its name, its scale and its
verdict on each trajectory, fixed for the cycle (`.error msg` is the critic throwing
`IllegalTrajectoryException(name, msg)`). The calls the planner makes on its critics are kept
in a log of `(position, call)` pairs.

The full-scoring reference at the end of the file does not mention the stopping rule: a
candidate is legal when no critic with nonzero scale rejects it, and its total is the weighted
sum over those critics.
-/

namespace DwbCore
open Nav2dMsgs DwbMsgs NavCore2

/-- A critic plugin as the planner sees it. -/
structure TrajectoryCritic (α : Type) where
  name : String
  scale : α
  scoreTrajectory : Trajectory2D α → Except String α

/-- A trajectory generator plugin: the twists it samples after `startNewIteration(velocity)`,
in the order `nextTwist` yields them, and `generateTrajectory`. -/
structure TrajectoryGenerator (α : Type) where
  twists : Twist2D α → List (Twist2D α)
  generateTrajectory : Pose2D α → Twist2D α → Twist2D α → Trajectory2D α

/-- A call the planner makes on a critic. -/
inductive CriticCall (α : Type) where
  | prepare (pose : Pose2D α) (velocity : Twist2D α) (goal : Pose2D α) (plan : Path2D α)
  | scoreTrajectory (traj : Trajectory2D α)
  | debrief (cmdVel : Twist2D α)
  | reset

variable {α : Type} [LinearOrderedField α]

-- ════════════════════════════════════════════════════════════════════════
-- The code
-- ════════════════════════════════════════════════════════════════════════

/-- The loop of `scoreTrajectory` from critic position `i` on, given the score so far. It
returns the outcome and the positions of the critics whose `scoreTrajectory` it called. -/
def scoreCritics (traj : Trajectory2D α) (bestScore : α) :
    Nat → List (TrajectoryCritic α) → TrajectoryScore α →
      Except IllegalTrajectoryException (TrajectoryScore α) × List Nat
  | _, [], score => (.ok score, [])
  | i, critic :: critics, score =>
    if critic.scale = 0 then
      scoreCritics traj bestScore (i + 1) critics
        { score with scores := score.scores ++ [⟨critic.name, 0, critic.scale⟩] }
    else
      match critic.scoreTrajectory traj with
      | .error msg => (.error ⟨critic.name, msg⟩, [i])
      | .ok criticScore =>
        let score := { score with
          scores := score.scores ++ [⟨critic.name, criticScore, critic.scale⟩]
          total := score.total + criticScore * critic.scale }
        -- since we keep adding positives, once we are worse than the best, we will stay worse
        if bestScore > 0 ∧ score.total > bestScore then (.ok score, [i])
        else
          let rest := scoreCritics traj bestScore (i + 1) critics score
          (rest.1, i :: rest.2)

/-- `DWBLocalPlanner::scoreTrajectory(traj, best_score)`. -/
def scoreTrajectory (critics : List (TrajectoryCritic α)) (traj : Trajectory2D α)
    (bestScore : α) : Except IllegalTrajectoryException (TrajectoryScore α) × List Nat :=
  scoreCritics traj bestScore 0 critics ⟨traj, [], 0⟩

/-- The variables of the loop of `coreScoringAlgorithm`, with the critic-call log. -/
structure ScoringLoop (α : Type) where
  best : TrajectoryScore α
  worst : TrajectoryScore α
  tracker : IllegalTrajectoryTracker
  results : Option (LocalPlanEvaluation α)
  calls : List (Nat × CriticCall α)

/-- A default-constructed `TrajectoryScore` with `total = -1`. -/
def ScoringLoop.initScore : TrajectoryScore α := ⟨default, [], -1⟩

/-- `best.total = -1; worst.total = -1;` and an empty tracker. -/
def ScoringLoop.init (results : Option (LocalPlanEvaluation α)) : ScoringLoop α :=
  ⟨initScore, initScore, ⟨[]⟩, results, []⟩

/-- The entry `results->twists` receives for a trajectory a critic rejected. -/
def failedScore (traj : Trajectory2D α) (e : IllegalTrajectoryException) : TrajectoryScore α :=
  ⟨traj, [⟨e.criticName, -1, 0⟩], -1⟩

/-- Push a legal score onto the evaluation record, moving the best and worst indices to it
when it is the new best or worst. -/
def recordScore (r : LocalPlanEvaluation α) (score : TrajectoryScore α) (isBest isWorst : Bool) :
    LocalPlanEvaluation α :=
  let twists := r.twists ++ [score]
  ⟨twists, if isBest then twists.length - 1 else r.bestIndex,
    if isWorst then twists.length - 1 else r.worstIndex⟩

omit [LinearOrderedField α] in
@[simp] theorem recordScore_twists (r : LocalPlanEvaluation α) (score : TrajectoryScore α)
    (isBest isWorst : Bool) : (recordScore r score isBest isWorst).twists = r.twists ++ [score] :=
  rfl

omit [LinearOrderedField α] in
theorem recordScore_bestIndex_false (r : LocalPlanEvaluation α) (score : TrajectoryScore α)
    (isWorst : Bool) : (recordScore r score false isWorst).bestIndex = r.bestIndex := rfl

omit [LinearOrderedField α] in
/-- A score recorded as the new best is the one the best index points at. -/
theorem recordScore_best (r : LocalPlanEvaluation α) (score : TrajectoryScore α) (isWorst : Bool) :
    (recordScore r score true isWorst).twists[(recordScore r score true isWorst).bestIndex]? =
      some score := by
  simp [recordScore]

/-- One iteration of the `while (traj_generator_->hasMoreTwists())` loop, on the trajectory of
the next twist. -/
def scoringStep (critics : List (TrajectoryCritic α)) (s : ScoringLoop α)
    (traj : Trajectory2D α) : ScoringLoop α :=
  let scored := scoreTrajectory critics traj s.best.total
  let calls := s.calls ++ scored.2.map fun i => (i, .scoreTrajectory traj)
  match scored.1 with
  | .ok score =>
    let isBest := decide (s.best.total < 0 ∨ score.total < s.best.total)
    let isWorst := decide (s.worst.total < 0 ∨ score.total > s.worst.total)
    ⟨if isBest then score else s.best, if isWorst then score else s.worst,
      s.tracker.addLegalTrajectory, s.results.map (recordScore · score isBest isWorst), calls⟩
  | .error e =>
    ⟨s.best, s.worst, s.tracker.addIllegalTrajectory e,
      s.results.map fun r => { r with twists := r.twists ++ [failedScore traj e] }, calls⟩

/-- The candidate trajectories of one cycle, in sample order. -/
def candidates (gen : TrajectoryGenerator α) (pose : Pose2D α) (velocity : Twist2D α) :
    List (Trajectory2D α) :=
  (gen.twists velocity).map (gen.generateTrajectory pose velocity)

/-- What `coreScoringAlgorithm` returns or throws, the evaluation record after it, and the
calls it made on the critics. -/
structure ScoringOutcome (α : Type) where
  result : Except PlannerException (TrajectoryScore α)
  results : Option (LocalPlanEvaluation α)
  calls : List (Nat × CriticCall α)

/-- `DWBLocalPlanner::coreScoringAlgorithm`. -/
def coreScoringAlgorithm (gen : TrajectoryGenerator α) (critics : List (TrajectoryCritic α))
    (pose : Pose2D α) (velocity : Twist2D α) (results : Option (LocalPlanEvaluation α)) :
    ScoringOutcome α :=
  let s := (candidates gen pose velocity).foldl (scoringStep critics) (ScoringLoop.init results)
  { result := if s.best.total < 0 then .error (.noLegalTrajectories s.tracker) else .ok s.best
    results := s.results
    calls := s.calls }

-- ════════════════════════════════════════════════════════════════════════
-- The full-scoring reference
-- ════════════════════════════════════════════════════════════════════════

/-- The raw score a critic gives a trajectory it accepts. -/
def rawScore (c : TrajectoryCritic α) (traj : Trajectory2D α) : α :=
  match c.scoreTrajectory traj with
  | .ok r => r
  | .error _ => 0

/-- A candidate is legal iff no critic with nonzero scale signals illegal on it. -/
def legal (critics : List (TrajectoryCritic α)) (traj : Trajectory2D α) : Bool :=
  critics.all fun c => c.scale = 0 ∨ (c.scoreTrajectory traj).isOk

/-- The full total: the sum of `scale * raw score` over the critics with nonzero scale. -/
def fullTotal (critics : List (TrajectoryCritic α)) (traj : Trajectory2D α) : α :=
  ((critics.filter fun c => c.scale ≠ 0).map fun c => c.scale * rawScore c traj).sum

/-- The breakdown entry of one critic in a complete scoring. -/
def criticScoreOf (traj : Trajectory2D α) (c : TrajectoryCritic α) : CriticScore α :=
  if c.scale = 0 then ⟨c.name, 0, c.scale⟩ else ⟨c.name, rawScore c traj, c.scale⟩

/-- The complete score of a trajectory: full breakdown and full total. -/
def fullScore (critics : List (TrajectoryCritic α)) (traj : Trajectory2D α) : TrajectoryScore α :=
  ⟨traj, critics.map (criticScoreOf traj), fullTotal critics traj⟩

/-- The first critic, in configured order, with nonzero scale that rejects the trajectory. -/
def firstIllegal (critics : List (TrajectoryCritic α)) (traj : Trajectory2D α) :
    Option IllegalTrajectoryException :=
  critics.findSome? fun c =>
    if c.scale = 0 then none
    else match c.scoreTrajectory traj with
      | .error msg => some ⟨c.name, msg⟩
      | .ok _ => none

/-- The hypothesis of the scoring results on one trajectory: every scale is non-negative, and so
is every raw score a critic gives it. -/
def NonnegScores (critics : List (TrajectoryCritic α)) (traj : Trajectory2D α) : Prop :=
  ∀ c ∈ critics, 0 ≤ c.scale ∧ ∀ r, c.scoreTrajectory traj = .ok r → 0 ≤ r

/-- The reference selection: `best` is the first legal candidate, in sample order, whose full
total is minimal among the legal candidates. -/
def IsFirstMinimal (critics : List (TrajectoryCritic α)) (cands : List (Trajectory2D α))
    (best : Trajectory2D α) : Prop :=
  ∃ before after, cands = before ++ best :: after ∧ legal critics best ∧
    (∀ t ∈ before, legal critics t → fullTotal critics best < fullTotal critics t) ∧
    (∀ t ∈ after, legal critics t → fullTotal critics best ≤ fullTotal critics t)

-- ════════════════════════════════════════════════════════════════════════
-- The reference, one critic at a time
-- ════════════════════════════════════════════════════════════════════════

@[simp] theorem legal_nil (traj : Trajectory2D α) : legal [] traj = true := rfl

@[simp] theorem legal_cons (c : TrajectoryCritic α) (cs : List (TrajectoryCritic α))
    (traj : Trajectory2D α) :
    legal (c :: cs) traj = (decide (c.scale = 0 ∨ (c.scoreTrajectory traj).isOk) && legal cs traj) :=
  List.all_cons

@[simp] theorem fullTotal_nil (traj : Trajectory2D α) : fullTotal [] traj = 0 := rfl

@[simp] theorem fullTotal_cons (c : TrajectoryCritic α) (cs : List (TrajectoryCritic α))
    (traj : Trajectory2D α) :
    fullTotal (c :: cs) traj =
      (if c.scale = 0 then 0 else c.scale * rawScore c traj) + fullTotal cs traj := by
  by_cases h : c.scale = 0 <;> simp [fullTotal, List.filter_cons, h]

@[simp] theorem firstIllegal_nil (traj : Trajectory2D α) : firstIllegal [] traj = none := rfl

theorem firstIllegal_cons (c : TrajectoryCritic α) (cs : List (TrajectoryCritic α))
    (traj : Trajectory2D α) :
    firstIllegal (c :: cs) traj =
      if c.scale = 0 then firstIllegal cs traj
      else match c.scoreTrajectory traj with
        | .error msg => some ⟨c.name, msg⟩
        | .ok _ => firstIllegal cs traj := by
  unfold firstIllegal
  rw [List.findSome?_cons]
  by_cases h : c.scale = 0
  · simp [h]
  · cases hc : c.scoreTrajectory traj <;> simp [h, hc]

theorem NonnegScores.tail {c : TrajectoryCritic α} {cs : List (TrajectoryCritic α)}
    {traj : Trajectory2D α} (h : NonnegScores (c :: cs) traj) : NonnegScores cs traj :=
  fun c' hc' => h c' (List.mem_cons_of_mem c hc')

theorem fullTotal_nonneg {critics : List (TrajectoryCritic α)} {traj : Trajectory2D α}
    (h : NonnegScores critics traj) : 0 ≤ fullTotal critics traj := by
  induction critics with
  | nil => simp
  | cons c cs ih =>
    obtain ⟨hs, hr⟩ := h c (List.mem_cons_self c cs)
    have hraw : 0 ≤ rawScore c traj := by
      unfold rawScore; split
      · exact hr _ ‹_›
      · exact le_rfl
    rw [fullTotal_cons]
    split_ifs
    · simpa using ih h.tail
    · exact add_nonneg (mul_nonneg hs hraw) (ih h.tail)

-- ════════════════════════════════════════════════════════════════════════
-- The critic loop against the reference
-- ════════════════════════════════════════════════════════════════════════

/-- The partial score `acc` completed over the critics `cs`, as the reference scores them. -/
def extendScore (traj : Trajectory2D α) (acc : TrajectoryScore α)
    (cs : List (TrajectoryCritic α)) : TrajectoryScore α :=
  { acc with
    scores := acc.scores ++ cs.map (criticScoreOf traj)
    total := acc.total + fullTotal cs traj }

@[simp] theorem extendScore_nil (traj : Trajectory2D α) (acc : TrajectoryScore α) :
    extendScore traj acc [] = acc := by
  simp [extendScore]

theorem extendScore_cons (traj : Trajectory2D α) (acc : TrajectoryScore α)
    (c : TrajectoryCritic α) (cs : List (TrajectoryCritic α)) :
    extendScore traj acc (c :: cs) = extendScore traj
      { acc with
        scores := acc.scores ++ [criticScoreOf traj c]
        total := acc.total + if c.scale = 0 then 0 else c.scale * rawScore c traj } cs := by
  simp [extendScore, add_assoc]

theorem scoreTrajectory_eq_extendScore (critics : List (TrajectoryCritic α))
    (traj : Trajectory2D α) : extendScore traj ⟨traj, [], 0⟩ critics = fullScore critics traj := by
  simp [extendScore, fullScore]

@[simp] theorem except_isOk_ok {ε β : Type} (x : β) : (Except.ok x : Except ε β).isOk = true :=
  rfl

@[simp] theorem except_isOk_error {ε β : Type} (e : ε) :
    (Except.error e : Except ε β).isOk = false :=
  rfl

variable {traj : Trajectory2D α} {b : α} {i : Nat} {c : TrajectoryCritic α}
  {cs : List (TrajectoryCritic α)} {acc : TrajectoryScore α}

theorem scoreCritics_cons_zero (h : c.scale = 0) :
    scoreCritics traj b i (c :: cs) acc = scoreCritics traj b (i + 1) cs
      { acc with scores := acc.scores ++ [⟨c.name, 0, c.scale⟩] } := by
  simp [scoreCritics, h]

theorem scoreCritics_cons_error {msg : String} (h : c.scale ≠ 0)
    (hc : c.scoreTrajectory traj = .error msg) :
    scoreCritics traj b i (c :: cs) acc = (.error ⟨c.name, msg⟩, [i]) := by
  simp [scoreCritics, h, hc]

theorem scoreCritics_cons_ok {r : α} (h : c.scale ≠ 0) (hc : c.scoreTrajectory traj = .ok r) :
    scoreCritics traj b i (c :: cs) acc =
      let acc' : TrajectoryScore α := { acc with
        scores := acc.scores ++ [⟨c.name, r, c.scale⟩], total := acc.total + r * c.scale }
      if b > 0 ∧ acc'.total > b then (.ok acc', [i])
      else ((scoreCritics traj b (i + 1) cs acc').1, i :: (scoreCritics traj b (i + 1) cs acc').2) := by
  simp [scoreCritics, h, hc]

theorem extendScore_cons_zero (h : c.scale = 0) :
    extendScore traj acc (c :: cs) =
      extendScore traj { acc with scores := acc.scores ++ [⟨c.name, 0, c.scale⟩] } cs := by
  simp [extendScore_cons, criticScoreOf, h]

theorem extendScore_cons_ok {r : α} (h : c.scale ≠ 0) (hc : c.scoreTrajectory traj = .ok r) :
    extendScore traj acc (c :: cs) = extendScore traj { acc with
      scores := acc.scores ++ [⟨c.name, r, c.scale⟩], total := acc.total + r * c.scale } cs := by
  simp [extendScore_cons, criticScoreOf, h, rawScore, hc, mul_comm]

theorem legal_cons_ok {r : α} (hc : c.scoreTrajectory traj = .ok r) :
    legal (c :: cs) traj = legal cs traj := by
  simp [hc]

/-- **Without a positive threshold nothing is cut short**: the loop returns the complete score,
or the rejection of the first critic with nonzero scale that signals illegal. -/
theorem scoreCritics_fst_of_nonpos (hb : b ≤ 0) :
    (scoreCritics traj b i cs acc).1 = match firstIllegal cs traj with
      | some e => .error e
      | none => .ok (extendScore traj acc cs) := by
  induction cs generalizing i acc with
  | nil => simp [scoreCritics]
  | cons c cs ih =>
    by_cases h : c.scale = 0
    · rw [scoreCritics_cons_zero h, extendScore_cons_zero h, ih, firstIllegal_cons, if_pos h]
    · cases hc : c.scoreTrajectory traj with
      | error msg => simp [scoreCritics_cons_error h hc, firstIllegal_cons, h, hc]
      | ok r =>
        have hnb : ¬(b > 0 ∧ acc.total + r * c.scale > b) := fun hb' => absurd hb hb'.1.not_le
        rw [scoreCritics_cons_ok h hc, extendScore_cons_ok h hc, firstIllegal_cons, if_neg h, hc]
        simp only [if_neg hnb, ih]

/-- **A legal trajectory that cannot beat the threshold is scored completely.** -/
theorem scoreCritics_fst_of_le (hl : legal cs traj) (hn : NonnegScores cs traj)
    (hle : acc.total + fullTotal cs traj ≤ b) :
    (scoreCritics traj b i cs acc).1 = .ok (extendScore traj acc cs) := by
  induction cs generalizing i acc with
  | nil => simp [scoreCritics]
  | cons c cs ih =>
    have hrest := fullTotal_nonneg hn.tail
    by_cases h : c.scale = 0
    · rw [scoreCritics_cons_zero h, extendScore_cons_zero h]
      simp only [fullTotal_cons, h, if_true, zero_add] at hle
      exact ih (by simpa [h] using hl) hn.tail hle
    · obtain ⟨r, hc⟩ : ∃ r, c.scoreTrajectory traj = .ok r := by
        cases hc : c.scoreTrajectory traj with
        | ok r => exact ⟨r, rfl⟩
        | error _ => simp [hc, h] at hl
      simp only [fullTotal_cons, h, if_false, rawScore, hc] at hle
      have hcut : ¬(b > 0 ∧ acc.total + r * c.scale > b) := fun hb => by
        linarith only [hb.2, hle, hrest]
      rw [scoreCritics_cons_ok h hc, extendScore_cons_ok h hc]
      simp only [if_neg hcut]
      exact ih (by rwa [legal_cons_ok hc] at hl) hn.tail (by simp only; linarith only [hle])

/-- **What a returned score can be**: the complete score of a legal trajectory, or a partial
total cut short above a positive threshold. -/
theorem scoreCritics_fst_eq_ok {s : TrajectoryScore α} (h : (scoreCritics traj b i cs acc).1 = .ok s) :
    (legal cs traj ∧ s = extendScore traj acc cs) ∨ (b > 0 ∧ s.total > b) := by
  induction cs generalizing i acc with
  | nil => simp_all [scoreCritics]
  | cons c cs ih =>
    by_cases hs : c.scale = 0
    · rw [scoreCritics_cons_zero hs] at h
      rw [extendScore_cons_zero hs]
      simpa [hs] using ih h
    · cases hc : c.scoreTrajectory traj with
      | error msg => simp [scoreCritics_cons_error hs hc] at h
      | ok r =>
        rw [scoreCritics_cons_ok hs hc] at h
        rw [extendScore_cons_ok hs hc, legal_cons_ok hc]
        simp only at h
        split_ifs at h with hcut
        · cases h; exact .inr hcut
        · exact ih h

/-- **The loop never throws on a legal trajectory.** -/
theorem scoreCritics_fst_isOk (hl : legal cs traj) : (scoreCritics traj b i cs acc).1.isOk := by
  induction cs generalizing i acc with
  | nil => rfl
  | cons c cs ih =>
    by_cases hs : c.scale = 0
    · rw [scoreCritics_cons_zero hs]; exact ih (by simp_all)
    · cases hc : c.scoreTrajectory traj with
      | error msg => simp [hc, hs] at hl
      | ok r =>
        rw [scoreCritics_cons_ok hs hc]
        simp only
        split_ifs
        · rfl
        · exact ih (by rwa [legal_cons_ok hc] at hl)

theorem legal_eq_isNone (cs : List (TrajectoryCritic α)) (traj : Trajectory2D α) :
    legal cs traj = (firstIllegal cs traj).isNone := by
  induction cs with
  | nil => rfl
  | cons c cs ih =>
    by_cases h : c.scale = 0
    · simp [firstIllegal_cons, h, ih]
    · cases hc : c.scoreTrajectory traj <;> simp [firstIllegal_cons, h, hc, ih]

theorem scoreCritics_traj {s : TrajectoryScore α} (h : (scoreCritics traj b i cs acc).1 = .ok s) :
    s.traj = acc.traj := by
  induction cs generalizing i acc with
  | nil => simp_all [scoreCritics]
  | cons c cs ih =>
    by_cases hs : c.scale = 0
    · rw [scoreCritics_cons_zero hs] at h
      have := ih h; exact this
    · cases hc : c.scoreTrajectory traj with
      | error msg => simp [scoreCritics_cons_error hs hc] at h
      | ok r =>
        rw [scoreCritics_cons_ok hs hc] at h
        simp only at h
        split_ifs at h
        · cases h; rfl
        · have := ih h; exact this

-- ════════════════════════════════════════════════════════════════════════
-- `scoreTrajectory` against the reference
-- ════════════════════════════════════════════════════════════════════════

variable {critics : List (TrajectoryCritic α)}

theorem scoreTrajectory_of_nonpos (hb : b ≤ 0) :
    (scoreTrajectory critics traj b).1 = match firstIllegal critics traj with
      | some e => .error e
      | none => .ok (fullScore critics traj) := by
  rw [scoreTrajectory, scoreCritics_fst_of_nonpos hb, scoreTrajectory_eq_extendScore]

theorem scoreTrajectory_of_le (hl : legal critics traj) (hn : NonnegScores critics traj)
    (hle : fullTotal critics traj ≤ b) :
    (scoreTrajectory critics traj b).1 = .ok (fullScore critics traj) := by
  rw [scoreTrajectory, scoreCritics_fst_of_le hl hn (by simpa using hle),
    scoreTrajectory_eq_extendScore]

theorem scoreTrajectory_eq_ok {s : TrajectoryScore α}
    (h : (scoreTrajectory critics traj b).1 = .ok s) :
    (legal critics traj ∧ s = fullScore critics traj) ∨ (b > 0 ∧ s.total > b) := by
  rw [← scoreTrajectory_eq_extendScore]; exact scoreCritics_fst_eq_ok h

theorem scoreTrajectory_isOk (hl : legal critics traj) :
    (scoreTrajectory critics traj b).1.isOk :=
  scoreCritics_fst_isOk hl

-- ════════════════════════════════════════════════════════════════════════
-- The reference selection, one candidate at a time
-- ════════════════════════════════════════════════════════════════════════

variable {pre : List (Trajectory2D α)} {t u : Trajectory2D α}

theorem IsFirstMinimal.le (h : IsFirstMinimal critics pre t) {v : Trajectory2D α} (hv : v ∈ pre)
    (hl : legal critics v) : fullTotal critics t ≤ fullTotal critics v := by
  obtain ⟨before, after, rfl, -, hb, ha⟩ := h
  simp only [List.mem_append, List.mem_cons] at hv
  rcases hv with hv | rfl | hv
  · exact (hb v hv hl).le
  · exact le_rfl
  · exact ha v hv hl

theorem IsFirstMinimal.mem (h : IsFirstMinimal critics pre t) : t ∈ pre ∧ legal critics t := by
  obtain ⟨before, after, rfl, hl, -, -⟩ := h
  exact ⟨by simp, hl⟩

/-- The first legal candidate is the reference selection so far. -/
theorem IsFirstMinimal.snoc_first (hall : ∀ v ∈ pre, legal critics v = false)
    (hu : legal critics u) : IsFirstMinimal critics (pre ++ [u]) u :=
  ⟨pre, [], rfl, hu, fun v hv hl => by simp [hall v hv] at hl, by simp⟩

/-- A legal candidate strictly cheaper than the selection so far replaces it. -/
theorem IsFirstMinimal.snoc_lt (h : IsFirstMinimal critics pre t) (hu : legal critics u)
    (hlt : fullTotal critics u < fullTotal critics t) : IsFirstMinimal critics (pre ++ [u]) u :=
  ⟨pre, [], rfl, hu, fun _ hv hl => lt_of_lt_of_le hlt (h.le hv hl), by simp⟩

/-- Any other candidate leaves the selection as it is. -/
theorem IsFirstMinimal.snoc_not_lt (h : IsFirstMinimal critics pre t)
    (hu : ¬(legal critics u ∧ fullTotal critics u < fullTotal critics t)) :
    IsFirstMinimal critics (pre ++ [u]) t := by
  obtain ⟨before, after, rfl, hl, hb, ha⟩ := h
  refine ⟨before, after ++ [u], by simp, hl, hb, fun v hv hlv => ?_⟩
  simp only [List.mem_append, List.mem_singleton] at hv
  rcases hv with hv | rfl
  · exact ha v hv hlv
  · exact not_lt.mp fun hlt => hu ⟨hlv, hlt⟩

-- ════════════════════════════════════════════════════════════════════════
-- One iteration of the candidate loop
-- ════════════════════════════════════════════════════════════════════════

variable {s s' : ScoringLoop α} {score : TrajectoryScore α} {e : IllegalTrajectoryException}

theorem scoringStep_of_ok (h : (scoreTrajectory critics u s.best.total).1 = .ok score) :
    (scoringStep critics s u).best =
        (if s.best.total < 0 ∨ score.total < s.best.total then score else s.best) ∧
      (scoringStep critics s u).tracker = s.tracker.addLegalTrajectory ∧
      (scoringStep critics s u).results = s.results.map (recordScore · score
        (decide (s.best.total < 0 ∨ score.total < s.best.total))
        (decide (s.worst.total < 0 ∨ score.total > s.worst.total))) := by
  simp [scoringStep, h]

theorem scoringStep_of_error (h : (scoreTrajectory critics u s.best.total).1 = .error e) :
    (scoringStep critics s u).best = s.best ∧
      (scoringStep critics s u).tracker = s.tracker.addIllegalTrajectory e ∧
      (scoringStep critics s u).results =
        s.results.map fun r => { r with twists := r.twists ++ [failedScore u e] } := by
  simp [scoringStep, h]

theorem scoringStep_calls :
    (scoringStep critics s u).calls = s.calls ++
      (scoreTrajectory critics u s.best.total).2.map fun i => (i, .scoreTrajectory u) := by
  simp only [scoringStep]; split <;> rfl

/-- The invariant of the candidate loop after the candidates `pre`: while no legal candidate
has been seen, `best.total` is negative and the tracker holds each candidate's first
rejecting critic; afterwards `best` is the complete score of the reference selection. -/
structure LoopInv (critics : List (TrajectoryCritic α)) (pre : List (Trajectory2D α))
    (s : ScoringLoop α) : Prop where
  best : (s.best.total < 0 ∧ ∀ t ∈ pre, legal critics t = false) ∨
    ∃ t, IsFirstMinimal critics pre t ∧ s.best = fullScore critics t
  tracker : (∀ t ∈ pre, legal critics t = false) →
    s.tracker.outcomes = pre.map (firstIllegal critics)

theorem LoopInv.init (results : Option (LocalPlanEvaluation α)) :
    LoopInv critics [] (ScoringLoop.init results) :=
  ⟨.inl ⟨by norm_num [ScoringLoop.init, ScoringLoop.initScore], by simp⟩, fun _ => rfl⟩

/-- **The loop invariant is kept by each candidate.** Before the first legal candidate the
threshold is negative, so nothing is cut short; afterwards a cut-short score exceeds the best
total, so it never replaces the selection. -/
theorem LoopInv.step (hi : LoopInv critics pre s)
    (hn : ∀ v ∈ pre ++ [u], NonnegScores critics v) :
    LoopInv critics (pre ++ [u]) (scoringStep critics s u) := by
  rcases hi.best with ⟨hneg, hall⟩ | ⟨t, hmin, hbest⟩
  · have hsc : (scoreTrajectory critics u s.best.total).1 = _ := scoreTrajectory_of_nonpos hneg.le
    cases hf : firstIllegal critics u with
    | some e =>
      rw [hf] at hsc
      obtain ⟨hb, ht, -⟩ := scoringStep_of_error hsc
      have hu : legal critics u = false := by simp [legal_eq_isNone, hf]
      refine ⟨.inl ⟨hb ▸ hneg, fun v hv => ?_⟩, fun _ => ?_⟩
      · rcases List.mem_append.mp hv with hv | hv
        · exact hall v hv
        · rwa [List.mem_singleton.mp hv]
      · simp [ht, hi.tracker hall, hf, IllegalTrajectoryTracker.addIllegalTrajectory]
    | none =>
      rw [hf] at hsc
      have hu : legal critics u = true := by simp [legal_eq_isNone, hf]
      refine ⟨.inr ⟨u, IsFirstMinimal.snoc_first hall hu, ?_⟩, fun h => ?_⟩
      · simp [(scoringStep_of_ok hsc).1, hneg]
      · simp [h u (by simp)] at hu
  · have htot : s.best.total = fullTotal critics t := by rw [hbest]; rfl
    have hnn : ¬s.best.total < 0 :=
      not_lt.mpr (htot ▸ fullTotal_nonneg (hn t (List.mem_append_left _ hmin.mem.1)))
    refine ⟨.inr ?_, fun h => absurd (h t (List.mem_append_left _ hmin.mem.1)) (by simp [hmin.mem.2])⟩
    cases hsc : (scoreTrajectory critics u s.best.total).1 with
    | error e =>
      have hu : legal critics u = false := by
        by_contra hu
        have := scoreTrajectory_isOk (b := s.best.total) (Bool.not_eq_false _ ▸ hu)
        simp [hsc] at this
      exact ⟨t, hmin.snoc_not_lt (by simp [hu]), (scoringStep_of_error hsc).1.trans hbest⟩
    | ok score =>
      rw [(scoringStep_of_ok hsc).1]
      rcases scoreTrajectory_eq_ok hsc with ⟨hu, rfl⟩ | ⟨-, hgt⟩
      · by_cases hlt : fullTotal critics u < fullTotal critics t
        · rw [if_pos (Or.inr (htot ▸ hlt))]
          exact ⟨u, hmin.snoc_lt hu hlt, rfl⟩
        · rw [if_neg (not_or.mpr ⟨hnn, htot ▸ hlt⟩)]
          exact ⟨t, hmin.snoc_not_lt fun h => hlt h.2, hbest⟩
      · rw [if_neg (not_or.mpr ⟨hnn, hgt.not_lt⟩)]
        refine ⟨t, hmin.snoc_not_lt fun ⟨hu, hlt⟩ => ?_, hbest⟩
        have hfull := scoreTrajectory_of_le hu (hn u (by simp)) (htot ▸ hlt.le)
        rw [hsc, Except.ok.injEq] at hfull
        rw [hfull, htot] at hgt
        exact absurd hlt (not_lt.mpr hgt.le)

theorem LoopInv.foldl {l : List (Trajectory2D α)} (hi : LoopInv critics pre s)
    (hn : ∀ v ∈ pre ++ l, NonnegScores critics v) :
    LoopInv critics (pre ++ l) (l.foldl (scoringStep critics) s) := by
  induction l generalizing pre s with
  | nil => simpa using hi
  | cons u l ih =>
    have hstep := hi.step (u := u) fun v hv => hn v (by
      rw [List.mem_append, List.mem_singleton] at hv
      rw [List.mem_append, List.mem_cons]
      tauto)
    rw [List.foldl_cons, List.append_cons]
    exact ih hstep (by simpa using hn)

-- ════════════════════════════════════════════════════════════════════════
-- `coreScoringAlgorithm` refines full scoring
-- ════════════════════════════════════════════════════════════════════════

variable {gen : TrajectoryGenerator α} {pose : Pose2D α} {velocity : Twist2D α}
  {results : Option (LocalPlanEvaluation α)}

/-- The loop state `coreScoringAlgorithm` ends with. -/
def scoringLoopResult (gen : TrajectoryGenerator α) (critics : List (TrajectoryCritic α))
    (pose : Pose2D α) (velocity : Twist2D α) (results : Option (LocalPlanEvaluation α)) :
    ScoringLoop α :=
  (candidates gen pose velocity).foldl (scoringStep critics) (ScoringLoop.init results)

theorem coreScoringAlgorithm_result : (coreScoringAlgorithm gen critics pose velocity results).result =
    if (scoringLoopResult gen critics pose velocity results).best.total < 0 then
      .error (.noLegalTrajectories (scoringLoopResult gen critics pose velocity results).tracker)
    else .ok (scoringLoopResult gen critics pose velocity results).best := rfl

theorem scoringLoopResult_inv (hn : ∀ t ∈ candidates gen pose velocity, NonnegScores critics t) :
    LoopInv critics (candidates gen pose velocity) (scoringLoopResult gen critics pose velocity results) := by
  simpa using (LoopInv.init results).foldl (by simpa using hn)

/-- The loop ends with a negative best total exactly when no candidate is legal. -/
theorem scoringLoopResult_best_neg_iff
    (hn : ∀ t ∈ candidates gen pose velocity, NonnegScores critics t) :
    (scoringLoopResult gen critics pose velocity results).best.total < 0 ↔
      ∀ t ∈ candidates gen pose velocity, legal critics t = false := by
  have hi : LoopInv critics _ (scoringLoopResult gen critics pose velocity results) :=
    scoringLoopResult_inv hn
  rcases hi.best with ⟨hneg, hall⟩ | ⟨t, ht, hb⟩
  · exact iff_of_true hneg hall
  · refine iff_of_false ?_ fun hall => absurd ht.mem.2 (by simp [hall t ht.mem.1])
    rw [hb]; exact not_lt.mpr (fullTotal_nonneg (hn t ht.mem.1))

theorem coreScoringAlgorithm_noLegal_iff
    (hn : ∀ t ∈ candidates gen pose velocity, NonnegScores critics t) :
    (∃ tracker, (coreScoringAlgorithm gen critics pose velocity results).result =
        .error (.noLegalTrajectories tracker)) ↔
      ∀ t ∈ candidates gen pose velocity, legal critics t = false := by
  rw [coreScoringAlgorithm_result, ← scoringLoopResult_best_neg_iff hn]
  split_ifs with hneg
  · exact iff_of_true ⟨_, rfl⟩ hneg
  · exact iff_of_false (fun ⟨_, h⟩ => by simp at h) hneg

theorem coreScoringAlgorithm_ok_isFirstMinimal
    (hn : ∀ t ∈ candidates gen pose velocity, NonnegScores critics t) {best : TrajectoryScore α}
    (h : (coreScoringAlgorithm gen critics pose velocity results).result = .ok best) :
    ∃ t, IsFirstMinimal critics (candidates gen pose velocity) t ∧ best = fullScore critics t := by
  rw [coreScoringAlgorithm_result] at h
  split_ifs at h with hneg
  have hi : LoopInv critics _ (scoringLoopResult gen critics pose velocity results) :=
    scoringLoopResult_inv hn
  rcases hi.best with ⟨hlt, -⟩ | ⟨t, ht, hb⟩
  · exact absurd hlt hneg
  · exact ⟨t, ht, (Except.ok.inj h).symm.trans hb⟩

/-- **Early exit is sound.** With non-negative scales and raw scores, `coreScoringAlgorithm` throws
`NoLegalTrajectoriesException` exactly when no candidate is legal, and otherwise returns the
complete score of the first candidate whose full total is minimal among the legal ones. -/
theorem coreScoringAlgorithm_refines_fullScoring (gen : TrajectoryGenerator α)
    (critics : List (TrajectoryCritic α)) (pose : Pose2D α) (velocity : Twist2D α)
    (results : Option (LocalPlanEvaluation α))
    (hn : ∀ t ∈ candidates gen pose velocity, NonnegScores critics t) :
    ((∃ tracker, (coreScoringAlgorithm gen critics pose velocity results).result =
        .error (.noLegalTrajectories tracker)) ↔
      ∀ t ∈ candidates gen pose velocity, legal critics t = false) ∧
    ∀ best, (coreScoringAlgorithm gen critics pose velocity results).result = .ok best →
      ∃ t, IsFirstMinimal critics (candidates gen pose velocity) t ∧ best = fullScore critics t :=
  ⟨coreScoringAlgorithm_noLegal_iff hn, fun _ => coreScoringAlgorithm_ok_isFirstMinimal hn⟩

/-- A two-candidate cycle scored by one path critic. -/
def sampleGenerator : TrajectoryGenerator ℚ :=
  ⟨fun _ => [⟨1, 0, 0⟩, ⟨0, 0, 1⟩], fun _ _ twist => ⟨twist, []⟩⟩

def sampleCritics : List (TrajectoryCritic ℚ) :=
  [⟨"PathDist", 1, fun traj => .ok traj.velocity.x⟩]

theorem coreScoringAlgorithm_refines_fullScoring_sample :
    (∀ t ∈ candidates sampleGenerator default default, NonnegScores sampleCritics t) ∧
    ((∃ tracker, (coreScoringAlgorithm sampleGenerator sampleCritics default default none).result =
        .error (.noLegalTrajectories tracker)) ↔
      ∀ t ∈ candidates sampleGenerator default default, legal sampleCritics t = false) ∧
    ∀ best, (coreScoringAlgorithm sampleGenerator sampleCritics default default none).result =
        .ok best →
      ∃ t, IsFirstMinimal sampleCritics (candidates sampleGenerator default default) t ∧
        best = fullScore sampleCritics t := by
  have hn : ∀ t ∈ candidates sampleGenerator default default, NonnegScores sampleCritics t := by
    simp [candidates, sampleGenerator, sampleCritics, NonnegScores]
  exact ⟨hn, coreScoringAlgorithm_refines_fullScoring _ _ _ _ none hn⟩

/-- **The diagnostics of a failed cycle.** When `coreScoringAlgorithm` throws
`NoLegalTrajectoriesException`, its tracker received no `addLegalTrajectory` call, so no
candidate was cut short, and one `addIllegalTrajectory` call per candidate in sample order,
naming that candidate's first rejecting critic with nonzero scale. The breakdown therefore
counts every candidate once, against that critic. -/
theorem coreScoringAlgorithm_noLegal_tracker (gen : TrajectoryGenerator α)
    (critics : List (TrajectoryCritic α)) (pose : Pose2D α) (velocity : Twist2D α)
    (results : Option (LocalPlanEvaluation α))
    (hn : ∀ t ∈ candidates gen pose velocity, NonnegScores critics t)
    {tracker : IllegalTrajectoryTracker}
    (h : (coreScoringAlgorithm gen critics pose velocity results).result =
      .error (.noLegalTrajectories tracker)) :
    none ∉ tracker.outcomes ∧
    tracker.outcomes = (candidates gen pose velocity).map (firstIllegal critics) ∧
    ∀ name, tracker.rejectionsBy name = (candidates gen pose velocity).countP
      fun t => (firstIllegal critics t).any (·.criticName == name) := by
  rw [coreScoringAlgorithm_result] at h
  split_ifs at h with hneg
  simp only [Except.error.injEq, PlannerException.noLegalTrajectories.injEq] at h
  subst h
  have hall := (scoringLoopResult_best_neg_iff hn).mp hneg
  have hi : LoopInv critics _ (scoringLoopResult gen critics pose velocity results) :=
    scoringLoopResult_inv hn
  have hout := hi.tracker hall
  refine ⟨?_, hout, fun name => by simp [IllegalTrajectoryTracker.rejectionsBy, hout,
    List.countP_map, Function.comp_def]⟩
  rw [hout, List.mem_map]
  rintro ⟨t, ht, hf⟩
  have := hall t ht
  simp [legal_eq_isNone, hf] at this

/-- Two critics: `GoalAlign` with scale 0, and `ObstacleFootprint` with scale 1, which rejects
every trajectory as hitting an obstacle. -/
def rejectingCritics : List (TrajectoryCritic ℚ) :=
  [⟨"GoalAlign", 0, fun _ => .ok 0⟩,
    ⟨"ObstacleFootprint", 1, fun _ => .error "Trajectory Hits Obstacle."⟩]

theorem coreScoringAlgorithm_noLegal_tracker_sample :
    let rejection : IllegalTrajectoryException := ⟨"ObstacleFootprint", "Trajectory Hits Obstacle."⟩
    none ∉ [some rejection, some rejection] ∧
    [some rejection, some rejection] =
      (candidates sampleGenerator default default).map (firstIllegal rejectingCritics) ∧
    ∀ name, IllegalTrajectoryTracker.rejectionsBy ⟨[some rejection, some rejection]⟩ name =
      (candidates sampleGenerator default default).countP
        fun t => (firstIllegal rejectingCritics t).any (·.criticName == name) :=
  coreScoringAlgorithm_noLegal_tracker sampleGenerator rejectingCritics default default none
    (by simp [candidates, sampleGenerator, rejectingCritics, NonnegScores])
    (by simp [coreScoringAlgorithm, candidates, sampleGenerator, rejectingCritics, scoringStep,
      scoreTrajectory, scoreCritics, ScoringLoop.init, ScoringLoop.initScore,
      IllegalTrajectoryTracker.addIllegalTrajectory])

-- ════════════════════════════════════════════════════════════════════════
-- The evaluation record
-- ════════════════════════════════════════════════════════════════════════

/-- Two loop states that may differ only in their evaluation records. -/
def SameDecisions (s s' : ScoringLoop α) : Prop :=
  s.best = s'.best ∧ s.worst = s'.worst ∧ s.tracker = s'.tracker ∧ s.calls = s'.calls

theorem SameDecisions.step (h : SameDecisions s s') :
    SameDecisions (scoringStep critics s u) (scoringStep critics s' u) := by
  obtain ⟨hb, hw, ht, hc⟩ := h
  simp only [scoringStep, hb, hw, ht, hc]
  split <;> exact ⟨rfl, rfl, rfl, rfl⟩

theorem SameDecisions.foldl {l : List (Trajectory2D α)} (h : SameDecisions s s') :
    SameDecisions (l.foldl (scoringStep critics) s) (l.foldl (scoringStep critics) s') := by
  induction l generalizing s s' with
  | nil => exact h
  | cons u l ih => exact ih h.step

/-- The evaluation record after the candidates `pre`, from the record `r0`: one entry per
candidate, in sample order, and the best index at the best score once there is one. -/
def RecordInv (r0 : LocalPlanEvaluation α) (pre : List (Trajectory2D α)) (s : ScoringLoop α) :
    Prop :=
  ∃ r, s.results = some r ∧ r.twists.map (·.traj) = r0.twists.map (·.traj) ++ pre ∧
    (¬s.best.total < 0 → r.twists[r.bestIndex]? = some s.best)

theorem getElem?_append_singleton_of_eq_some {β : Type} {l : List β} {k : Nat} {x y : β}
    (h : l[k]? = some x) : (l ++ [y])[k]? = some x := by
  rw [List.getElem?_append_left (List.getElem?_eq_some_iff.mp h).1, h]

theorem RecordInv.step {r0 : LocalPlanEvaluation α} (h : RecordInv r0 pre s) :
    RecordInv r0 (pre ++ [u]) (scoringStep critics s u) := by
  obtain ⟨r, hr, hmap, hidx⟩ := h
  cases hsc : (scoreTrajectory critics u s.best.total).1 with
  | error e =>
    obtain ⟨hb, -, hres⟩ := scoringStep_of_error hsc
    refine ⟨_, by rw [hres, hr]; rfl, by simp [hmap, failedScore], fun hneg => ?_⟩
    rw [hb] at hneg ⊢
    exact getElem?_append_singleton_of_eq_some (hidx hneg)
  | ok score =>
    obtain ⟨hb, -, hres⟩ := scoringStep_of_ok hsc
    have htraj : score.traj = u := scoreCritics_traj hsc
    refine ⟨_, by rw [hres, hr]; rfl, by simp [hmap, htraj], fun _ => ?_⟩
    rw [hb]
    by_cases hbest : s.best.total < 0 ∨ score.total < s.best.total
    · simp only [hbest, decide_True, if_true, recordScore_best]
    · simp only [hbest, decide_False, if_false, recordScore_twists, recordScore_bestIndex_false]
      exact getElem?_append_singleton_of_eq_some (hidx (not_or.mp hbest).1)

theorem RecordInv.foldl {r0 : LocalPlanEvaluation α} {l : List (Trajectory2D α)}
    (h : RecordInv r0 pre s) : RecordInv r0 (pre ++ l) (l.foldl (scoringStep critics) s) := by
  induction l generalizing pre s with
  | nil => simpa using h
  | cons u l ih => simpa using ih h.step

/-- **Recording is only a diagnostic.** `coreScoringAlgorithm` returns the same best score, or
throws the same way, with or without an evaluation record. With the fresh record the wrapper
allocates, the record ends with one entry per candidate in sample order, legal and illegal
alike, and its best index points at the returned score. -/
theorem coreScoringAlgorithm_results_faithful (gen : TrajectoryGenerator α)
    (critics : List (TrajectoryCritic α)) (pose : Pose2D α) (velocity : Twist2D α) :
    (∀ r0, (coreScoringAlgorithm gen critics pose velocity none).result =
      (coreScoringAlgorithm gen critics pose velocity (some r0)).result) ∧
    ∃ r, (coreScoringAlgorithm gen critics pose velocity (some .fresh)).results = some r ∧
      r.twists.map (·.traj) = candidates gen pose velocity ∧
      ∀ best, (coreScoringAlgorithm gen critics pose velocity (some .fresh)).result = .ok best →
        r.twists[r.bestIndex]? = some best := by
  refine ⟨fun r0 => ?_, ?_⟩
  · obtain ⟨hb, -, ht, -⟩ : SameDecisions (scoringLoopResult gen critics pose velocity none)
        (scoringLoopResult gen critics pose velocity (some r0)) :=
      SameDecisions.foldl ⟨rfl, rfl, rfl, rfl⟩
    rw [coreScoringAlgorithm_result, coreScoringAlgorithm_result, hb, ht]
  · have h0 : RecordInv (α := α) .fresh [] (ScoringLoop.init (some .fresh)) :=
      ⟨_, rfl, rfl, fun h => absurd (by norm_num [ScoringLoop.init, ScoringLoop.initScore]) h⟩
    obtain ⟨r, hr, hmap, hidx⟩ : RecordInv .fresh ([] ++ candidates gen pose velocity)
      (scoringLoopResult gen critics pose velocity (some .fresh)) := h0.foldl
    refine ⟨r, hr, by simpa [LocalPlanEvaluation.fresh] using hmap, fun best h => ?_⟩
    rw [coreScoringAlgorithm_result] at h
    split_ifs at h with hneg
    simp only [Except.ok.injEq] at h
    rw [← h]; exact hidx hneg

end DwbCore
