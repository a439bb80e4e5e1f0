import Mathlib

/-!
# Messages and exceptions of the DWB local planner

The message types the planner reads and writes, and the exceptions it throws. A `double`
field is modelled in an arbitrary linear ordered field `α`, so the arithmetic is exact.
Header stamps are dropped, since no modelled decision reads them. Frame ids stay, because
they select the transforms.
-/

namespace Nav2dMsgs

/-- `geometry_msgs::msg::Pose2D`. -/
structure Pose2D (α : Type) where
  x : α
  y : α
  theta : α
  deriving DecidableEq, Repr

/-- `nav_2d_msgs::msg::Twist2D`. -/
structure Twist2D (α : Type) where
  x : α
  y : α
  theta : α
  deriving DecidableEq, Repr

/-- A default-constructed message has every field zero. -/
instance {α : Type} [Zero α] : Inhabited (Pose2D α) := ⟨⟨0, 0, 0⟩⟩

instance {α : Type} [Zero α] : Inhabited (Twist2D α) := ⟨⟨0, 0, 0⟩⟩

/-- `nav_2d_msgs::msg::Pose2DStamped`, its header reduced to the frame id. -/
structure Pose2DStamped (α : Type) where
  frameId : String
  pose : Pose2D α
  deriving DecidableEq, Repr

instance {α : Type} [Zero α] : Inhabited (Pose2DStamped α) := ⟨⟨"", default⟩⟩

/-- `nav_2d_msgs::msg::Path2D`. -/
structure Path2D (α : Type) where
  frameId : String
  poses : List (Pose2D α)
  deriving DecidableEq, Repr

end Nav2dMsgs

namespace DwbMsgs
open Nav2dMsgs

/-- `dwb_msgs::msg::Trajectory2D`: the twist the trajectory was generated for, and its poses. -/
structure Trajectory2D (α : Type) where
  velocity : Twist2D α
  poses : List (Pose2D α)
  deriving DecidableEq, Repr

instance {α : Type} [Zero α] : Inhabited (Trajectory2D α) := ⟨⟨default, []⟩⟩

/-- `dwb_msgs::msg::CriticScore`. -/
structure CriticScore (α : Type) where
  name : String
  rawScore : α
  scale : α
  deriving DecidableEq, Repr

/-- `dwb_msgs::msg::TrajectoryScore`. -/
structure TrajectoryScore (α : Type) where
  traj : Trajectory2D α
  scores : List (CriticScore α)
  total : α
  deriving DecidableEq, Repr

/-- `dwb_msgs::msg::LocalPlanEvaluation`, the optional record of one scoring pass. The two
indices are unbounded naturals: the message definition is not in the sources. -/
structure LocalPlanEvaluation (α : Type) where
  twists : List (TrajectoryScore α)
  bestIndex : Nat
  worstIndex : Nat
  deriving DecidableEq, Repr

/-- The record `computeVelocityCommands` allocates with `std::make_shared`. -/
def LocalPlanEvaluation.fresh {α : Type} : LocalPlanEvaluation α := ⟨[], 0, 0⟩

end DwbMsgs

namespace NavCore2

/-- `nav_core2::IllegalTrajectoryException`: the critic that rejected a trajectory, and why. -/
structure IllegalTrajectoryException where
  criticName : String
  msg : String
  deriving DecidableEq, Repr

/-- Modelled from the spec: `dwb_core::IllegalTrajectoryTracker`, whose header is not in the
sources. It keeps the calls the scoring loop makes on it, in order: `none` for
`addLegalTrajectory()` and `some e` for `addIllegalTrajectory(e)`. -/
structure IllegalTrajectoryTracker where
  outcomes : List (Option IllegalTrajectoryException)
  deriving DecidableEq, Repr

namespace IllegalTrajectoryTracker

def addLegalTrajectory (t : IllegalTrajectoryTracker) : IllegalTrajectoryTracker :=
  ⟨t.outcomes ++ [none]⟩

def addIllegalTrajectory (t : IllegalTrajectoryTracker) (e : IllegalTrajectoryException) :
    IllegalTrajectoryTracker :=
  ⟨t.outcomes ++ [some e]⟩

/-- Modelled from the spec: how many rejections the breakdown attributes to critic `name`. -/
def rejectionsBy (t : IllegalTrajectoryTracker) (name : String) : Nat :=
  t.outcomes.countP fun o => o.any (·.criticName == name)

end IllegalTrajectoryTracker

/-- The exceptions of `nav_core2` that the planner throws; `noLegalTrajectories` is
`dwb_core::NoLegalTrajectoriesException`, which carries the tracker. -/
inductive PlannerException where
  | plannerException (msg : String)
  | plannerTFException (msg : String)
  | noLegalTrajectories (tracker : IllegalTrajectoryTracker)
  deriving DecidableEq, Repr

end NavCore2
