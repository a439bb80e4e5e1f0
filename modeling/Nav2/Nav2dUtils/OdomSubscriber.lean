import Nav2.Msgs

/-!
# The odometry subscriber

`nav_2d_utils::OdomSubscriber` keeps the velocity of the last odometry message it received, each
component whose magnitude is at most its threshold reported as zero. The thresholds are the
parameters `min_x_velocity_threshold`, `min_y_velocity_threshold` and
`min_theta_velocity_threshold`, 0.0001 unless set. The subscription itself (`rclcpp`) is not
modelled: the messages arrive as a list, and the mutex only serialises them.
-/

namespace Nav2dUtils
open Nav2dMsgs

/-- `nav_msgs::msg::Odometry`, reduced to what `odomCallback` reads: the frame id of the header
and the three components of `twist.twist` the planner uses. -/
structure Odometry (α : Type) where
  frameId : String
  linearX : α
  linearY : α
  angularZ : α
  deriving DecidableEq, Repr

/-- `nav_2d_msgs::msg::Twist2DStamped`, its header reduced to the frame id. -/
structure Twist2DStamped (α : Type) where
  frameId : String
  velocity : Twist2D α
  deriving DecidableEq, Repr

/-- The members of `OdomSubscriber` its methods read and write. -/
structure OdomSubscriber (α : Type) where
  odomTopic : String
  odomVel : Twist2DStamped α
  minXVelocityThreshold : α
  minYVelocityThreshold : α
  minThetaVelocityThreshold : α
  deriving DecidableEq, Repr

namespace OdomSubscriber

variable {α : Type} [LinearOrderedField α]

/-- The constructor `OdomSubscriber(nh, default_topic)`, with the values of the parameters
`odom_topic` and the three thresholds, `none` when not set. `odom_vel_` starts
default-constructed. -/
def new (defaultTopic : String) (odomTopic : Option String)
    (minXVelocityThreshold minYVelocityThreshold minThetaVelocityThreshold : Option α) :
    OdomSubscriber α :=
  ⟨odomTopic.getD defaultTopic, ⟨"", default⟩, minXVelocityThreshold.getD 0.0001,
    minYVelocityThreshold.getD 0.0001, minThetaVelocityThreshold.getD 0.0001⟩

/-- `thresholded_velocity(velocity, threshold)`. -/
def thresholdedVelocity (velocity threshold : α) : α :=
  if |velocity| > threshold then velocity else 0

/-- `odomCallback(msg)`. -/
def odomCallback (s : OdomSubscriber α) (msg : Odometry α) : OdomSubscriber α :=
  { s with odomVel := ⟨msg.frameId,
    ⟨thresholdedVelocity msg.linearX s.minXVelocityThreshold,
      thresholdedVelocity msg.linearY s.minYVelocityThreshold,
      thresholdedVelocity msg.angularZ s.minThetaVelocityThreshold⟩⟩ }

/-- `getTwist()`. -/
def getTwist (s : OdomSubscriber α) : Twist2D α := s.odomVel.velocity

end OdomSubscriber

end Nav2dUtils
