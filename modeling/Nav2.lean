import Nav2.Msgs
import Nav2.Double
import Nav2.DwbPlugins.KinematicParameters
import Nav2.DwbCore.Scoring
import Nav2.DwbCore.TransformGlobalPlan
import Nav2.DwbCore.LocalPlanner
import Nav2.DwbCore.LoadCritics
import Nav2.Costmap2d.InflationLayer
import Nav2.Costmap2d.InflationSafety
import Nav2.Costmap2d.InflationTermination
import Nav2.Costmap2d.InflationBounds
import Nav2.Costmap2d.InflationFrame
import Nav2.Costmap2d.InflationLoop
import Nav2.Costmap2d.InflationValue
import Nav2.Costmap2d.InflationBins
import Nav2.Costmap2d.InflationAdjacent
import Nav2.Costmap2d.InflationIsolated
import Nav2.Recoveries.BackUp
import Nav2.Nav2dUtils.OdomSubscriber
