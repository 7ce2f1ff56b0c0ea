import FalconGuide.App.ConfigFidelity
import FalconGuide.App.ConfigRoundTrip
import FalconGuide.App.ConfigValidity
import FalconGuide.App.Divisors
import FalconGuide.App.IpcDescriptors
import FalconGuide.App.IpcLines
import FalconGuide.App.MessageFraming
import FalconGuide.App.OutlierDecisions
import FalconGuide.App.PropagationTermination
import FalconGuide.App.Replay
import FalconGuide.App.ReplayTiming
import FalconGuide.App.UiClientRun
import FalconGuide.App.UiLink
import FalconGuide.App.WsBase64
import FalconGuide.App.WsBounds
import FalconGuide.App.WsDelivery
import FalconGuide.App.WsRoundTrip
import FalconGuide.App.WsStream
import FalconGuide.App.WsThreads
import FalconGuide.Ceres.BiasCorrection
import FalconGuide.Ceres.Composition
import FalconGuide.Ceres.GnssCost
import FalconGuide.Ceres.InitialAttitude
import FalconGuide.Ceres.InitialSamples
import FalconGuide.Core.BufferLedger
import FalconGuide.Core.Geodesy
import FalconGuide.Core.InsertResults
import FalconGuide.Core.StableInsertion
import FalconGuide.Core.TangentPlane
import FalconGuide.Core.TimeLines
import FalconGuide.Core.TimeOrder
import FalconGuide.Ekf.BlockByBlock
import FalconGuide.Ekf.ErrorPropagation
import FalconGuide.Ekf.Injection
import FalconGuide.Ekf.Jacobians
import FalconGuide.Ekf.PartialAttitude
import FalconGuide.Ekf.Rejection
import FalconGuide.Ekf.ScalarInnovations
import FalconGuide.Ekf.SequentialUpdate
import FalconGuide.Ekf.SingularFixes
import FalconGuide.Estimation.AidingStatus
import FalconGuide.Estimation.InvalidMeasurements
import FalconGuide.Estimation.LateMeasurements
import FalconGuide.Estimation.ResetAsNew
import FalconGuide.Estimation.SampleOrder
import FalconGuide.Estimation.StreamCalls
import FalconGuide.Estimation.TimeAccounting
import FalconGuide.Estimation.WeekRollover
import FalconGuide.Io.CsvAcceptance
import FalconGuide.Io.NmeaExceptions
import FalconGuide.Io.NmeaFile
import FalconGuide.Io.NmeaRanges
import FalconGuide.Ukf.AffineUpdate
import FalconGuide.Ukf.Interface
import FalconGuide.Ukf.Moments
import FalconGuide.Ukf.ScalarInnovations
import FalconGuide.Ukf.SigmaRoundTrip
import FalconGuide.Ukf.StateOrder
