import PeakAnalyser.Library.Runs
import PeakAnalyser.StopRequests
import PeakAnalyser.AcquireStatus
import PeakAnalyser.ImageBoundary
import PeakAnalyser.Measurement
import PeakAnalyser.ZeroSupplies
import PeakAnalyser.GoingIdle
import PeakAnalyser.Ownership
import PeakAnalyser.Notifications
import PeakAnalyser.ErrorExit
import PeakAnalyser.Images
import PeakAnalyser.DefinitionAgreement
import PeakAnalyser.ThetaY
import PeakAnalyser.Readbacks
import PeakAnalyser.WebSocketCalls
import PeakAnalyser.SessionSignals
import PeakAnalyser.HTTPCalls
import PeakAnalyser.SocketPositions
import PeakAnalyser.RequestRoundTrip
import PeakAnalyser.SpectrumData
import PeakAnalyser.AcquisitionEnd
import PeakAnalyser.SweepAxes
import PeakAnalyser.EstimatedTime
import PeakAnalyser.DetectorRegion
import PeakAnalyser.Dispatch
import PeakAnalyser.RequestSafety
import PeakAnalyser.LiveImages
import PeakAnalyser.StaleNotifications
import PeakAnalyser.Deliveries
import PeakAnalyser.PortLock
import PeakAnalyser.Base64Decode
import PeakAnalyser.ChunkedBodies
import PeakAnalyser.HeaderCase
import PeakAnalyser.StepCounts
import PeakAnalyser.PassEnergies
import PeakAnalyser.FiniteDefinitions
import PeakAnalyser.Durations
import PeakAnalyser.Addresses
import PeakAnalyser.IntegratedSpectrum
import PeakAnalyser.RequestedAxes
import PeakAnalyser.MethodNames
import PeakAnalyser.SubscriberTables
import PeakAnalyser.UnsubscribeAll
import PeakAnalyser.RequestTermination
import PeakAnalyser.SpectrumUpdates
import PeakAnalyser.Disconnected
import PeakAnalyser.ComingToRest
import PeakAnalyser.CallAnswers
import PeakAnalyser.MeasuredSpectrum
import PeakAnalyser.Routing
import PeakAnalyser.Choices
