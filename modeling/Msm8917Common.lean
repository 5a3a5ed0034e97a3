import Msm8917Common.SubscriptionProofs
import Msm8917Common.FrameworkMirrorProofs
import Msm8917Common.FrameworkActions
import Msm8917Common.FrameworkProofs
import Msm8917Common.DsMachineProofs
import Msm8917Common.ReleasedHandleProofs
import Msm8917Common.RequestedHandleProofs
import Msm8917Common.GnssTrackingProofs
import Msm8917Common.LocTimerProofs
import Msm8917Common.GnssConfigProofs
import Msm8917Common.ClientDictionaryProofs
import Msm8917Common.TrackingFlagProofs
import Msm8917Common.DestroyedClientProofs
import Msm8917Common.LocIpcProofs
import Msm8917Common.ConnectedTypesProofs
import Msm8917Common.NewestReportProofs
import Msm8917Common.RequestMatchingProofs
import Msm8917Common.RilWakeLockProofs
import Msm8917Common.RilRequestsProofs
import Msm8917Common.RilSapQueueProofs
import Msm8917Common.XtraStatusProofs
import Msm8917Common.GnssPowerProofs
import Msm8917Common.RemovedClientProofs
import Msm8917Common.FixModeProofs
import Msm8917Common.EventMaskProofs
import Msm8917Common.OdcpiProofs
import Msm8917Common.NiSessionsProofs
import Msm8917Common.NiAnswersProofs
import Msm8917Common.LocHeapProofs
import Msm8917Common.RilEventProofs
import Msm8917Common.MsgQProofs
import Msm8917Common.GeofenceOptions
import Msm8917Common.RilUnsolicited
import Msm8917Common.DebugNmeaProofs
import Msm8917Common.UsedInFix
import Msm8917Common.NmeaGsaProofs
import Msm8917Common.LocApiBaseProofs
import Msm8917Common.ControlConfig
import Msm8917Common.SuplServer
import Msm8917Common.LocCfgProofs
import Msm8917Common.LauncherConf
import Msm8917Common.RilTimerProofs
import Msm8917Common.RilWatchProofs
import Msm8917Common.DataItemNotify
import Msm8917Common.NmeaGsvProofs
import Msm8917Common.XtraSubscription
import Msm8917Common.BoundedLog
import Msm8917Common.ReportHistory
import Msm8917Common.SplitString
import Msm8917Common.NmeaChecksum
import Msm8917Common.RilServiceRuns
import Msm8917Common.RilCallbacksProofs
import Msm8917Common.LocThreadProofs
import Msm8917Common.TimerMemoryProofs
import Msm8917Common.TimerSimulation
import Msm8917Common.RilRegistrationArrays
import Msm8917Common.DebugReport
