import Alumina.Spec.AttendedJob
import Alumina.Spec.ChordCompiler
import Alumina.Spec.ClockProbing
import Alumina.Spec.CncGeometry
import Alumina.Spec.CoefficientProjection
import Alumina.Spec.DiagnosticRecovery
import Alumina.Spec.DirectRecords
import Alumina.Spec.FlatteningMeaning
import Alumina.Spec.GraphLifecycle
import Alumina.Spec.HttpSession
import Alumina.Spec.LiteralRoundTrip
import Alumina.Spec.NetworkRetention
import Alumina.Spec.Partition
import Alumina.Spec.ProtocolClient
import Alumina.Spec.RestToRest
import Alumina.Spec.ScalarLimits
import Alumina.Spec.ServoSplitting
import Alumina.Spec.SharedTimingTranscript
import Alumina.Spec.SimulationSamples
import Alumina.Spec.StaleEvidence
import Alumina.Spec.StartEvidence
import Alumina.Spec.SupervisorEvidence
import Alumina.Spec.TypeNesting
import Alumina.Spec.UndoHistory
import Alumina.Spec.UploadChunks
import Alumina.Spec.ValuePath
import Alumina.Spec.VisualRecovery
