import Pbns.Codec
import Pbns.BulkSession
import Pbns.BulkHistory
import Pbns.BulkDelivery
import Pbns.BrokerLifecycle
import Pbns.BytePump
import Pbns.Request
import Pbns.Transfer
import Pbns.RecoveryHistory
import Pbns.RecoveryClient
import Pbns.CredentialStore
import Pbns.Enrollment
import Pbns.EventLog
import Pbns.UploadHandler
import Pbns.Challenges
import Pbns.HostIndependence
import Pbns.OutgoingRecords
import Pbns.Network
import Pbns.ChallengeWindow
import Pbns.HostKey
import Pbns.EnrollmentApart
import Pbns.EnrollmentClient
import Pbns.SendError
import Pbns.TlsRestart
import Pbns.Provisioning
import Pbns.UsbTransport
import Pbns.TpmRollback
import Pbns.PolicyAgreement
import Pbns.BrokerWalk
import Pbns.TimeBounds
import Pbns.LineCode
import Pbns.TextCheck
import Pbns.RecoveryStages
import Pbns.Launcher
