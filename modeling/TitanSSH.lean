import TitanSSH.Core.HostConfig.CleanupRetry
import TitanSSH.Core.HostConfig.Credentials
import TitanSSH.Core.HostConfig.FailedSave
import TitanSSH.Core.HostIdentity.Attendance
import TitanSSH.Core.HostIdentity.Authorization
import TitanSSH.Core.HostIdentity.Closing
import TitanSSH.Core.HostIdentity.Custody
import TitanSSH.Core.HostIdentity.Lasting
import TitanSSH.Core.HostIdentity.Locks
import TitanSSH.Core.HostIdentity.Replacement
import TitanSSH.Core.HostIdentity.Truthful
import TitanSSH.Core.Monitor.NetworkRates
import TitanSSH.Core.Monitor.TaskEvents
import TitanSSH.Core.Monitor.Teardown
import TitanSSH.Core.Sftp.Cleanup
import TitanSSH.Core.Sftp.ConnectionSlot
import TitanSSH.Core.Sftp.Enrolment
import TitanSSH.Core.Sftp.Limits
import TitanSSH.Core.Sftp.PoolRefinement
import TitanSSH.Core.Sftp.Progress
import TitanSSH.Core.Sftp.Queueing
import TitanSSH.Core.Sftp.Retention
import TitanSSH.Core.Sftp.Settling
import TitanSSH.Core.Sftp.Targets
import TitanSSH.Core.Sftp.UploadPath
import TitanSSH.Core.Terminal.Asking
import TitanSSH.Core.Terminal.Connecting
import TitanSSH.Core.Terminal.Input
import TitanSSH.Core.Terminal.Output
import TitanSSH.Core.Terminal.SessionEnd
import TitanSSH.Core.Transfer.ConcurrentDownloads
import TitanSSH.Core.Transfer.Download
import TitanSSH.Core.Transfer.DownloadSteps
import TitanSSH.Core.Transfer.PoolOrder
import TitanSSH.Core.Transfer.PoolReclaim
import TitanSSH.Core.Transfer.PoolWakeups
import TitanSSH.Core.Transfer.Upload
import TitanSSH.Core.Transport.OwnCredentials
import TitanSSH.Core.Transport.Withholding
import TitanSSH.Library.Settling
import TitanSSH.Library.SharedFs
import TitanSSH.Storage.SecureStoreHistory
import TitanSSH.Storage.TrustStoreDurability
import TitanSSH.Storage.TrustStoreRefinement
import TitanSSH.Stores.ClosedSession
import TitanSSH.Stores.Directory
import TitanSSH.Stores.MonitorTasks
import TitanSSH.Stores.MonitorTrend
import TitanSSH.Stores.Opening
import TitanSSH.Stores.TransferConvergence
import TitanSSH.Stores.Undecided
