import WhatsGoingOn.Library.Bytes
import WhatsGoingOn.Library.Outcome
import WhatsGoingOn.Library.Reader
import WhatsGoingOn.Library.SortedMap
import WhatsGoingOn.Library.Run
import WhatsGoingOn.Library.Text
import WhatsGoingOn.Library.Tasks
import WhatsGoingOn.Library.Broadcast
import WhatsGoingOn.Library.ChangeLog
import WhatsGoingOn.Library.Repeated
import WhatsGoingOn.Library.KeyedRows
import WhatsGoingOn.Daemon.Value
import WhatsGoingOn.Daemon.Cbor
import WhatsGoingOn.Daemon.CborRoundTrip
import WhatsGoingOn.Daemon.CborBuffers
import WhatsGoingOn.Daemon.Codec
import WhatsGoingOn.Daemon.Services
import WhatsGoingOn.Daemon.Wire
import WhatsGoingOn.Daemon.Procedures
import WhatsGoingOn.Daemon.Pairing
import WhatsGoingOn.Host.Datagram
import WhatsGoingOn.Daemon.Sequence
import WhatsGoingOn.Host.ReqResReader
import WhatsGoingOn.Host.Replies
import WhatsGoingOn.Host.Session
import WhatsGoingOn.Host.SessionGate
import WhatsGoingOn.Host.SessionIdentity
import WhatsGoingOn.Host.Pairing
import WhatsGoingOn.Host.PairingAttempts
import WhatsGoingOn.Host.CredentialUpdates
import WhatsGoingOn.Host.PairingSafety
import WhatsGoingOn.Host.TerminalMetadata
import WhatsGoingOn.Host.Terminal
import WhatsGoingOn.Host.TerminalManager
import WhatsGoingOn.Host.TerminalSteps
import WhatsGoingOn.Host.TerminalRegistry
import WhatsGoingOn.Host.TerminalOutput
import WhatsGoingOn.Host.AttachStreams
import WhatsGoingOn.Host.AttachGuarantees
import WhatsGoingOn.Host.TerminalControl
import WhatsGoingOn.Host.TakeControl
import WhatsGoingOn.Web.TerminalSessions
import WhatsGoingOn.Host.TerminalTable
import WhatsGoingOn.Host.TableStream
import WhatsGoingOn.Codegen.Schema
import WhatsGoingOn.Codegen.Rust
import WhatsGoingOn.Codegen.RustDecoder
import WhatsGoingOn.Codegen.RustRoundTrip
import WhatsGoingOn.Codegen.Shape
import WhatsGoingOn.Codegen.TypeScript
import WhatsGoingOn.Web.Cbor
import WhatsGoingOn.Web.CborAgreement
import WhatsGoingOn.Codegen.TypeScriptDecoder
import WhatsGoingOn.Codegen.Agreement
import WhatsGoingOn.Web.Wire
import WhatsGoingOn.Web.ServerStream
import WhatsGoingOn.Daemon.Tables
import WhatsGoingOn.Host.TablePatches
import WhatsGoingOn.Web.Tables
import WhatsGoingOn.Host.DirectoryStream
import WhatsGoingOn.Host.CertificateReload
import WhatsGoingOn.Windows.PairingDialog
import WhatsGoingOn.Windows.PairingConfirmation
import WhatsGoingOn.Web.Workbench
import WhatsGoingOn.Web.WorkbenchPanes
import WhatsGoingOn.Web.RpcSession
import WhatsGoingOn.Web.RpcSessionStatus
import WhatsGoingOn.Web.PairingCompletion
import WhatsGoingOn.Web.MachineModal
import WhatsGoingOn.Web.PairingDirection
import WhatsGoingOn.Web.TerminalView
import WhatsGoingOn.Web.ControlAgreement
import WhatsGoingOn.Web.TerminalTabs
import WhatsGoingOn.Web.TabContents
import WhatsGoingOn.Web.TerminalOwners
import WhatsGoingOn.Web.WorkbenchMoves
import WhatsGoingOn.Library.Retention
import WhatsGoingOn.Host.TerminalRetention
import WhatsGoingOn.Host.TerminalStrings
import WhatsGoingOn.Library.Utf8
import WhatsGoingOn.Library.Url
import WhatsGoingOn.Host.ShellIntegration
import WhatsGoingOn.Host.ShellCwd
import WhatsGoingOn.Host.ShellArguments
import WhatsGoingOn.Web.MachineUrl
import WhatsGoingOn.Web.MachineEndpoints
import WhatsGoingOn.Library.ShellWords
import WhatsGoingOn.Host.ShellQuoting
import WhatsGoingOn.Library.CommandLine
import WhatsGoingOn.Host.TerminalProfile
import WhatsGoingOn.Library.Forest
import WhatsGoingOn.Web.ProcessTree
import WhatsGoingOn.Library.IpAddress
import WhatsGoingOn.Library.SortedMerge
import WhatsGoingOn.Windows.ProcessSockets
import WhatsGoingOn.Library.PlatformPath
import WhatsGoingOn.Web.ExplorerPaths
import WhatsGoingOn.Web.ExplorerPathLaws
import WhatsGoingOn.Library.Decimal
import WhatsGoingOn.Library.Lines
import WhatsGoingOn.Windows.PairingIpc
import WhatsGoingOn.Codegen.RustStructs
import WhatsGoingOn.Windows.WindowDetail
import WhatsGoingOn.Windows.WindowIpc
import WhatsGoingOn.Library.Patches
import WhatsGoingOn.Files.WriteFile
import WhatsGoingOn.Daemon.WireEncode
import WhatsGoingOn.Web.WireAgreement
import WhatsGoingOn.Library.Chunks
import WhatsGoingOn.Files.ReadFile
import WhatsGoingOn.Web.ReadFileBytes
import WhatsGoingOn.Library.ReadLoop
import WhatsGoingOn.Windows.IpcLoops
import WhatsGoingOn.Library.CutStreams
import WhatsGoingOn.Web.WireEncode
import WhatsGoingOn.Web.RequestStreams
import WhatsGoingOn.Web.ResponseStreams
import WhatsGoingOn.Web.Calls
import WhatsGoingOn.Web.MethodErrors
import WhatsGoingOn.Web.Authentication
import WhatsGoingOn.Web.ServedCalls
import WhatsGoingOn.Codegen.TypeScriptEncoder
import WhatsGoingOn.Codegen.Interoperation
import WhatsGoingOn.Library.Subscriptions
import WhatsGoingOn.Web.ExplorerSubscriptions
import WhatsGoingOn.Web.ExplorerDirectories
