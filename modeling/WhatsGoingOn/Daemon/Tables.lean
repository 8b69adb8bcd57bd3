import Mathlib.Data.UInt

/-!
# Tables that are streamed

The rows of the tables that a client may subscribe to, and the events that
stream them: a snapshot of all rows, then patches, and for some tables an event
that ends the subscription.
-/

namespace WhatsGoingOn
namespace Daemon

/-! ## Rows -/

/-- A row of the table of windows. -/
structure WindowInfo where
  windowId : String
  title : Option String
  processId : Option UInt64
  focused : Option Bool
  deriving DecidableEq, Repr

/-- What the system says a process is doing. -/
inductive ProcessStatus where
  | idle
  | run
  | sleep
  | stop
  | zombie
  | tracing
  | dead
  | wakekill
  | waking
  | parked
  | lockBlocked
  | uninterruptibleDiskSleep
  | suspended
  | unknown (code : UInt64)
  deriving DecidableEq, Repr

/-- A row of the table of processes. -/
structure ProcessInfo where
  pid : UInt64
  ppid : Option UInt64
  name : String
  status : ProcessStatus
  deriving DecidableEq, Repr

/-- What kind of thing a process has open. -/
inductive ProcessResourceInUseKind where
  | file
  | directory
  | device
  | namedPipe
  | anonymousPipe
  | other
  deriving DecidableEq, Repr

/-- How a process has a resource open, as far as the system tells. -/
structure ProcessResourceInUseAccess where
  read : Option Bool
  write : Option Bool
  execute : Option Bool
  deriving DecidableEq, Repr

/-- A row of the table of what a process has open. -/
structure ProcessResourceInUseInfo where
  resourceId : String
  kind : ProcessResourceInUseKind
  name : Option String
  access : Option ProcessResourceInUseAccess
  deleted : Option Bool
  deriving DecidableEq, Repr

/-- The protocol of a socket. -/
inductive ProcessSocketInUseKind where
  | tcp
  | udp
  | unix
  | raw
  | unknown
  deriving DecidableEq, Repr

/-- One end of a socket. -/
inductive SocketEndpoint where
  | ip (address : String) (port : Option UInt64)
  | unix (path name : Option String)
  deriving DecidableEq, Repr

/-- A row of the table of the sockets of a process. -/
structure ProcessSocketInUseInfo where
  socketId : String
  kind : ProcessSocketInUseKind
  localEndpoint : Option SocketEndpoint
  remoteEndpoint : Option SocketEndpoint
  listening : Option Bool
  deriving DecidableEq, Repr

/-- What kind of file a process has mapped. -/
inductive ProcessModuleKind where
  | executable
  | dynamicLibrary
  | unknown
  deriving DecidableEq, Repr

/-- A row of the table of the modules of a process. -/
structure ProcessModuleInfo where
  moduleId : String
  name : String
  path : Option String
  kind : ProcessModuleKind
  baseAddress : Option String
  sizeBytes : Option UInt64
  version : Option String
  deriving DecidableEq, Repr

/-- A row of the table of paired clients. -/
structure ClientInfo where
  clientId : String
  label : String
  createdAtUnix : Int
  expiresAtUnix : Int
  deriving DecidableEq, Repr

/-- What kind of thing an entry of a directory is. -/
inductive FsEntryKind where
  | file
  | directory
  | symlink
  | other
  deriving DecidableEq, Repr

/-- A row of the tables of the roots and of a directory. -/
structure FsEntry where
  name : String
  path : String
  kind : FsEntryKind
  size : Option UInt64
  modifiedAtMs : Option UInt64
  readonly : Bool
  deriving DecidableEq, Repr

/-- The size of a trashed file, or how much a trashed folder holds. -/
inductive TrashItemSize where
  | bytes (value : UInt64)
  | entries (value : UInt64)
  deriving DecidableEq, Repr

/-- A row of the table of the trash. -/
structure TrashItem where
  id : String
  name : String
  originalParent : String
  deletedAtMs : Option UInt64
  size : Option TrashItemSize
  deriving DecidableEq, Repr

/-! ## Events -/

/-- An event of a table: all its rows, a patch of some, or the end of the
subscription for a reason. -/
inductive TableEvent (κ ρ ε : Type) where
  | snapshot (rows : List ρ)
  | patch (removes : List κ) (upserts : List ρ)
  | closed (reason : ε)
  deriving DecidableEq, Repr

/-- "Exited" -/
inductive ProcessExit where
  | exited
  deriving DecidableEq, Repr

/-- Roots are told apart by their paths. -/
structure RootEntryKey where
  path : String
  deriving DecidableEq, Repr

/-- Entries of a directory are told apart by their names. -/
structure DirectoryEntryKey where
  name : String
  deriving DecidableEq, Repr

/-- Clients are told apart by their ids. -/
structure ClientKey where
  clientId : String
  deriving DecidableEq, Repr

/-- Why a subscription of the roots ends. -/
inductive RootsSubscriptionCloseReason where
  | failed
  | permissionLost
  | unknown
  deriving DecidableEq, Repr

/-- Why a subscription of a directory ends. -/
inductive DirectorySubscriptionCloseReason where
  | failed
  | deleted
  | moved (target : Option String)
  | permissionLost
  | replacedByNonDirectory
  | unknown
  deriving DecidableEq, Repr

/-- Why a subscription of the trash ends. -/
inductive TrashItemsSubscriptionCloseReason where
  | failed
  | permissionLost
  | unknown
  deriving DecidableEq, Repr

/-- Events of the table of windows, which never closes. -/
abbrev WindowsTableEvent := TableEvent String WindowInfo Empty

/-- Events of the table of processes, which never closes. -/
abbrev ProcessesTableEvent := TableEvent UInt64 ProcessInfo Empty

/-- Events of what a process has open, which end with the process. -/
abbrev ProcessResourcesInUseTableEvent :=
  TableEvent String ProcessResourceInUseInfo ProcessExit

/-- Events of the sockets of a process, which end with the process. -/
abbrev ProcessSocketsInUseTableEvent :=
  TableEvent String ProcessSocketInUseInfo ProcessExit

/-- Events of the modules of a process, which end with the process. -/
abbrev ProcessModulesTableEvent :=
  TableEvent String ProcessModuleInfo ProcessExit

/-- Events of the table of the roots. -/
abbrev RootsTableEvent :=
  TableEvent RootEntryKey FsEntry RootsSubscriptionCloseReason

/-- Events of the table of a directory. -/
abbrev DirectoryTableEvent :=
  TableEvent DirectoryEntryKey FsEntry DirectorySubscriptionCloseReason

/-- Events of the table of the trash. -/
abbrev TrashItemsTableEvent :=
  TableEvent String TrashItem TrashItemsSubscriptionCloseReason

/-- Events of the table of paired clients, which never closes. -/
abbrev ClientsTableEvent := TableEvent ClientKey ClientInfo Empty

end Daemon
end WhatsGoingOn
