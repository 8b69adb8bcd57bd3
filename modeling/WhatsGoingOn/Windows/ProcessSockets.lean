import Mathlib.Data.Prod.Lex
import Mathlib.Data.String.Basic
import Mathlib.Order.WithBot
import WhatsGoingOn.Daemon.Tables
import WhatsGoingOn.Host.Terminal
import WhatsGoingOn.Library.IpAddress
import WhatsGoingOn.Library.SortedMerge

/-!
# The sockets of a Windows process

The system has a table for each protocol and version of addresses, which it
enumerates in any order.  The rows of one process are sorted, rows that tell the
same are merged, and the identifiers of those that are left are made unique.
-/

namespace WhatsGoingOn
namespace Windows

open Daemon IpAddress SortedMerge Text

/-! ## The tables of the system -/

/-- `MIB_TCPROW_OWNER_PID`. -/
structure MibTcpRow where
  dwState : UInt32
  dwLocalAddr : UInt32
  dwLocalPort : UInt32
  dwRemoteAddr : UInt32
  dwRemotePort : UInt32
  dwOwningPid : UInt32

/-- `MIB_TCP6ROW_OWNER_PID`. -/
structure MibTcp6Row where
  ucLocalAddr : Vector UInt8 16
  dwLocalPort : UInt32
  ucRemoteAddr : Vector UInt8 16
  dwRemotePort : UInt32
  dwState : UInt32
  dwOwningPid : UInt32

/-- `MIB_UDPROW_OWNER_PID`. -/
structure MibUdpRow where
  dwLocalAddr : UInt32
  dwLocalPort : UInt32
  dwOwningPid : UInt32

/-- `MIB_UDP6ROW_OWNER_PID`. -/
structure MibUdp6Row where
  ucLocalAddr : Vector UInt8 16
  dwLocalPort : UInt32
  dwOwningPid : UInt32

/-- What the system answers: to `OpenProcess`, where an error has a message, and
for each of the tables, where it has a code. -/
structure SystemTables where
  openProcess : UInt32 → Except String Unit
  tcp4 : Except UInt32 (List MibTcpRow)
  tcp6 : Except UInt32 (List MibTcp6Row)
  udp4 : Except UInt32 (List MibUdpRow)
  udp6 : Except UInt32 (List MibUdp6Row)

/-- `MIB_TCP_STATE_LISTEN`. -/
def mibTcpStateListen : UInt32 := 2

/-! ## Endpoints -/

/-- `u32::from_be` of an address, and its octets. -/
def ipv4Octets (address : UInt32) : List UInt8 :=
  [address.toUInt8, (address >>> 8).toUInt8, (address >>> 16).toUInt8,
    (address >>> 24).toUInt8]

/-- The low half of the number, with its two bytes exchanged. -/
def portFromNetworkOrder (port : UInt32) : UInt64 :=
  let port := port.toUInt16
  ((port <<< 8) ||| (port >>> 8)).toUInt64

/-- An address and port as the tables of TCP and UDP have them. -/
def ipv4Endpoint (address port : UInt32) : SocketEndpoint :=
  .ip (ipv4Text (ipv4Octets address)) (some (portFromNetworkOrder port))

/-- An address of sixteen bytes, and a port. -/
def ipv6Endpoint (address : Vector UInt8 16) (port : UInt32) : SocketEndpoint :=
  .ip (ipv6Text address.toList) (some (portFromNetworkOrder port))

/-- No address and no port. -/
def isUnspecifiedIpEndpoint : SocketEndpoint → Bool
  | .ip address port =>
      port.getD 0 == 0 && (address == "0.0.0.0" || address == "::")
  | .unix _ _ => false

/-- The endpoint as rows are sorted by it. -/
def endpointSortKey : Option SocketEndpoint → String
  | some (.ip address port) => address ++ ":" ++ toString (port.getD 0).toNat
  | some (.unix path name) => (path.or name).getD ""
  | none => ""

/-- The id of a row, which two rows may share. -/
def socketId (label : String) (localEndpoint : SocketEndpoint) :
    Option SocketEndpoint → String
  | some remoteEndpoint =>
      label ++ ":" ++ endpointSortKey (some localEndpoint) ++ "->" ++
        endpointSortKey (some remoteEndpoint)
  | none => label ++ ":" ++ endpointSortKey (some localEndpoint)

example : socketId "tcp4" (ipv4Endpoint 0x0100007f 0x5000) none =
    "tcp4:127.0.0.1:80" := by
  decide

/-! ## Rows -/

/-- A row of either TCP table. -/
def tcpRow (label : String) (localEndpoint remoteEndpoint : SocketEndpoint)
    (dwState : UInt32) : ProcessSocketInUseInfo :=
  let remoteEndpoint :=
    (some remoteEndpoint).filter (!isUnspecifiedIpEndpoint ·)
  { socketId := socketId label localEndpoint remoteEndpoint
    kind := .tcp
    localEndpoint := some localEndpoint
    remoteEndpoint
    listening := some (dwState == mibTcpStateListen) }

/-- A row of either UDP table. -/
def udpRow (label : String) (localEndpoint : SocketEndpoint) :
    ProcessSocketInUseInfo :=
  { socketId := socketId label localEndpoint none
    kind := .udp
    localEndpoint := some localEndpoint
    remoteEndpoint := none
    listening := some true }

/-- A row of the table of TCP over IPv4. -/
def tcp4Row (row : MibTcpRow) : ProcessSocketInUseInfo :=
  tcpRow "tcp4" (ipv4Endpoint row.dwLocalAddr row.dwLocalPort)
    (ipv4Endpoint row.dwRemoteAddr row.dwRemotePort) row.dwState

/-- A row of the table of TCP over IPv6. -/
def tcp6Row (row : MibTcp6Row) : ProcessSocketInUseInfo :=
  tcpRow "tcp6" (ipv6Endpoint row.ucLocalAddr row.dwLocalPort)
    (ipv6Endpoint row.ucRemoteAddr row.dwRemotePort) row.dwState

/-- A row of the table of UDP over IPv4. -/
def udp4Row (row : MibUdpRow) : ProcessSocketInUseInfo :=
  udpRow "udp4" (ipv4Endpoint row.dwLocalAddr row.dwLocalPort)

/-- A row of the table of UDP over IPv6. -/
def udp6Row (row : MibUdp6Row) : ProcessSocketInUseInfo :=
  udpRow "udp6" (ipv6Endpoint row.ucLocalAddr row.dwLocalPort)

/-- The error of a call of the system. -/
def windowsError (api : String) (code : UInt32) : ServiceError :=
  .operationFailed (api ++ " failed: " ++ toString code.toNat)

/-- The rows of a table that one process owns. -/
def ownRows {ρ : Type} (api : String) (owningPid : ρ → UInt32)
    (info : ρ → ProcessSocketInUseInfo) (table : Except UInt32 (List ρ))
    (pid : UInt32) : Except ServiceError (List ProcessSocketInUseInfo) :=
  match table with
  | .ok rows => .ok ((rows.filter fun row => owningPid row == pid).map info)
  | .error code => .error (windowsError api code)

/-- The process's own rows of TCP over IPv4. -/
def tcp4Rows (tables : SystemTables) :=
  ownRows "GetExtendedTcpTable" MibTcpRow.dwOwningPid tcp4Row tables.tcp4

/-- The process's own rows of TCP over IPv6. -/
def tcp6Rows (tables : SystemTables) :=
  ownRows "GetExtendedTcpTable" MibTcp6Row.dwOwningPid tcp6Row tables.tcp6

/-- The process's own rows of UDP over IPv4. -/
def udp4Rows (tables : SystemTables) :=
  ownRows "GetExtendedUdpTable" MibUdpRow.dwOwningPid udp4Row tables.udp4

/-- The process's own rows of UDP over IPv6. -/
def udp6Rows (tables : SystemTables) :=
  ownRows "GetExtendedUdpTable" MibUdp6Row.dwOwningPid udp6Row tables.udp6

/-! ## The snapshot -/

/-- A process that may not be opened, or is not there. -/
def mapOpenProcessError (message : String) : ServiceError :=
  let lower := toAsciiLowercase message
  if contains "access" lower || contains "denied" lower ||
      contains "permission" lower then .permissionDenied
  else .notFound

/-- The process is there and may be opened. -/
def ensureProcessExists (tables : SystemTables) (pid : UInt32) :
    Except ServiceError Unit :=
  match tables.openProcess pid with
  | .ok _ => .ok ()
  | .error message => .error (mapOpenProcessError message)

/-- The rows that the system reports for a process. -/
def reportedRows (tables : SystemTables) (pid : UInt64) :
    Except ServiceError (List ProcessSocketInUseInfo) :=
  if pid.toNat < UInt32.size then do
    let pid := pid.toUInt32
    ensureProcessExists tables pid
    let tcp4 ← tcp4Rows tables pid
    let tcp6 ← tcp6Rows tables pid
    let udp4 ← udp4Rows tables pid
    let udp6 ← udp6Rows tables pid
    return tcp4 ++ tcp6 ++ udp4 ++ udp6
  else .error .notFound

/-- The rank of the kind. -/
def socketKindSortKey : ProcessSocketInUseKind → Nat
  | .tcp => 0
  | .udp => 1
  | .unix => 2
  | .raw => 3
  | .unknown => 4

/-- What rows are compared by before their identifiers. -/
def socketOrderKey (row : ProcessSocketInUseInfo) :
    Nat ×ₗ String ×ₗ String ×ₗ WithBot Bool :=
  toLex (socketKindSortKey row.kind,
    toLex (endpointSortKey row.localEndpoint,
      toLex (endpointSortKey row.remoteEndpoint, row.listening)))

/-- Rows are sorted by this, in the end by their ids. -/
def socketSortKey (row : ProcessSocketInUseInfo) :
    (Nat ×ₗ String ×ₗ String ×ₗ WithBot Bool) ×ₗ String :=
  toLex (socketOrderKey row, row.socketId)

/-- The state as rows are told apart by it. -/
def listeningText : Option Bool → String
  | some true => "listening"
  | some false => "not-listening"
  | none => "unknown"

/-- Rows with the same key are one socket. -/
def socketRowKey (row : ProcessSocketInUseInfo) : String :=
  toString (socketKindSortKey row.kind) ++ "|" ++
    endpointSortKey row.localEndpoint ++ "|" ++
    endpointSortKey row.remoteEndpoint ++ "|" ++ listeningText row.listening

/-- Of neighbours with the same key one is left. -/
def mergeEquivalentSocketRows :
    List ProcessSocketInUseInfo → List ProcessSocketInUseInfo :=
  mergeNeighbours socketRowKey

/-- The identifier of a row, when there have been `count` rows before it with
the same one. -/
def numberedId (base : String) (count : Nat) : String :=
  if 0 < count then base ++ "#" ++ toString (count + 1) else base

/-- The loop of `assign_unique_socket_ids`. -/
def assignUniqueSocketIdsFrom (counts : String → Nat) :
    List ProcessSocketInUseInfo → List ProcessSocketInUseInfo
  | [] => []
  | row :: rows =>
      let base := row.socketId
      { row with socketId := numberedId base (counts base) } ::
        assignUniqueSocketIdsFrom
          (fun id => if id = base then counts base + 1 else counts id) rows

/-- Rows that share an id are numbered. -/
def assignUniqueSocketIds :
    List ProcessSocketInUseInfo → List ProcessSocketInUseInfo :=
  assignUniqueSocketIdsFrom fun _ => 0

/-- The rows of a process, sorted, merged and numbered. -/
def snapshotProcessSocketsInUse (tables : SystemTables) (pid : UInt64) :
    Except ServiceError (List ProcessSocketInUseInfo) := do
  let rows ← reportedRows tables pid
  return assignUniqueSocketIds
    (mergeEquivalentSocketRows (sortByKey socketSortKey rows))

/-! ## What a row tells -/

/-- All of a row but its identifier. -/
def socketFields (row : ProcessSocketInUseInfo) :
    ProcessSocketInUseKind × Option SocketEndpoint × Option SocketEndpoint ×
      Option Bool :=
  (row.kind, row.localEndpoint, row.remoteEndpoint, row.listening)

/-- An endpoint of one of the tables. -/
def IsIpEndpoint (endpoint : SocketEndpoint) : Prop :=
  ∃ (address : String) (port : UInt64),
    endpoint = .ip address (some port) ∧
      address.toList.all isAddressChar = true

/-- A row of one of the tables. -/
structure IsReported (row : ProcessSocketInUseInfo) : Prop where
  localEndpoint : ∀ endpoint, row.localEndpoint = some endpoint →
    IsIpEndpoint endpoint
  remoteEndpoint : ∀ endpoint, row.remoteEndpoint = some endpoint →
    IsIpEndpoint endpoint
  socketId : '#' ∉ row.socketId.toList

theorem ipv4Endpoint_isIpEndpoint (address port : UInt32) :
    IsIpEndpoint (ipv4Endpoint address port) :=
  ⟨_, _, rfl, ipv4Text_all _⟩

theorem ipv6Endpoint_isIpEndpoint (address : Vector UInt8 16)
    (port : UInt32) :
    IsIpEndpoint (ipv6Endpoint address port) :=
  ⟨_, _, rfl, ipv6Text_all _⟩

/-- The key of an endpoint is made of the characters of addresses. -/
theorem endpointSortKey_all (endpoint : Option SocketEndpoint)
    (isIp : ∀ other, endpoint = some other → IsIpEndpoint other) :
    (endpointSortKey endpoint).toList.all isAddressChar = true := by
  cases endpoint with
  | none => rfl
  | some endpoint =>
      obtain ⟨address, port, rfl, allowed⟩ := isIp endpoint rfl
      have digits := toDigits_all 10 port.toNat (by decide) (by decide)
      have colon : ":".toList.all isAddressChar = true := rfl
      rw [endpointSortKey, String.toList_append, String.toList_append,
        List.all_append, List.all_append, allowed, colon,
        Nat.toString_eq_ofList_toDigits, String.toList_ofList]
      exact digits

/-- A character that no address has is in no key of an endpoint. -/
theorem not_mem_endpointSortKey (character : Char)
    (notAllowed : isAddressChar character = false)
    (endpoint : Option SocketEndpoint)
    (isIp : ∀ other, endpoint = some other → IsIpEndpoint other) :
    character ∉ (endpointSortKey endpoint).toList := by
  intro member
  have allowed := List.all_eq_true.mp (endpointSortKey_all endpoint isIp) _ member
  rw [notAllowed] at allowed
  cases allowed

theorem socketId_no_hash (label : String) (plain : '#' ∉ label.toList)
    (localEndpoint : SocketEndpoint) (localIsIp : IsIpEndpoint localEndpoint)
    (remoteEndpoint : Option SocketEndpoint)
    (remoteIsIp : ∀ other, remoteEndpoint = some other → IsIpEndpoint other) :
    '#' ∉ (socketId label localEndpoint remoteEndpoint).toList := by
  have inLocal := not_mem_endpointSortKey '#' rfl (some localEndpoint)
    (by rintro _ ⟨⟩; exact localIsIp)
  have inRemote := not_mem_endpointSortKey '#' rfl remoteEndpoint remoteIsIp
  cases remoteEndpoint with
  | none => simp [socketId, plain, inLocal]
  | some remoteEndpoint => simp [socketId, plain, inLocal, inRemote]

/-- A row of a table of TCP is one that is reported. -/
theorem tcpRow_isReported (label : String) (plain : '#' ∉ label.toList)
    (localEndpoint remoteEndpoint : SocketEndpoint)
    (localIsIp : IsIpEndpoint localEndpoint)
    (remoteIsIp : IsIpEndpoint remoteEndpoint) (dwState : UInt32) :
    IsReported (tcpRow label localEndpoint remoteEndpoint dwState) := by
  have remote : ∀ other,
      (some remoteEndpoint).filter (!isUnspecifiedIpEndpoint ·) = some other →
        IsIpEndpoint other := by
    intro other isOther
    cases Option.eq_some_of_filter_eq_some isOther
    exact remoteIsIp
  refine ⟨?_, remote, socketId_no_hash label plain _ localIsIp _ remote⟩
  rintro _ ⟨⟩
  exact localIsIp

theorem udpRow_isReported (label : String) (plain : '#' ∉ label.toList)
    (localEndpoint : SocketEndpoint)
    (localIsIp : IsIpEndpoint localEndpoint) :
    IsReported (udpRow label localEndpoint) := by
  refine ⟨?_, nofun, socketId_no_hash label plain _ localIsIp none nofun⟩
  rintro _ ⟨⟩
  exact localIsIp

/-! ## The keys -/

/-- A text that ends in a colon and digits tells both parts. -/
theorem colon_digits_injective {first second : List Char} {left right : Nat}
    (same : first ++ ':' :: Nat.toDigits 10 left =
      second ++ ':' :: Nat.toDigits 10 right) :
    first = second ∧ left = right := by
  have noColon (number : Nat) : ':' ∉ Nat.toDigits 10 number := by
    intro member
    have digit := Nat.isDigit_of_mem_toDigits (by decide) (by decide) member
    cases digit
  have ends {first second : List Char} {left right : Nat}
      (middle : List Char) (isSecond : second = first ++ middle)
      (rest : ':' :: Nat.toDigits 10 left =
        middle ++ ':' :: Nat.toDigits 10 right) :
      first = second ∧ left = right := by
    cases middle with
    | nil =>
        rw [List.nil_append, List.cons_eq_cons] at rest
        refine ⟨by rw [isSecond, List.append_nil], ?_⟩
        simpa using congrArg (fun digits => Nat.ofDigitChars 10 digits 0) rest.2
    | cons character middle =>
        rw [List.cons_append, List.cons_eq_cons] at rest
        refine absurd ?_ (noColon left)
        rw [rest.2]
        simp
  rcases List.append_eq_append_iff.mp same with
    ⟨middle, isSecond, rest⟩ | ⟨middle, isFirst, rest⟩
  · exact ends middle isSecond rest
  · exact (ends middle isFirst rest).imp Eq.symm Eq.symm

/-- Endpoints are told apart by their keys. -/
theorem endpointSortKey_injective (left right : Option SocketEndpoint)
    (leftIsIp : ∀ other, left = some other → IsIpEndpoint other)
    (rightIsIp : ∀ other, right = some other → IsIpEndpoint other)
    (same : endpointSortKey left = endpointSortKey right) : left = right := by
  have key (address : String) (port : UInt64) :
      (endpointSortKey (some (.ip address (some port)))).toList =
        address.toList ++ ':' :: Nat.toDigits 10 port.toNat := by
    simp [endpointSortKey]
  cases left with
  | none =>
      cases right with
      | none => rfl
      | some right =>
          obtain ⟨address, port, rfl, _⟩ := rightIsIp right rfl
          have texts := congrArg String.toList same
          rw [key] at texts
          simp [endpointSortKey] at texts
  | some left =>
      obtain ⟨address, port, rfl, _⟩ := leftIsIp left rfl
      cases right with
      | none =>
          have texts := congrArg String.toList same
          rw [key] at texts
          simp [endpointSortKey] at texts
      | some right =>
          obtain ⟨otherAddress, otherPort, rfl, _⟩ := rightIsIp right rfl
          have texts := congrArg String.toList same
          rw [key, key] at texts
          obtain ⟨sameAddress, samePort⟩ := colon_digits_injective texts
          rw [String.toList_injective sameAddress,
            UInt64.toNat_inj.mp samePort]

theorem socketKindSortKey_injective :
    Function.Injective socketKindSortKey := by
  intro left right same
  cases left <;> cases right <;> first | rfl | cases same

theorem listeningText_injective : Function.Injective listeningText := by
  intro left right same
  rcases left with _ | _ | _ <;> rcases right with _ | _ | _ <;>
    first | rfl | (revert same; decide)

/-- Rows with the same order key tell the same. -/
theorem socketFields_of_orderKey {left right : ProcessSocketInUseInfo}
    (leftReported : IsReported left) (rightReported : IsReported right)
    (same : socketOrderKey left = socketOrderKey right) :
    socketFields left = socketFields right := by
  have kind : socketKindSortKey left.kind = socketKindSortKey right.kind :=
    congrArg (fun key => (ofLex key).1) same
  have localKey : endpointSortKey left.localEndpoint =
      endpointSortKey right.localEndpoint :=
    congrArg (fun key => (ofLex (ofLex key).2).1) same
  have remoteKey : endpointSortKey left.remoteEndpoint =
      endpointSortKey right.remoteEndpoint :=
    congrArg (fun key => (ofLex (ofLex (ofLex key).2).2).1) same
  have listeningSame : left.listening = right.listening :=
    congrArg (fun key => (ofLex (ofLex (ofLex key).2).2).2) same
  have localSame := endpointSortKey_injective _ _ leftReported.localEndpoint
    rightReported.localEndpoint localKey
  have remoteSame := endpointSortKey_injective _ _ leftReported.remoteEndpoint
    rightReported.remoteEndpoint remoteKey
  have kindSame := socketKindSortKey_injective kind
  simp [socketFields, kindSame, localSame, remoteSame, listeningSame]

/-- Rows with the same row key tell the same. -/
theorem socketFields_of_rowKey {left right : ProcessSocketInUseInfo}
    (leftReported : IsReported left) (rightReported : IsReported right)
    (same : socketRowKey left = socketRowKey right) :
    socketFields left = socketFields right := by
  have parts (row : ProcessSocketInUseInfo) (reported : IsReported row) :
      (socketRowKey row).toList.splitOn '|' =
        [(toString (socketKindSortKey row.kind)).toList,
          (endpointSortKey row.localEndpoint).toList,
          (endpointSortKey row.remoteEndpoint).toList,
          (listeningText row.listening).toList] := by
    have kindPlain : '|' ∉ (toString (socketKindSortKey row.kind)).toList := by
      cases row.kind <;> decide
    have listeningPlain : '|' ∉ (listeningText row.listening).toList := by
      rcases row.listening with _ | _ | _ <;> decide
    have localPlain := not_mem_endpointSortKey '|' rfl _ reported.localEndpoint
    have remotePlain :=
      not_mem_endpointSortKey '|' rfl _ reported.remoteEndpoint
    have joined : (socketRowKey row).toList = ['|'].intercalate
        [(toString (socketKindSortKey row.kind)).toList,
          (endpointSortKey row.localEndpoint).toList,
          (endpointSortKey row.remoteEndpoint).toList,
          (listeningText row.listening).toList] := by
      simp [socketRowKey, List.intercalate_cons_cons]
    rw [joined]
    apply List.splitOn_intercalate
    · simp only [List.forall_mem_cons]
      exact ⟨kindPlain, localPlain, remotePlain, listeningPlain, by simp⟩
    · simp
  have texts := congrArg (fun key => key.toList.splitOn '|') same
  simp only [parts left leftReported, parts right rightReported,
    List.cons.injEq, and_true] at texts
  obtain ⟨kindText, localText, remoteText, listeningSame⟩ := texts
  have kindSame : left.kind = right.kind := by
    apply socketKindSortKey_injective
    have digits := String.toList_injective kindText
    exact numbered_injective "" (by simpa using digits)
  have localSame := endpointSortKey_injective _ _ leftReported.localEndpoint
    rightReported.localEndpoint (String.toList_injective localText)
  have remoteSame := endpointSortKey_injective _ _ leftReported.remoteEndpoint
    rightReported.remoteEndpoint (String.toList_injective remoteText)
  have listening := listeningText_injective
    (String.toList_injective listeningSame)
  simp [socketFields, kindSame, localSame, remoteSame, listening]

theorem orderKey_of_socketFields {left right : ProcessSocketInUseInfo}
    (same : socketFields left = socketFields right) :
    socketOrderKey left = socketOrderKey right := by
  simp only [socketFields, Prod.mk.injEq] at same
  obtain ⟨kind, localSame, remoteSame, listening⟩ := same
  simp only [socketOrderKey, kind, localSame, remoteSame, listening]

theorem rowKey_of_socketFields {left right : ProcessSocketInUseInfo}
    (same : socketFields left = socketFields right) :
    socketRowKey left = socketRowKey right := by
  simp only [socketFields, Prod.mk.injEq] at same
  obtain ⟨kind, localSame, remoteSame, listening⟩ := same
  simp only [socketRowKey, kind, localSame, remoteSame, listening]

/-- The key that rows are sorted by tells them apart. -/
theorem socketSortKey_injective {left right : ProcessSocketInUseInfo}
    (leftReported : IsReported left) (rightReported : IsReported right)
    (same : socketSortKey left = socketSortKey right) : left = right := by
  have orderSame : socketOrderKey left = socketOrderKey right :=
    congrArg (fun key => (ofLex key).1) same
  have idSame : left.socketId = right.socketId :=
    congrArg (fun key => (ofLex key).2) same
  have fieldsSame :=
    socketFields_of_orderKey leftReported rightReported orderSame
  simp only [socketFields, Prod.mk.injEq] at fieldsSame
  obtain ⟨kind, localSame, remoteSame, listening⟩ := fieldsSame
  cases left
  cases right
  simp_all

/-! ## Unique identifiers -/

theorem assignUniqueSocketIdsFrom_fields (counts : String → Nat)
    (rows : List ProcessSocketInUseInfo) :
    (assignUniqueSocketIdsFrom counts rows).map socketFields =
      rows.map socketFields := by
  induction rows generalizing counts with
  | nil => rfl
  | cons row rows inductionHypothesis =>
      rw [assignUniqueSocketIdsFrom, List.map_cons, inductionHypothesis]
      rfl

/-- An identifier with a number is none without, and tells both. -/
theorem numberedId_injective {first second : String} {left right : Nat}
    (firstPlain : '#' ∉ first.toList) (secondPlain : '#' ∉ second.toList)
    (same : numberedId first left = numberedId second right) :
    first = second ∧ left = right := by
  have noHash (number : Nat) : '#' ∉ Nat.toDigits 10 number := by
    intro member
    have digit := Nat.isDigit_of_mem_toDigits (by decide) (by decide) member
    cases digit
  have texts := congrArg String.toList same
  by_cases leftFirst : 0 < left
  · by_cases rightFirst : 0 < right
    · simp only [numberedId, leftFirst, rightFirst, if_true,
        String.toList_append, Nat.toString_eq_ofList_toDigits,
        String.toList_ofList] at texts
      have split : first.toList ++ '#' :: Nat.toDigits 10 (left + 1) =
          second.toList ++ '#' :: Nat.toDigits 10 (right + 1) := by
        simpa using texts
      obtain ⟨sameFirst, -, digits⟩ := (List.append_cons_inj_of_notMem
        firstPlain (noHash _)).mp split
      have number : left + 1 = right + 1 := by
        simpa using congrArg (fun digits => Nat.ofDigitChars 10 digits 0) digits
      exact ⟨String.toList_injective sameFirst, by omega⟩
    · rw [numberedId, numberedId, if_pos leftFirst, if_neg rightFirst] at texts
      refine absurd ?_ secondPlain
      rw [← texts]
      simp
  · by_cases rightFirst : 0 < right
    · rw [numberedId, numberedId, if_neg leftFirst, if_pos rightFirst] at texts
      refine absurd ?_ firstPlain
      rw [texts]
      simp
    · rw [numberedId, numberedId, if_neg leftFirst, if_neg rightFirst] at same
      exact ⟨same, by omega⟩

/-- What is assigned is numbered from the counts on. -/
theorem assignUniqueSocketIdsFrom_numbered (counts : String → Nat)
    (rows : List ProcessSocketInUseInfo) :
    ∀ id ∈ (assignUniqueSocketIdsFrom counts rows).map (·.socketId),
      ∃ row ∈ rows, ∃ count : Nat, counts row.socketId ≤ count ∧
        id = numberedId row.socketId count := by
  induction rows generalizing counts with
  | nil => simp [assignUniqueSocketIdsFrom]
  | cons row rows inductionHypothesis =>
      intro id member
      rw [assignUniqueSocketIdsFrom, List.map_cons] at member
      rcases List.mem_cons.mp member with rfl | later
      · exact ⟨row, List.mem_cons_self, _, Nat.le_refl _, rfl⟩
      · obtain ⟨other, isRow, count, atLeast, isId⟩ :=
          inductionHypothesis _ id later
        refine ⟨other, List.mem_cons_of_mem _ isRow, count, ?_, isId⟩
        by_cases same : other.socketId = row.socketId
        · rw [if_pos same] at atLeast
          rw [same]
          omega
        · rwa [if_neg same] at atLeast

/-- Numbered ids are distinct. -/
theorem assignUniqueSocketIdsFrom_nodup (counts : String → Nat)
    (rows : List ProcessSocketInUseInfo)
    (plain : ∀ row ∈ rows, '#' ∉ row.socketId.toList) :
    ((assignUniqueSocketIdsFrom counts rows).map (·.socketId)).Nodup := by
  induction rows generalizing counts with
  | nil => exact List.nodup_nil
  | cons row rows inductionHypothesis =>
      obtain ⟨rowPlain, othersPlain⟩ := List.forall_mem_cons.mp plain
      rw [assignUniqueSocketIdsFrom, List.map_cons, List.nodup_cons]
      refine ⟨?_, inductionHypothesis _ othersPlain⟩
      intro member
      obtain ⟨other, isRow, count, atLeast, isId⟩ :=
        assignUniqueSocketIdsFrom_numbered _ _ _ member
      obtain ⟨sameBase, sameCount⟩ :=
        numberedId_injective rowPlain (othersPlain other isRow) isId
      rw [if_pos sameBase.symm] at atLeast
      omega

/-! ## Any order of the tables -/

/-- A table with the same rows in some other order. -/
def Reordered {ρ : Type} (table other : Except UInt32 (List ρ)) : Prop :=
  match table, other with
  | .ok rows, .ok otherRows => rows.Perm otherRows
  | .error code, .error otherCode => code = otherCode
  | _, _ => False

/-- The system lists its sockets in another order. -/
structure SystemTables.Reordered (tables others : SystemTables) : Prop where
  openProcess : others.openProcess = tables.openProcess
  tcp4 : Windows.Reordered tables.tcp4 others.tcp4
  tcp6 : Windows.Reordered tables.tcp6 others.tcp6
  udp4 : Windows.Reordered tables.udp4 others.udp4
  udp6 : Windows.Reordered tables.udp6 others.udp6

/-- A reordered table has the same rows of a process. -/
theorem ownRows_perm {ρ : Type} (api : String) (owningPid : ρ → UInt32)
    (info : ρ → ProcessSocketInUseInfo) {table other : Except UInt32 (List ρ)}
    (reordered : Reordered table other) (pid : UInt32)
    (rows : List ProcessSocketInUseInfo)
    (own : ownRows api owningPid info table pid = .ok rows) :
    ∃ otherRows, ownRows api owningPid info other pid = .ok otherRows ∧
      rows.Perm otherRows := by
  cases table with
  | error code => cases own
  | ok tableRows =>
      cases other with
      | error code => cases reordered
      | ok otherRows =>
          cases own
          have perm : tableRows.Perm otherRows := reordered
          exact ⟨_, rfl, (perm.filter _).map info⟩

/-- What holds of every row holds of a process's own. -/
theorem ownRows_forall {ρ : Type} (property : ProcessSocketInUseInfo → Prop)
    (api : String) (owningPid : ρ → UInt32)
    (info : ρ → ProcessSocketInUseInfo) (holds : ∀ row, property (info row))
    (table : Except UInt32 (List ρ)) (pid : UInt32)
    (rows : List ProcessSocketInUseInfo)
    (own : ownRows api owningPid info table pid = .ok rows) :
    ∀ row ∈ rows, property row := by
  cases table with
  | error code => cases own
  | ok tableRows =>
      cases own
      intro row member
      obtain ⟨tableRow, _, rfl⟩ := List.mem_map.mp member
      exact holds tableRow

/-- The rows of a process are those of the four tables. -/
theorem reportedRows_eq_ok (tables : SystemTables) (pid : UInt64)
    (rows : List ProcessSocketInUseInfo) :
    reportedRows tables pid = .ok rows ↔
      pid.toNat < UInt32.size ∧
        ensureProcessExists tables pid.toUInt32 = .ok () ∧
        ∃ tcp4 tcp6 udp4 udp6,
          tcp4Rows tables pid.toUInt32 = .ok tcp4 ∧
          tcp6Rows tables pid.toUInt32 = .ok tcp6 ∧
          udp4Rows tables pid.toUInt32 = .ok udp4 ∧
          udp6Rows tables pid.toUInt32 = .ok udp6 ∧
          rows = tcp4 ++ tcp6 ++ udp4 ++ udp6 := by
  unfold reportedRows
  by_cases small : pid.toNat < UInt32.size
  · simp only [small, if_true, true_and]
    cases ensureProcessExists tables pid.toUInt32 with
    | error error => simp [bind, Except.bind]
    | ok opened =>
        cases tcp4Rows tables pid.toUInt32 with
        | error error => simp [bind, Except.bind]
        | ok tcp4 =>
            cases tcp6Rows tables pid.toUInt32 with
            | error error => simp [bind, Except.bind]
            | ok tcp6 =>
                cases udp4Rows tables pid.toUInt32 with
                | error error => simp [bind, Except.bind]
                | ok udp4 =>
                    cases udp6Rows tables pid.toUInt32 with
                    | error error => simp [bind, Except.bind]
                    | ok udp6 =>
                        simp [bind, Except.bind, pure, Except.pure, eq_comm]
  · simp [small]

/-- Reordered tables have the same rows of a process. -/
theorem reportedRows_perm {tables others : SystemTables}
    (reordered : tables.Reordered others) (pid : UInt64)
    (rows : List ProcessSocketInUseInfo)
    (reported : reportedRows tables pid = .ok rows) :
    ∃ otherRows, reportedRows others pid = .ok otherRows ∧
      rows.Perm otherRows := by
  obtain ⟨small, opened, tcp4, tcp6, udp4, udp6, isTcp4, isTcp6, isUdp4, isUdp6,
    rfl⟩ := (reportedRows_eq_ok tables pid rows).mp reported
  obtain ⟨otherTcp4, isOtherTcp4, permTcp4⟩ :=
    ownRows_perm _ _ _ reordered.tcp4 _ _ isTcp4
  obtain ⟨otherTcp6, isOtherTcp6, permTcp6⟩ :=
    ownRows_perm _ _ _ reordered.tcp6 _ _ isTcp6
  obtain ⟨otherUdp4, isOtherUdp4, permUdp4⟩ :=
    ownRows_perm _ _ _ reordered.udp4 _ _ isUdp4
  obtain ⟨otherUdp6, isOtherUdp6, permUdp6⟩ :=
    ownRows_perm _ _ _ reordered.udp6 _ _ isUdp6
  have otherOpened : ensureProcessExists others pid.toUInt32 = .ok () := by
    rw [ensureProcessExists, reordered.openProcess]
    exact opened
  exact ⟨_, (reportedRows_eq_ok others pid _).mpr
      ⟨small, otherOpened, _, _, _, _, isOtherTcp4, isOtherTcp6, isOtherUdp4,
        isOtherUdp6, rfl⟩,
    ((permTcp4.append permTcp6).append permUdp4).append permUdp6⟩

/-- The rows of a process come from the tables. -/
theorem reportedRows_isReported (tables : SystemTables) (pid : UInt64)
    (rows : List ProcessSocketInUseInfo)
    (reported : reportedRows tables pid = .ok rows) :
    ∀ row ∈ rows, IsReported row := by
  obtain ⟨small, opened, tcp4, tcp6, udp4, udp6, isTcp4, isTcp6, isUdp4, isUdp6,
    rfl⟩ := (reportedRows_eq_ok tables pid rows).mp reported
  have ofTcp4 := ownRows_forall IsReported _ _ _
    (fun _ => tcpRow_isReported "tcp4" (by decide) _ _
      (ipv4Endpoint_isIpEndpoint _ _) (ipv4Endpoint_isIpEndpoint _ _) _)
    _ _ _ isTcp4
  have ofTcp6 := ownRows_forall IsReported _ _ _
    (fun _ => tcpRow_isReported "tcp6" (by decide) _ _
      (ipv6Endpoint_isIpEndpoint _ _) (ipv6Endpoint_isIpEndpoint _ _) _)
    _ _ _ isTcp6
  have ofUdp4 := ownRows_forall IsReported _ _ _
    (fun _ => udpRow_isReported "udp4" (by decide) _
      (ipv4Endpoint_isIpEndpoint _ _))
    _ _ _ isUdp4
  have ofUdp6 := ownRows_forall IsReported _ _ _
    (fun _ => udpRow_isReported "udp6" (by decide) _
      (ipv6Endpoint_isIpEndpoint _ _))
    _ _ _ isUdp6
  intro row member
  rcases List.mem_append.mp member with member | member
  · rcases List.mem_append.mp member with member | member
    · rcases List.mem_append.mp member with member | member
      · exact ofTcp4 row member
      · exact ofTcp6 row member
    · exact ofUdp4 row member
  · exact ofUdp6 row member

/-! ## What a snapshot tells -/

section Pipeline

variable {reported : List ProcessSocketInUseInfo}

/-- Merged rows are in strict order. -/
theorem merged_pairwise
    (areReported : ∀ row ∈ reported, IsReported row) :
    (mergeEquivalentSocketRows (sortByKey socketSortKey reported)).Pairwise
      fun left right => socketOrderKey left < socketOrderKey right := by
  have members := (sortByKey_perm socketSortKey reported).subset
  refine mergeNeighbours_pairwise socketRowKey socketOrderKey _ ?_ ?_
  · refine (sortByKey_pairwise socketSortKey reported).imp ?_
    intro left right below
    rcases Prod.Lex.le_iff.mp below with less | ⟨same, _⟩
    · exact le_of_lt less
    · exact le_of_eq same
  · intro left leftMember right rightMember same
    exact rowKey_of_socketFields
      (socketFields_of_orderKey (areReported left (members leftMember))
        (areReported right (members rightMember)) same)

theorem merged_fields_nodup
    (areReported : ∀ row ∈ reported, IsReported row) :
    ((mergeEquivalentSocketRows (sortByKey socketSortKey reported)).map
      socketFields).Nodup := by
  rw [List.Nodup, List.pairwise_map]
  refine (merged_pairwise areReported).imp ?_
  intro left right less same
  exact ne_of_lt less (orderKey_of_socketFields same)

/-- What is left tells what the rows of the tables told. -/
theorem merged_fields_iff
    (areReported : ∀ row ∈ reported, IsReported row)
    (fields : ProcessSocketInUseKind × Option SocketEndpoint ×
      Option SocketEndpoint × Option Bool) :
    fields ∈ (mergeEquivalentSocketRows (sortByKey socketSortKey reported)).map
        socketFields ↔
      fields ∈ reported.map socketFields := by
  have perm := sortByKey_perm socketSortKey reported
  have sublist :=
    mergeNeighbours_sublist socketRowKey (sortByKey socketSortKey reported)
  constructor
  · intro member
    obtain ⟨row, isRow, rfl⟩ := List.mem_map.mp member
    exact List.mem_map_of_mem (perm.subset (sublist.subset isRow))
  · intro member
    obtain ⟨row, isRow, rfl⟩ := List.mem_map.mp member
    obtain ⟨kept, isKept, same⟩ := exists_mem_mergeNeighbours socketRowKey
      (sortByKey socketSortKey reported) row (perm.symm.subset isRow)
    have keptReported :=
      areReported kept (perm.subset (sublist.subset isKept))
    exact List.mem_map.mpr ⟨kept, isKept,
      socketFields_of_rowKey keptReported (areReported row isRow) same⟩

end Pipeline

/-- The rows of a snapshot do not depend on the order that the tables are
enumerated in.  No two of them tell the same, their identifiers are unique, and
every row that the system reports is told by exactly one of them. -/
theorem snapshot_rows (tables : SystemTables) (pid : UInt64)
    (rows : List ProcessSocketInUseInfo)
    (snapshot : snapshotProcessSocketsInUse tables pid = .ok rows) :
    (∀ others : SystemTables, tables.Reordered others →
      snapshotProcessSocketsInUse others pid = .ok rows) ∧
      (rows.map socketFields).Nodup ∧
      (rows.map (·.socketId)).Nodup ∧
      ∃ reported, reportedRows tables pid = .ok reported ∧
        (∀ row ∈ reported,
          (rows.map socketFields).count (socketFields row) = 1) ∧
        ∀ row ∈ rows, socketFields row ∈ reported.map socketFields := by
  cases isReported : reportedRows tables pid with
  | error error =>
      rw [snapshotProcessSocketsInUse, isReported] at snapshot
      cases snapshot
  | ok reported =>
      have areReported := reportedRows_isReported tables pid reported isReported
      have result : rows = assignUniqueSocketIds
          (mergeEquivalentSocketRows (sortByKey socketSortKey reported)) := by
        rw [snapshotProcessSocketsInUse, isReported] at snapshot
        cases snapshot
        rfl
      have fields : rows.map socketFields =
          (mergeEquivalentSocketRows (sortByKey socketSortKey reported)).map
            socketFields := by
        rw [result]
        exact assignUniqueSocketIdsFrom_fields _ _
      have nodup : (rows.map socketFields).Nodup := by
        rw [fields]
        exact merged_fields_nodup areReported
      refine ⟨?_, nodup, ?_, reported, rfl, ?_, ?_⟩
      · intro others reordered
        obtain ⟨otherRows, isOther, perm⟩ :=
          reportedRows_perm reordered pid reported isReported
        have sorted : sortByKey socketSortKey reported =
            sortByKey socketSortKey otherRows :=
          sortByKey_eq_of_perm socketSortKey perm
            fun left leftMember right rightMember =>
              socketSortKey_injective (areReported left leftMember)
                (areReported right rightMember)
        rw [snapshotProcessSocketsInUse, isOther, result, sorted]
        rfl
      · rw [result]
        refine assignUniqueSocketIdsFrom_nodup _ _ ?_
        intro row member
        have sublist := mergeNeighbours_sublist socketRowKey
          (sortByKey socketSortKey reported)
        exact (areReported row ((sortByKey_perm socketSortKey reported).subset
          (sublist.subset member))).socketId
      · intro row member
        apply List.count_eq_one_of_mem nodup
        rw [fields, merged_fields_iff areReported]
        exact List.mem_map_of_mem member
      · intro row member
        rw [← merged_fields_iff areReported, ← fields]
        exact List.mem_map_of_mem member

/-- A server that listens, and a row of another process. -/
def listeningTables : SystemTables where
  openProcess := fun _ => .ok ()
  tcp4 := .ok [⟨2, 0x0100007f, 0x5000, 0, 0, 7⟩, ⟨5, 0, 0, 0, 0, 8⟩]
  tcp6 := .ok []
  udp4 := .ok []
  udp6 := .ok []

/-- The rows of a socket that is listed twice. -/
theorem snapshot_rows_example :
    (∀ others : SystemTables, listeningTables.Reordered others →
      snapshotProcessSocketsInUse others 7 =
        .ok [⟨"tcp4:127.0.0.1:80", .tcp, some (.ip "127.0.0.1" (some 80)), none,
          some true⟩]) ∧
      ([⟨"tcp4:127.0.0.1:80", .tcp, some (.ip "127.0.0.1" (some 80)), none,
        some true⟩].map socketFields).Nodup ∧
      ([⟨"tcp4:127.0.0.1:80", .tcp, some (.ip "127.0.0.1" (some 80)), none,
        some true⟩].map ProcessSocketInUseInfo.socketId).Nodup ∧
      ∃ reported, reportedRows listeningTables 7 = .ok reported ∧
        (∀ row ∈ reported,
          ([⟨"tcp4:127.0.0.1:80", .tcp, some (.ip "127.0.0.1" (some 80)), none,
            some true⟩].map socketFields).count (socketFields row) = 1) ∧
        ∀ row ∈ [⟨"tcp4:127.0.0.1:80", .tcp,
            some (.ip "127.0.0.1" (some 80)), none, some true⟩],
          socketFields row ∈ reported.map socketFields :=
  snapshot_rows listeningTables 7 _ (by
    have reported : reportedRows listeningTables 7 =
        .ok [⟨"tcp4:127.0.0.1:80", .tcp, some (.ip "127.0.0.1" (some 80)), none,
          some true⟩] := by
      rfl
    rw [snapshotProcessSocketsInUse, reported]
    simp [sortByKey, mergeEquivalentSocketRows, mergeNeighbours,
      assignUniqueSocketIds, assignUniqueSocketIdsFrom, numberedId, bind,
      Except.bind, pure, Except.pure])

end Windows
end WhatsGoingOn
