import WhatsGoingOn.Host.SessionGate
import WhatsGoingOn.Library.Utf8
import WhatsGoingOn.Web.MethodErrors
import WhatsGoingOn.Web.RequestStreams
import WhatsGoingOn.Web.ResponseStreams

/-!
# Calls of the client, at the host

The client writes a call on a stream of its own.  Whatever else goes on at the
host, the handler of the procedure acts on the request that the client sent,
or the call is refused, and then the client throws why.
-/

namespace WhatsGoingOn
namespace Web

open Codegen.TypeScript (DecodeError)
open Daemon (ProcId RpcRequest Value maxMessageSequenceSize)
open Host (Dispatch Dispatcher HandlerEffect HostEvent HostState HostTasks
  Platform ReqResMessageReader StreamFails StreamTask buildRpcHandlers
  credentialsRequired describeDecodeError genericErrorMessage host
  isServerStreamProc notImplementedText pairedHost requiresAuthentication
  streamGenericErrorMessage)
open Reader (Reads)

/-! ## The request -/

/-- The request that `sendUnary` and `streamServerEvents` write. -/
def callRequest (proc : ProcId) (payload : Option (List UInt8)) :
    Except EncodeError (List UInt8) :=
  encodeReqResMessageSequence
    [{ kind := .requestUnary, procId := some proc.asU64.toNat,
       payload := payload }]

/-- The daemon reads the request of the client, and nothing after it. -/
theorem reads_callRequest {proc : ProcId} {payload : Option (List UInt8)}
    {request : List UInt8} (encoded : callRequest proc payload = .ok request)
    (small : request.length ≤ maxMessageSequenceSize)
    {chunks : List (List UInt8)} (carried : chunks.flatten = request)
    (nonempty : ∀ chunk ∈ chunks, chunk ≠ []) :
    ∃ reader after,
      (ReqResMessageReader.new chunks).next =
        .ok (some (.requestUnary proc.asU64 payload), reader) ∧
      reader.next = .ok (none, after) := by
  obtain ⟨written, each, runs⟩ :=
    runs_of_sequence encoded small carried nonempty
  cases each with
  | @cons _ pair _ _ first others =>
      cases others
      obtain ⟨piece, sent⟩ := pair
      have same := first.same
      cases sent with
      | requestUnary procId payload' =>
          have parts : proc.asU64.toNat = procId.toNat ∧
              payload = payload' := by
            simpa [toGeneratedReqResMessage, required, received] using same
          obtain ⟨number, rfl⟩ := parts
          cases UInt64.toNat_inj.mp number
          cases runs with
          | message read later =>
              cases later with
              | finished ends => exact ⟨_, _, read, ends⟩
      | _ => simp [toGeneratedReqResMessage, required, received, bind,
          Except.bind, pure, Except.pure] at same

/-! ## Refusals -/

/-- The dispatcher of the call of a procedure. -/
def dispatcherOf (proc : ProcId) : Dispatcher :=
  if isServerStreamProc proc.asU64 then .serverStream else .unary

/-- The message that refuses the call of a procedure. -/
def refusalMessage (proc : ProcId) (code : Daemon.RpcErrorCode)
    (text : String) : Daemon.ReqResMessage :=
  if isServerStreamProc proc.asU64 then
    streamGenericErrorMessage proc.asU64 code text
  else genericErrorMessage proc.asU64 code text

section Refusals

variable {ρ : Type} (platform : Platform ρ) (proc : ProcId)
  (payload : Option (List UInt8)) (authenticated : Bool)

/-- Why a call is refused, with the code and the text that say so. -/
inductive Refused : Daemon.RpcErrorCode → String → Prop where
  | unauthorized (required : requiresAuthentication proc.asU64 = true)
      (missing : authenticated = false) :
      Refused .unauthorized credentialsRequired
  | undecodable (failure : Daemon.RpcRequestDecodeError)
      (undecoded : RpcRequest.decode platform.decodePayload proc.asU64 payload =
        .error (.error failure)) :
      Refused (describeDecodeError failure).1 (describeDecodeError failure).2
  | unimplemented
      (missing : ¬ (proc.stream ≠ .client ∧ proc ∈ buildRpcHandlers platform)) :
      Refused .notImplemented notImplementedText

/-- When the handler of a call may act. -/
structure Admitted (request : RpcRequest ρ) : Prop where
  decoded : RpcRequest.decode platform.decodePayload proc.asU64 payload =
    .ok request
  implemented : proc.stream ≠ .client ∧ proc ∈ buildRpcHandlers platform
  permitted : requiresAuthentication proc.asU64 = true → authenticated = true

variable {platform proc payload authenticated}

/-- No procedure has an error of its own for a missing handler. -/
theorem errorParts_unimplemented (proc : ProcId) (text : String) :
    Host.errorParts proc.asU64 "not_implemented" text =
      (.system, Daemon.RpcErrorPayload.encode ⟨.notImplemented, text⟩) := by
  have none : proc.methodErrorVariant "not_implemented" = none := by
    cases proc <;> decide
  rw [Host.errorParts, Host.methodErrorPayload, ProcId.fromU64_asU64,
    Option.bind_some, ProcId.methodErrorPayload, none]
  rfl

theorem isServerStreamProc_asU64 (proc : ProcId) :
    isServerStreamProc proc.asU64 = (proc.stream == .server) := by
  rw [isServerStreamProc, ProcId.fromU64_asU64]
  rfl

/-- What a dispatcher makes of a call, by the parts that the dispatchers do not
share. -/
inductive Dispatches (platform : Platform ρ) (proc : ProcId)
    (payload : Option (List UInt8)) (authenticated : Bool) :
    Dispatch ρ → Prop where
  | handle {request : RpcRequest ρ}
      (admitted : Admitted platform proc payload authenticated request) :
      Dispatches platform proc payload authenticated (.handle request)
  | reply {code : Daemon.RpcErrorCode} {text : String}
      (refused : Refused platform proc payload authenticated code text) :
      Dispatches platform proc payload authenticated
        (.reply (refusalMessage proc code text))
  | panicked {cause : Daemon.Panic}
      (undecoded : RpcRequest.decode platform.decodePayload proc.asU64 payload =
        .error (.panic cause)) :
      Dispatches platform proc payload authenticated .panicked

/-- What dispatching a call does, by the table of procedures. -/
theorem dispatches_rpc {stream : Daemon.ProcStream}
    {unauthorized : Daemon.ReqResMessage}
    {undecodable : Daemon.RpcRequestDecodeError → Daemon.ReqResMessage}
    {unimplemented : UInt64 → Daemon.ReqResMessage}
    (serves : proc.stream = stream ↔ proc.stream ≠ .client)
    (unauthorizedText : unauthorized =
      refusalMessage proc .unauthorized credentialsRequired)
    (undecodableText : ∀ failure, undecodable failure =
      refusalMessage proc (describeDecodeError failure).1
        (describeDecodeError failure).2)
    (unimplementedText : unimplemented proc.asU64 =
      refusalMessage proc .notImplemented notImplementedText) :
    Dispatches platform proc payload authenticated
      (Host.dispatchRpc platform stream unauthorized undecodable unimplemented
        authenticated proc.asU64 payload) := by
  unfold Host.dispatchRpc
  split
  · rename_i gated
    rw [Bool.and_eq_true, Bool.not_eq_true'] at gated
    rw [unauthorizedText]
    exact .reply (.unauthorized gated.1 gated.2)
  · rename_i passed
    split
    · rename_i failure undecoded
      rw [undecodableText]
      exact .reply (.undecodable failure undecoded)
    · rename_i cause undecoded
      exact .panicked undecoded
    · rename_i request decoded
      have same : request.proc = proc := by
        have number := RpcRequest.asU64_proc_of_decode decoded
        have names := congrArg ProcId.fromU64 number
        rw [ProcId.fromU64_asU64, ProcId.fromU64_asU64] at names
        exact Option.some.inj names
      rw [same]
      split
      · rename_i implemented
        refine .handle ⟨decoded, ⟨serves.mp implemented.1, implemented.2⟩,
          fun required => ?_⟩
        cases missing : authenticated with
        | true => rfl
        | false => simp [required, missing] at passed
      · rename_i missing
        rw [unimplementedText]
        exact .reply (.unimplemented fun implemented =>
          missing ⟨serves.mpr implemented.1, implemented.2⟩)

/-- What becomes of a call at its dispatcher. -/
theorem dispatches_call (platform : Platform ρ) (proc : ProcId)
    (payload : Option (List UInt8)) (authenticated : Bool) :
    Dispatches platform proc payload authenticated
      (StreamTask.dispatched platform (dispatcherOf proc) authenticated
        proc.asU64 payload) := by
  have isStream := isServerStreamProc_asU64 proc
  unfold dispatcherOf
  by_cases server : isServerStreamProc proc.asU64 = true
  · have serves : proc.stream = .server := by simpa [isStream] using server
    rw [if_pos server]
    have gates : proc.stream = .server ↔ proc.stream ≠ .client := by
      simp [serves]
    change Dispatches _ _ _ _ (Host.dispatchServerStreamRpc _ _ _ _)
    unfold Host.dispatchServerStreamRpc
    refine dispatches_rpc gates ?_ (fun failure => ?_) ?_
    · rw [refusalMessage, if_pos server]
    · rw [refusalMessage, if_pos server]
      rfl
    · rw [refusalMessage, if_pos server, Host.streamErrorMessage,
        errorParts_unimplemented]
      rfl
  · have serves : proc.stream ≠ .server := by simpa [isStream] using server
    rw [if_neg server]
    have gates : proc.stream = .unary ↔ proc.stream ≠ .client := by
      clear isStream server
      cases proc <;> first | decide | exact absurd rfl serves
    change Dispatches _ _ _ _ (Host.dispatchUnaryRpc _ _ _ _)
    unfold Host.dispatchUnaryRpc
    refine dispatches_rpc gates ?_ (fun failure => ?_) ?_
    · rw [refusalMessage, if_neg server]
      rfl
    · rw [refusalMessage, if_neg server]
      rfl
    · rw [refusalMessage, if_neg server, Host.errorMessage,
        errorParts_unimplemented]
      rfl

end Refusals

/-! ## What the client throws -/

/-- What a call throws where it is refused: whichever of the two loops reads
the answer, an error with the code and the text of the refusal. -/
def Throws (proc : ProcId) (code : Daemon.RpcErrorCode) (text : String)
    (replies : List (List UInt8)) : Prop :=
  ∀ {α : Type} (decodeResponse : CborValue → Except DecodeError α)
    (undefined : Except DecodeError α),
    if isServerStreamProc proc.asU64 then
      streamServerEvents (procCodec proc decodeResponse) [] replies =
        ⟨[], some (.rpcError (envelopeCode code) text)⟩
    else
      unaryResult (procCodec proc decodeResponse) undefined replies =
        .error (.response (.rpcError (envelopeCode code) text))

/-- The text of a refusal is short, and does not begin with a byte order
mark. -/
structure Plain (text : String) : Prop where
  short : (Bytes.utf8 text).length ≤ 100
  unmarked : text.toList.head? ≠ some '\uFEFF'

/-- A text of at most so many ASCII characters. -/
structure ShortAscii (text : String) (limit : Nat) : Prop where
  short : text.toList.length ≤ limit
  ascii : ∀ character ∈ text.toList, character.toNat < 0x80

theorem shortAscii_ofList {letters : List Char} {limit : Nat}
    (short : letters.length ≤ limit)
    (ascii : letters.all (fun letter => letter.toNat < 0x80) = true) :
    ShortAscii (String.ofList letters) limit := by
  rw [← String.toList_ofList (l := letters)] at short ascii
  exact ⟨short, by simpa using ascii⟩

theorem ShortAscii.append {left right : String} {first second : Nat}
    (before : ShortAscii left first) (after : ShortAscii right second) :
    ShortAscii (left ++ right) (first + second) := by
  constructor
  · rw [String.toList_append, List.length_append]
    exact Nat.add_le_add before.short after.short
  · rw [String.toList_append]
    exact List.forall_mem_append.mpr ⟨before.ascii, after.ascii⟩

/-- An ASCII character takes one byte, and is no byte order mark. -/
theorem ShortAscii.plain {text : String} {limit : Nat}
    (letters : ShortAscii text limit) (small : limit ≤ 100) : Plain text := by
  constructor
  · have single : (text.toList.map fun letter =>
        (String.utf8EncodeChar letter).length) =
          List.replicate text.toList.length 1 := by
      refine List.eq_replicate_iff.mpr
        ⟨List.length_map _, fun size member => ?_⟩
      obtain ⟨letter, inText, rfl⟩ := List.mem_map.mp member
      rw [Text.utf8EncodeChar_ascii (letters.ascii letter inText)]
      rfl
    rw [Text.utf8_eq, List.length_flatMap, single, List.sum_replicate_nat,
      Nat.mul_one]
    exact letters.short.trans small
  · intro marked
    have low := letters.ascii _ (List.mem_of_head? marked)
    exact absurd low (by decide)

theorem plain_ofList {letters : List Char} (short : letters.length ≤ 100)
    (ascii : letters.all (fun letter => letter.toNat < 0x80) = true) :
    Plain (String.ofList letters) :=
  (shortAscii_ofList short ascii).plain le_rfl

theorem shortAscii_name (proc : ProcId) : ShortAscii proc.name 60 := by
  cases proc <;> exact shortAscii_ofList (by decide) (by decide)

/-- What the replies say of a procedure. -/
theorem plain_name (proc : ProcId) :
    Plain (proc.name ++ " requires a payload") ∧
      Plain (proc.name ++ " payload is malformed") := by
  have name := shortAscii_name proc
  have missing : ShortAscii " requires a payload" 40 :=
    shortAscii_ofList (by decide) (by decide)
  have malformed : ShortAscii " payload is malformed" 40 :=
    shortAscii_ofList (by decide) (by decide)
  exact ⟨(name.append missing).plain le_rfl,
    (name.append malformed).plain le_rfl⟩

theorem plain_describeDecodeError (failure : Daemon.RpcRequestDecodeError) :
    Plain (describeDecodeError failure).2 := by
  cases failure with
  | unknownProcId procId =>
      have plain : Plain notImplementedText :=
        plain_ofList (by decide) (by decide)
      exact plain
  | missingPayload proc => exact (plain_name proc).1
  | malformedPayload proc source => exact (plain_name proc).2

theorem Refused.plain {ρ : Type} {platform : Platform ρ} {proc : ProcId}
    {payload : Option (List UInt8)} {authenticated : Bool}
    {code : Daemon.RpcErrorCode} {text : String}
    (refused : Refused platform proc payload authenticated code text) :
    Plain text := by
  cases refused with
  | unauthorized required missing =>
      exact plain_ofList (by decide) (by decide)
  | undecodable failure undecoded => exact plain_describeDecodeError failure
  | unimplemented missing => exact plain_ofList (by decide) (by decide)

/-- An error of the envelope is little longer than its text. -/
theorem length_encode_rpcErrorPayload (payload : Daemon.RpcErrorPayload) :
    payload.encode.length ≤ (Bytes.utf8 payload.message).length + 45 := by
  change (Daemon.encodeTypeValue 5 2 ++ (Daemon.encodeTypeValue 0 1 ++
    Daemon.encodeTypeValue 0 payload.code.asU64 ++
      (Daemon.encodeTypeValue 0 2 ++ (Daemon.encodeTypeValue 3 _ ++
        Bytes.utf8 payload.message) ++ []))).length ≤ _
  have heads := length_encodeTypeValue_le
  have head := heads 5 2
  have key := heads 0 1
  have number := heads 0 payload.code.asU64
  have otherKey := heads 0 2
  have length := heads 3
    (UInt64.ofNat (Bytes.utf8 payload.message).length)
  simp only [List.length_append, List.length_nil]
  omega

/-- A refusal reaches the client that reads the answer. -/
theorem throws_refusal {proc : ProcId} {code : Daemon.RpcErrorCode}
    {text : String} (plain : Plain text) :
    ∃ bytes, Daemon.ReqResMessage.encodeSequence
        [refusalMessage proc code text] = .ok bytes ∧
      ∀ replies : List (List UInt8), replies.flatten = bytes →
        Throws proc code text replies := by
  have short : Short text := plain.short.trans (by decide)
  have same := stripByteOrderMark_eq_self.mpr plain.unmarked
  have small : (Daemon.RpcErrorPayload.encode ⟨code, text⟩).length ≤
      maxSafeInteger := by
    refine (length_encode_rpcErrorPayload ⟨code, text⟩).trans ?_
    have := plain.short
    have : (145 : Nat) ≤ maxSafeInteger := by decide
    dsimp only
    omega
  have within : ∀ message ∈ [refusalMessage proc code text],
      message.Within maxSafeInteger := by
    refine List.forall_mem_singleton.mpr ?_
    unfold refusalMessage
    split <;> exact small
  have unmarked : ∀ message ∈ [refusalMessage proc code text],
      HasNoMark message := by
    refine List.forall_mem_singleton.mpr ?_
    unfold refusalMessage
    split <;> trivial
  obtain ⟨bytes, encoded, reads⟩ := reads_encodeSequence within unmarked
  have whole := reads []
  rw [List.append_nil] at whole
  refine ⟨bytes, encoded, ?_⟩
  rintro replies rfl α decodeResponse undefined
  have thrown {response : ReqResMessage}
      (hasError : response.error =
        some (Daemon.RpcErrorPayload.encode ⟨code, text⟩))
      (hasKind : response.errorKind = some .system) :
      rpcErrorOf (procCodec proc decodeResponse) response =
        .rpcError (envelopeCode code) text := by
    rw [rpcErrorOf_system _ hasError hasKind short, same]
  unfold refusalMessage at whole
  split
  · rename_i server
    rw [if_pos server] at whole
    rw [stream_of_incomplete _ whole rfl]
    exact congrArg (fun failure => ServerEvents.mk [] (some failure))
      (thrown rfl rfl)
  · rename_i server
    rw [if_neg server] at whole
    rw [unaryResult, decodeReqResMessageSequence_of_reads whole]
    exact congrArg (fun failure => Except.error (CallFailure.response failure))
      (thrown rfl rfl)

/-! ## The task of the stream -/

section Task

variable {ρ ω : Type}

/-- What the handler of a stream did. -/
def actions (stream : Nat) (history : List (HostEvent ω)) :
    List (HandlerEffect ω) :=
  history.filterMap fun event =>
    match event with
    | .advance index (.handle effect) =>
        if index = stream then some effect else none
    | _ => none

/-- What the handler of a stream wrote. -/
def answers (stream : Nat) (history : List (HostEvent ω)) :
    List Daemon.ReqResMessage :=
  (actions stream history).flatMap HandlerEffect.messages

/-- In one step, the call is dispatched, and something holds of whether its
session is authenticated then. -/
def DispatchedWhen (stream session : Nat) (proc : ProcId)
    (payload : Option (List UInt8)) (What : Bool → Prop)
    (_ : List (HostEvent ω)) (state : HostTasks ρ ω) (event : HostEvent ω)
    (_ : HostTasks ρ ω) : Prop :=
  ∃ nowUnix task sessionState,
    event = .advance stream (.proceed nowUnix) ∧
      state.tasks[stream]? = some task ∧
      task.stage = .dispatch (dispatcherOf proc) proc.asU64 payload ∧
      state.shared.sessions[session]? = some sessionState ∧
      What sessionState.authenticatedClientId.isSome

variable (platform : Platform ρ) (opened : HostTasks ρ ω)
  (stream session : Nat) (proc : ProcId) (payload : Option (List UInt8))

/-- The handler acts on the request of the client, which was admitted. -/
def ServedBy (request : RpcRequest ρ) (history : List (HostEvent ω))
    (sent : List Daemon.ReqResMessage) : Prop :=
  Occurred (host platform).step opened
    (DispatchedWhen stream session proc payload fun authenticated =>
      Admitted platform proc payload authenticated request) history ∧
    sent = answers stream history

/-- The call is refused, its handler never acts, and the client throws why. -/
def RefusedBy (history : List (HostEvent ω))
    (sent : List Daemon.ReqResMessage) : Prop :=
  actions stream history = [] ∧ ∃ code text,
    Occurred (host platform).step opened
      (DispatchedWhen stream session proc payload fun authenticated =>
        Refused platform proc payload authenticated code text) history ∧
    ∃ bytes, Daemon.ReqResMessage.encodeSequence sent = .ok bytes ∧
      ∀ replies : List (List UInt8), replies.flatten = bytes →
        Throws proc code text replies

/-- The call ends without an answer, its handler never acted, and it is known
why. -/
def Abandoned (history : List (HostEvent ω))
    (sent : List Daemon.ReqResMessage) : Prop :=
  actions stream history = [] ∧ sent = [] ∧
    (Occurred (host platform).step opened (StreamFails stream) history ∨
      ∃ cause, RpcRequest.decode platform.decodePayload proc.asU64 payload =
        .error (.panic cause))

/-- How far the task of a call is. -/
structure CallProgress (chunks : List (List UInt8))
    (history : List (HostEvent ω)) (task : StreamTask ρ) : Prop where
  onSession : task.session = session
  stage : match task.stage with
    | .first reader =>
        reader = .new chunks ∧ task.sent = [] ∧ actions stream history = []
    | .second dispatcher procId asked reader =>
        dispatcher = dispatcherOf proc ∧ procId = proc.asU64 ∧
          asked = payload ∧ (∃ after, reader.next = .ok (none, after)) ∧
          task.sent = [] ∧ actions stream history = []
    | .dispatch dispatcher procId asked =>
        dispatcher = dispatcherOf proc ∧ procId = proc.asU64 ∧
          asked = payload ∧ task.sent = [] ∧ actions stream history = []
    | .running request =>
        ServedBy platform opened stream session proc payload request history
          task.sent
    | .finished =>
        (∃ request, ServedBy platform opened stream session proc payload
          request history task.sent) ∨
          RefusedBy platform opened stream session proc payload history
            task.sent ∨
          Abandoned platform opened stream proc payload history task.sent
    | _ => False

variable {platform opened stream session proc payload}
variable {history : List (HostEvent ω)} {sent : List Daemon.ReqResMessage}

theorem actions_concat_handle (effect : HandlerEffect ω) :
    actions stream (history ++ [.advance stream (.handle effect)]) =
      actions stream history ++ [effect] := by
  simp [actions]

/-- Only the handler of the stream itself acts on it. -/
theorem actions_concat_other {event : HostEvent ω}
    (other : ∀ effect, event ≠ .advance stream (.handle effect)) :
    actions stream (history ++ [event]) = actions stream history := by
  rw [actions, actions, List.filterMap_append]
  suffices none : ([event] : List (HostEvent ω)).filterMap _ = [] by
    rw [none, List.append_nil]
  refine List.filterMap_eq_nil_iff.mpr (List.forall_mem_singleton.mpr ?_)
  cases event with
  | launch request => rfl
  | disturb cause => rfl
  | advance index input =>
      cases input with
      | proceed nowUnix => rfl
      | fail => rfl
      | handle effect =>
          refine if_neg ?_
          rintro rfl
          exact other effect rfl

/-- What is known of an ended call stays so, whatever happens elsewhere. -/
theorem ServedBy.later {request : RpcRequest ρ} {event : HostEvent ω}
    (other : ∀ effect, event ≠ .advance stream (.handle effect))
    (served : ServedBy platform opened stream session proc payload request
      history sent) :
    ServedBy platform opened stream session proc payload request
      (history ++ [event]) sent := by
  refine ⟨served.1.append _, ?_⟩
  rw [answers, actions_concat_other other]
  exact served.2

theorem RefusedBy.later {event : HostEvent ω}
    (other : ∀ effect, event ≠ .advance stream (.handle effect))
    (refused : RefusedBy platform opened stream session proc payload history
      sent) :
    RefusedBy platform opened stream session proc payload
      (history ++ [event]) sent := by
  obtain ⟨idle, code, text, occurred, thrown⟩ := refused
  exact ⟨(actions_concat_other other).trans idle, code, text,
    occurred.append _, thrown⟩

theorem Abandoned.later {event : HostEvent ω}
    (other : ∀ effect, event ≠ .advance stream (.handle effect))
    (abandoned : Abandoned platform opened stream proc payload history sent) :
    Abandoned platform opened stream proc payload (history ++ [event])
      sent := by
  obtain ⟨idle, silent, why⟩ := abandoned
  exact ⟨(actions_concat_other other).trans idle, silent,
    why.imp_left fun failed => failed.append _⟩

/-- No step of another task takes anything from a call. -/
theorem CallProgress.frame {chunks : List (List UInt8)}
    {event : HostEvent ω} {task : StreamTask ρ}
    (other : ∀ input, event ≠ .advance stream input)
    (progress : CallProgress platform opened stream session proc payload chunks
      history task) :
    CallProgress platform opened stream session proc payload chunks
      (history ++ [event]) task := by
  obtain ⟨onSession, stage⟩ := progress
  have elsewhere (effect : HandlerEffect ω) :
      event ≠ .advance stream (.handle effect) := other _
  refine ⟨onSession, ?_⟩
  cases stageIs : task.stage with
  | first reader =>
      simp only [stageIs] at stage ⊢
      rw [actions_concat_other elsewhere]
      exact stage
  | second dispatcher procId asked reader =>
      simp only [stageIs] at stage ⊢
      rw [actions_concat_other elsewhere]
      exact stage
  | dispatch dispatcher procId asked =>
      simp only [stageIs] at stage ⊢
      rw [actions_concat_other elsewhere]
      exact stage
  | running request =>
      simp only [stageIs] at stage ⊢
      exact stage.later elsewhere
  | finished =>
      simp only [stageIs] at stage ⊢
      rcases stage with ⟨request, served⟩ | refused | abandoned
      · exact .inl ⟨request, served.later elsewhere⟩
      · exact .inr (.inl (refused.later elsewhere))
      · exact .inr (.inr (abandoned.later elsewhere))
  | _ => simp only [stageIs] at stage

/-- The transport of the stream fails. -/
theorem CallProgress.fail {chunks : List (List UInt8)}
    {state next : HostTasks ρ ω} {task : StreamTask ρ}
    (reached : run (host platform).step opened history = some state)
    (taken : (host platform).step state (.advance stream .fail) = some next)
    (progress : CallProgress platform opened stream session proc payload chunks
      history task) :
    CallProgress platform opened stream session proc payload chunks
      (history ++ [.advance stream .fail]) (task.moveTo .finished) := by
  obtain ⟨onSession, stage⟩ := progress
  have quiet (effect : HandlerEffect ω) :
      (.advance stream .fail : HostEvent ω) ≠
        .advance stream (.handle effect) := by
    rintro ⟨⟩
  have failed : Occurred (host platform).step opened (StreamFails stream)
      (history ++ [.advance stream .fail]) := .now reached taken rfl
  have abandoned (silent : task.sent = [])
      (idle : actions stream history = []) :
      Abandoned platform opened stream proc payload
        (history ++ [.advance stream .fail]) task.sent :=
    ⟨(actions_concat_other quiet).trans idle, silent, .inl failed⟩
  refine ⟨onSession, ?_⟩
  change _ ∨ _ ∨ _
  cases stageIs : task.stage with
  | first reader =>
      simp only [stageIs] at stage
      exact .inr (.inr (abandoned stage.2.1 stage.2.2))
  | second dispatcher procId asked reader =>
      simp only [stageIs] at stage
      obtain ⟨-, -, -, -, silent, idle⟩ := stage
      exact .inr (.inr (abandoned silent idle))
  | dispatch dispatcher procId asked =>
      simp only [stageIs] at stage
      obtain ⟨-, -, -, silent, idle⟩ := stage
      exact .inr (.inr (abandoned silent idle))
  | running request =>
      simp only [stageIs] at stage
      exact .inl ⟨request, stage.later quiet⟩
  | finished =>
      simp only [stageIs] at stage
      rcases stage with ⟨request, served⟩ | refused | abandoned
      · exact .inl ⟨request, served.later quiet⟩
      · exact .inr (.inl (refused.later quiet))
      · exact .inr (.inr (abandoned.later quiet))
  | _ => simp only [stageIs] at stage

/-- The handler of the stream acts. -/
theorem CallProgress.handle {chunks : List (List UInt8)}
    {effect : HandlerEffect ω} {shared after : HostState ω}
    {task next : StreamTask ρ}
    (acted : Host.advanceStream platform shared task (.handle effect) =
      some (after, next))
    (progress : CallProgress platform opened stream session proc payload chunks
      history task) :
    CallProgress platform opened stream session proc payload chunks
      (history ++ [.advance stream (.handle effect)]) next := by
  obtain ⟨onSession, stage⟩ := progress
  simp only [Host.advanceStream] at acted
  split at acted
  · rename_i request running
    cases acted
    simp only [running] at stage
    have served : ServedBy platform opened stream session proc payload request
        (history ++ [.advance stream (.handle effect)])
        (task.sent ++ effect.messages) := by
      refine ⟨stage.1.append _, ?_⟩
      rw [answers, actions_concat_handle, stage.2, answers]
      simp
    refine ⟨onSession, ?_⟩
    cases ended : effect.finished with
    | true => exact .inl ⟨request, served⟩
    | false =>
        simp only [running, Bool.false_eq_true, if_false]
        exact served
  · cases acted

/-- The code of the stream goes on. -/
theorem CallProgress.proceed {chunks : List (List UInt8)}
    {reader readerAfter : ReqResMessageReader}
    (first : (ReqResMessageReader.new chunks).next =
      .ok (some (.requestUnary proc.asU64 payload), reader))
    (second : reader.next = .ok (none, readerAfter))
    {nowUnix : Int} {state next : HostTasks ρ ω} {shared : HostState ω}
    {task after : StreamTask ρ}
    (reached : run (host platform).step opened history = some state)
    (taken : (host platform).step state (.advance stream (.proceed nowUnix)) =
      some next)
    (found : state.tasks[stream]? = some task)
    (acted : Host.advanceStream platform state.shared task
      (.proceed nowUnix) = some (shared, after))
    (progress : CallProgress platform opened stream session proc payload chunks
      history task) :
    CallProgress platform opened stream session proc payload chunks
      (history ++ [.advance stream (.proceed nowUnix)]) after := by
  obtain ⟨onSession, stage⟩ := progress
  have idle : actions stream
      (history ++ [(.advance stream (.proceed nowUnix) : HostEvent ω)]) =
        actions stream history :=
    actions_concat_other (by rintro _ ⟨⟩)
  cases stageIs : task.stage with
  | first begin =>
      simp only [stageIs] at stage
      obtain ⟨rfl, silent, quiet⟩ := stage
      simp only [Host.advanceStream, stageIs] at acted
      cases acted
      rw [StreamTask.readFirst, first]
      dsimp only
      rw [if_neg (by simp [Daemon.ReqResMessage.isSessionControl])]
      by_cases server : isServerStreamProc proc.asU64 = true
      · rw [if_pos server]
        refine ⟨onSession, ?_, rfl, rfl, ⟨_, second⟩, silent, idle.trans quiet⟩
        rw [dispatcherOf, if_pos server]
      · rw [if_neg server]
        refine ⟨onSession, ?_, rfl, rfl, ⟨_, second⟩, silent, idle.trans quiet⟩
        rw [dispatcherOf, if_neg server]
  | second dispatcher procId asked begin =>
      simp only [stageIs] at stage
      obtain ⟨rfl, rfl, rfl, ⟨ended, ends⟩, silent, quiet⟩ := stage
      simp only [Host.advanceStream, stageIs] at acted
      cases acted
      unfold StreamTask.readSecond
      rw [ends]
      exact ⟨onSession, rfl, rfl, rfl, silent, idle.trans quiet⟩
  | dispatch dispatcher procId asked =>
      simp only [stageIs] at stage
      obtain ⟨rfl, rfl, rfl, silent, quiet⟩ := stage
      simp only [Host.advanceStream, stageIs] at acted
      obtain ⟨sessionState, stored, same⟩ := Option.map_eq_some_iff.mp acted
      cases same
      rw [onSession] at stored
      have occurred {What : Bool → Prop}
          (holds : What sessionState.authenticatedClientId.isSome) :
          Occurred (host platform).step opened
            (DispatchedWhen stream session proc asked What)
            (history ++ [.advance stream (.proceed nowUnix)]) :=
        .now reached taken
          ⟨nowUnix, task, sessionState, rfl, found, stageIs, stored, holds⟩
      have made := dispatches_call platform proc asked
        sessionState.authenticatedClientId.isSome
      rw [StreamTask.dispatch]
      generalize StreamTask.dispatched platform (dispatcherOf proc)
        sessionState.authenticatedClientId.isSome proc.asU64 asked =
          result at made ⊢
      cases made with
      | handle admitted =>
          refine ⟨onSession, occurred admitted, ?_⟩
          change task.sent = _
          rw [silent, answers, idle, quiet]
          rfl
      | @reply code text refused =>
          refine ⟨onSession, .inr (.inl ⟨idle.trans quiet, code, text,
            occurred refused, ?_⟩)⟩
          change ∃ bytes, Daemon.ReqResMessage.encodeSequence
            (task.sent ++ [_]) = .ok bytes ∧ _
          rw [silent]
          exact throws_refusal refused.plain
      | panicked undecoded =>
          exact ⟨onSession, .inr (.inr ⟨idle.trans quiet, silent,
            .inr ⟨_, undecoded⟩⟩)⟩
  | running request =>
      simp only [Host.advanceStream, stageIs] at acted
      cases acted
  | finished =>
      simp only [Host.advanceStream, stageIs] at acted
      cases acted
  | _ => simp only [stageIs] at stage

/-- However a call is split, and whatever other streams, handlers and sessions
do meanwhile: the handler of its procedure acts only on the request that the
client sent, admitted when the call was dispatched, and all that is written is
what it wrote; or the handler never acts, and the client throws the reason, or
nothing is written because the transport failed or the decoder of the payload
panicked. -/
theorem call_is_served_or_refused (platform : Platform ρ)
    {proc : ProcId} {payload : Option (List UInt8)} {request : List UInt8}
    (encoded : callRequest proc payload = .ok request)
    (small : request.length ≤ maxMessageSequenceSize)
    {session : Nat} {chunks : List (List UInt8)}
    (carried : chunks.flatten = request)
    (nonempty : ∀ chunk ∈ chunks, chunk ≠ [])
    {before opened state : HostTasks ρ ω} {late : List (HostEvent ω)}
    (accepted : (host platform).step before (.launch (session, chunks)) =
      some opened)
    (reached : run (host platform).step opened late = some state) :
    ∃ task, state.tasks[before.tasks.length]? = some task ∧
      CallProgress platform opened before.tasks.length session proc payload
        chunks late task := by
  obtain ⟨reader, readerAfter, first, second⟩ :=
    reads_callRequest encoded small carried nonempty
  obtain ⟨started, launched, rfl⟩ :=
    TaskSystem.step_launch_eq_some.mp accepted
  have start : started =
      { session := session, request := none,
        stage := .first (ReqResMessageReader.new chunks), sent := [] } := by
    simp only [host, Host.acceptStream] at launched
    split at launched
    · exact (Option.some.inj launched).symm
    · cases launched
  apply TaskSystem.run_task _ _ _ reached
  · refine ⟨started, List.getElem?_concat_length, ?_⟩
    rw [start]
    exact ⟨rfl, rfl, rfl, rfl⟩
  · intro history state input task shared after reached found progress acted
    have taken : (host platform).step state
        (.advance before.tasks.length input) =
          some ⟨shared, state.tasks.set before.tasks.length after⟩ :=
      TaskSystem.step_advance_eq_some.mpr
        ⟨task, shared, after, found, acted, rfl⟩
    cases input with
    | fail =>
        cases acted
        exact progress.fail reached taken
    | handle effect => exact progress.handle acted
    | proceed nowUnix =>
        exact progress.proceed first second reached taken found acted
  · intro history state event next task reached taken other progress
    exact progress.frame other

/-- A call is served to its end. -/
def servedCall : List (HostEvent Unit) :=
  List.replicate 3 (.advance 0 (.proceed 10))

theorem servedCall_runs :
    (((host Host.pairedPlatform).step pairedHost
      (.launch (0, [[0, 161], [1, 5]]))).bind fun opened =>
        run (host Host.pairedPlatform).step opened servedCall).isSome =
          true := by
  decide +kernel

theorem callRequest_subscribeRoots :
    callRequest .subscribeRoots none = .ok [0, 161, 1, 5] := by
  have message : Written { kind := .requestUnary, procId := some 5 }
      [0, 161, 1, 5] (.requestUnary 5 none) :=
    ⟨⟨by decide, by rintro _ ⟨⟩⟩, rfl, rfl⟩
  exact Outcome.bind_eq_ok.mpr ⟨_, message.encodes, rfl⟩

/-- A client that is not paired asks for the roots. -/
theorem call_is_served_or_refused_roots :
    ∃ opened state,
      (host Host.pairedPlatform).step pairedHost
        (.launch (0, [[0, 161], [1, 5]])) = some opened ∧
      run (host Host.pairedPlatform).step opened servedCall = some state ∧
      ∃ task, state.tasks[pairedHost.tasks.length]? = some task ∧
        CallProgress Host.pairedPlatform opened pairedHost.tasks.length 0
          .subscribeRoots none [[0, 161], [1, 5]] servedCall task := by
  obtain ⟨state, runs⟩ := Option.isSome_iff_exists.mp servedCall_runs
  obtain ⟨opened, accepted, reached⟩ := Option.bind_eq_some_iff.mp runs
  exact ⟨opened, state, accepted, reached,
    call_is_served_or_refused Host.pairedPlatform callRequest_subscribeRoots
      (by decide) rfl (by decide) accepted reached⟩

end Task

end Web
end WhatsGoingOn
