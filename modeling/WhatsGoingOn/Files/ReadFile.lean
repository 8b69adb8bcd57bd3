import WhatsGoingOn.Daemon.WireEncode
import WhatsGoingOn.Files.WriteFile
import WhatsGoingOn.Host.DirectoryStream
import WhatsGoingOn.Host.Replies
import WhatsGoingOn.Library.Chunks
import WhatsGoingOn.Library.Outcome

/-!
# Reading files

The daemon reads the range of a file that a request asks for, and sends it in
chunks, each of which says where in the file it belongs.
-/

namespace WhatsGoingOn
namespace Files

open Daemon (Value CodecError Panic ReqResMessage ServiceError encodeU53
  maxU53)

/-! ## The program -/

/-- `ReadFileReq`, without its path. -/
structure ReadFileReq where
  offset : Option UInt64
  length : Option UInt64
  deriving DecidableEq, Repr

/-- `File::read_to_end`. -/
def OpenFile.readToEnd (file : OpenFile) : List UInt8 :=
  file.content.drop file.position

section Read

variable (refused : ServiceError)

/-- `read_file`, for what stands at the path. -/
def readFile (request : ReadFileReq) :
    Node → Except ServiceError (List UInt8)
  | .absent => .error .notFound
  | .directory => .error .notFile
  | .other => .error .notFile
  | .file content => do
      let file ← (OpenFile.mk content 0).seek refused (request.offset.getD 0)
      match request.length with
      | some length => pure (file.readToEnd.take length.toNat)
      | none => pure file.readToEnd

end Read

/-- A piece of the file and the place in the file it was read from. -/
structure ReadFileChunk where
  offset : UInt64
  bytes : List UInt8
  deriving DecidableEq, Repr

namespace ReadFileChunk

/-- The offset under 1 and the bytes under 2, the offset checked. -/
def encodeValue (chunk : ReadFileChunk) : Except CodecError Value := do
  let offset ← encodeU53 chunk.offset
  pure (.map (SortedMap.insert 2 (.bytes chunk.bytes)
    (SortedMap.insert 1 offset [])))

/-- The bytes of the chunk; an offset beyond a u53 panics. -/
def encode (chunk : ReadFileChunk) : Except Panic (List UInt8) :=
  match chunk.encodeValue with
  | .ok value => .ok value.encode
  | .error _ => .error (.expect "generated ReadFileChunk model failed to encode")

end ReadFileChunk

/-- `READ_FILE_CHUNK_SIZE`. -/
def readFileChunkSize : Nat := 64 * 1024

/-- The first message of a read, with the metadata of the file. -/
def streamStartPayloadMessage (payload : List UInt8) : ReqResMessage :=
  .responseStreamStart (some payload)

/-- A message that carries one chunk. -/
def streamChunkPayloadMessage (payload : List UInt8) : ReqResMessage :=
  .responseStreamChunk payload

/-- The message that ends a read with an error of the service. -/
def streamServiceErrorMessage (procId : UInt64) (failure : ServiceError) :
    ReqResMessage :=
  Host.streamErrorMessage procId (Host.serviceErrorCode failure)
    failure.text

/-- The loop of `stream_read_file`, from the index of a chunk on. -/
def streamChunks (startOffset : UInt64) :
    Nat → List (List UInt8) → Except Panic (List ReqResMessage)
  | _, [] => .ok []
  | index, bytes :: chunks => do
      let offset := startOffset + UInt64.ofNat (index * readFileChunkSize)
      let chunk ← ReadFileChunk.encode ⟨offset, bytes⟩
      let message :=
        if index = 0 then streamStartPayloadMessage chunk
        else streamChunkPayloadMessage chunk
      let others ← streamChunks startOffset (index + 1) chunks
      pure (message :: others)

/-- `stream_read_file`: the messages that are written on the stream. -/
def streamReadFile (refused : ServiceError) (procId : UInt64)
    (request : ReadFileReq) (node : Node) :
    Except Panic (List ReqResMessage) :=
  let startOffset := request.offset.getD 0
  match readFile refused request node with
  | .error failure => .ok [streamServiceErrorMessage procId failure]
  | .ok bytes =>
      streamChunks startOffset 0 (Chunks.chunks readFileChunkSize bytes)

/-! ## What is sent -/

/-- The range of a content that a request asks for. -/
def ReadFileReq.range (request : ReadFileReq) (content : List UInt8) :
    List UInt8 :=
  let start := (request.offset.getD 0).toNat
  let ending :=
    (request.length.elim content.length fun length =>
      min (start + length.toNat) content.length)
  (content.take ending).drop start

/-- Reading a file gives the range that was asked for. -/
theorem readFile_file (refused : ServiceError) {request : ReadFileReq}
    (reachable : (request.offset.getD 0).toNat < seekLimit)
    (content : List UInt8) :
    readFile refused request (.file content) =
      .ok (request.range content) := by
  unfold readFile ReadFileReq.range
  dsimp only
  rw [OpenFile.seek_eq refused _ reachable]
  cases request.length with
  | none => simp [OpenFile.readToEnd, pure, Except.pure, bind, Except.bind]
  | some length =>
      simp only [OpenFile.readToEnd, Option.elim, pure, Except.pure, bind,
        Except.bind]
      rw [List.drop_take]
      refine congrArg Except.ok (List.take_eq_take_iff.mpr ?_)
      rw [List.length_drop]
      omega

/-- Chunks lie one after the other. -/
def Contiguous : Nat → List ReadFileChunk → Prop
  | _, [] => True
  | start, chunk :: chunks =>
      chunk.offset.toNat = start ∧
        Contiguous (start + chunk.bytes.length) chunks

/-- The messages of a response that payloads make, of which the first starts
the response. -/
def responses : List (List UInt8) → List ReqResMessage
  | [] => []
  | payload :: payloads =>
      streamStartPayloadMessage payload ::
        payloads.map streamChunkPayloadMessage

/-- Chunks of a range from an offset on, and the payloads that they are
encoded as. -/
structure Sends (start : Nat) (range : List UInt8)
    (chunks : List ReadFileChunk) (payloads : List (List UInt8)) : Prop where
  contiguous : Contiguous start chunks
  sizes : ∀ chunk ∈ chunks,
    chunk.bytes ≠ [] ∧ chunk.bytes.length ≤ readFileChunkSize
  whole : (chunks.map (·.bytes)).flatten = range
  encoded : List.Forall₂ (fun chunk payload => chunk.encode = .ok payload)
    chunks payloads

theorem ReadFileChunk.encode_eq {chunk : ReadFileChunk}
    (within : chunk.offset.toNat ≤ maxU53) :
    chunk.encode =
      .ok (Value.map [(1, .u64 chunk.offset), (2, .bytes chunk.bytes)]).encode := by
  have number : encodeU53 chunk.offset = .ok (.u64 chunk.offset) :=
    if_neg (Nat.not_lt.mpr within)
  unfold encode encodeValue
  rw [number]
  rfl

/-- The encoder panics where the offset is out of range. -/
theorem ReadFileChunk.within_of_encode {chunk : ReadFileChunk}
    {payload : List UInt8} (encoded : chunk.encode = .ok payload) :
    chunk.offset.toNat ≤ maxU53 := by
  by_contra large
  have number : encodeU53 chunk.offset = .error (.integerOutOfRange "u53") :=
    if_pos (Nat.not_le.mp large)
  unfold encode encodeValue at encoded
  rw [number] at encoded
  cases encoded

/-- A chunk that is sent before those of the rest of a range. -/
theorem Sends.cons {chunk : ReadFileChunk} {start : Nat} {range : List UInt8}
    {chunks : List ReadFileChunk} {payloads : List (List UInt8)}
    (sends : Sends (start + chunk.bytes.length) range chunks payloads)
    (placed : chunk.offset.toNat = start) (within : start ≤ maxU53)
    (some : chunk.bytes ≠ []) (small : chunk.bytes.length ≤ readFileChunkSize) :
    ∃ payload, chunk.encode = .ok payload ∧
      Sends start (chunk.bytes ++ range) (chunk :: chunks)
        (payload :: payloads) := by
  have encoded := ReadFileChunk.encode_eq (placed.trans_le within)
  refine ⟨_, encoded, ⟨placed, sends.contiguous⟩, ?_, ?_, ?_⟩
  · exact List.forall_mem_cons.mpr ⟨⟨some, small⟩, sends.sizes⟩
  · rw [List.map_cons, List.flatten_cons, sends.whole]
  · exact .cons encoded sends.encoded

theorem Sends.nil (start : Nat) : Sends start [] [] [] :=
  ⟨trivial, List.forall_mem_nil _, rfl, .nil⟩

/-- No chunk is sent of an empty range. -/
theorem Sends.eq_nil {start : Nat} {chunks : List ReadFileChunk}
    {payloads : List (List UInt8)} (sends : Sends start [] chunks payloads) :
    chunks = [] ∧ payloads = [] := by
  have encoded := sends.encoded
  cases chunks with
  | nil => exact ⟨rfl, List.forall₂_nil_left_iff.mp encoded⟩
  | cons chunk chunks =>
      have whole := sends.whole
      rw [List.map_cons, List.flatten_cons, List.append_eq_nil_iff] at whole
      exact absurd whole.1 (sends.sizes chunk (.head _)).1

theorem Sends.small {start : Nat} {range : List UInt8}
    {chunks : List ReadFileChunk} {payloads : List (List UInt8)}
    (sends : Sends start range chunks payloads) :
    List.Forall₂ (fun chunk payload =>
      chunk.bytes.length ≤ readFileChunkSize ∧ chunk.encode = .ok payload)
      chunks payloads :=
  (List.forall₂_and_left _ _).mpr
    ⟨fun chunk member => (sends.sizes chunk member).2, sends.encoded⟩

/-- The loop sends what is left of the range from an index on. -/
theorem streamChunks_ok (startOffset : UInt64) {range : List UInt8}
    (index : Nat)
    (within : range ≠ [] →
      startOffset.toNat + index * readFileChunkSize + range.length ≤ maxU53) :
    ∃ chunks payloads,
      Sends (startOffset.toNat + index * readFileChunkSize) range chunks
          payloads ∧
        streamChunks startOffset index (Chunks.chunks readFileChunkSize range) =
          .ok (if index = 0 then responses payloads
            else payloads.map streamChunkPayloadMessage) := by
  have positive : 0 < readFileChunkSize := by decide
  induction range using Chunks.chunks_induction positive generalizing index with
  | nil =>
      refine ⟨[], [], .nil _, ?_⟩
      rw [Chunks.chunks_nil positive]
      cases index <;> rfl
  | step range some inductionHypothesis =>
      have within := within some
      have wide : maxU53 < 2 ^ 64 := by decide
      have length := List.length_drop (i := readFileChunkSize) (l := range)
      obtain ⟨chunks, payloads, sends, sent⟩ :=
        inductionHypothesis (index + 1) fun more => by
          have := List.length_pos_iff.mpr more
          rw [Nat.succ_mul]
          omega
      let chunk : ReadFileChunk :=
        ⟨startOffset + UInt64.ofNat (index * readFileChunkSize),
          range.take readFileChunkSize⟩
      have number : (UInt64.ofNat (index * readFileChunkSize)).toNat =
          index * readFileChunkSize :=
        UInt64.toNat_ofNat_of_lt' (show _ < 2 ^ 64 by omega)
      have placed : chunk.offset.toNat =
          startOffset.toNat + index * readFileChunkSize := by
        rw [UInt64.toNat_add, number]
        exact Nat.mod_eq_of_lt (by omega)
      have following : Sends (startOffset.toNat + index * readFileChunkSize +
          chunk.bytes.length) (range.drop readFileChunkSize) chunks
            payloads := by
        -- A chunk that others follow is not short.
        by_cases last : range.drop readFileChunkSize = []
        · rw [last] at sends ⊢
          obtain ⟨rfl, rfl⟩ := sends.eq_nil
          exact .nil _
        · have more := List.length_pos_iff.mpr last
          have full : chunk.bytes.length = readFileChunkSize :=
            List.length_take_of_le (by omega)
          rw [full, Nat.add_assoc, ← Nat.succ_mul]
          exact sends
      obtain ⟨payload, encoded, sends⟩ := following.cons placed (by omega)
        (fun none => some ((List.take_eq_nil_iff.mp none).resolve_left
          positive.ne'))
        (List.length_take_le readFileChunkSize range)
      rw [List.take_append_drop] at sends
      refine ⟨_, _, sends, ?_⟩
      rw [Chunks.chunks_eq_cons positive some, streamChunks]
      refine Outcome.bind_eq_ok.mpr ⟨payload, encoded,
        Outcome.bind_eq_ok.mpr ⟨_, sent, ?_⟩⟩
      cases index <;> rfl

theorem length_range_le (request : ReadFileReq) (content : List UInt8) :
    (request.range content).length ≤ content.length := by
  simp only [ReadFileReq.range, List.length_drop, List.length_take]
  omega

/-- A range that is not empty ends before the content does. -/
theorem range_within {request : ReadFileReq} {content : List UInt8}
    (some : request.range content ≠ []) :
    (request.offset.getD 0).toNat + (request.range content).length ≤
      content.length := by
  have nonempty := List.length_pos_iff.mpr some
  simp only [ReadFileReq.range, List.length_drop, List.length_take]
    at nonempty ⊢
  omega

/-- The range that is asked for of a file is sent. -/
theorem streamReadFile_file (refused : ServiceError) (procId : UInt64)
    {request : ReadFileReq}
    (reachable : (request.offset.getD 0).toNat < seekLimit)
    {content : List UInt8} (within : content.length ≤ maxU53) :
    ∃ chunks payloads,
      Sends (request.offset.getD 0).toNat (request.range content) chunks
          payloads ∧
        streamReadFile refused procId request (.file content) =
          .ok (responses payloads) := by
  have wholeWithin : request.range content ≠ [] →
      (request.offset.getD 0).toNat + 0 * readFileChunkSize +
        (request.range content).length ≤ maxU53 := by
    intro some
    rw [Nat.zero_mul]
    exact (range_within some).trans within
  obtain ⟨chunks, payloads, sends, sent⟩ := streamChunks_ok _ 0 wholeWithin
  rw [Nat.zero_mul, Nat.add_zero] at sends
  refine ⟨chunks, payloads, sends, ?_⟩
  unfold streamReadFile
  rw [readFile_file refused reachable]
  exact sent

end Files
end WhatsGoingOn
