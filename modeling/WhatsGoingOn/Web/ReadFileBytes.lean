import WhatsGoingOn.Files.ReadFile
import WhatsGoingOn.Web.WireAgreement

/-!
# Files at the web client

The client collects the chunks of a file that the daemon streams, and puts each
where its offset says.
-/

namespace WhatsGoingOn
namespace Web

open Daemon (Value)
open Codegen.TypeScript (DecodeError integer textValue bytesValue)
open Daemon.ReqResMessage (SmallFields)
open Files (readFileChunkSize)

/-! ## The program -/

/-- A piece of the file and the place in the file it was read from. -/
structure ReadFileChunk where
  offset : Int
  bytes : List UInt8
  deriving DecidableEq, Repr

/-- An offset that is left out is zero, and bytes that are left out are none. -/
def decodeReadFileChunkValue (value : CborValue) :
    Except DecodeError ReadFileChunk := do
  let fields ← expectMap value
  let offset ← fieldOrDefault (fields.lookup 1) integer 0
  let bytes ← fieldOrDefault (fields.lookup 2) bytesValue []
  pure ⟨offset, bytes⟩

/-- Why a file could not be read. -/
inductive ReadFileErrorType where
  | failed
  | permissionDenied
  | notFound
  | notFile
  | invalidPath
  deriving DecidableEq, Repr

/-- Every variant of the union has a message. -/
structure ReadFileError where
  type : ReadFileErrorType
  message : String
  deriving DecidableEq, Repr

/-- The discriminator of a variant. -/
def ReadFileErrorType.text : ReadFileErrorType → String
  | .failed => "failed"
  | .permissionDenied => "permissionDenied"
  | .notFound => "notFound"
  | .notFile => "notFile"
  | .invalidPath => "invalidPath"

/-- The error of a union; a message that is left out is empty. -/
def decodeReadFileErrorValue (value : CborValue) :
    Except DecodeError ReadFileError := do
  let (variantId, fields) ← expectUnion value
  let type ←
    match variantId with
    | 0 => pure .failed
    | 1 => pure .permissionDenied
    | 2 => pure .notFound
    | 3 => pure .notFile
    | 4 => pure .invalidPath
    | id => throw (.unknownVariant "ReadFileError" id)
  let message ← fieldOrDefault (fields.lookup 1) textValue ""
  pure ⟨type, message⟩

/-- What the client's loop uses of `ReadFile`. -/
def readFileProc : ProcCodec DecodeError ReadFileError ReadFileChunk where
  decodeResponse := decodeReadFileChunkValue
  decodeError := decodeReadFileErrorValue
  errorCode := fun error => error.type.text
  errorMessage := fun error => error.message

/-- What `readFileBytes` throws. -/
inductive ReadFileFailure where
  | stream (failure : StreamFailure DecodeError)
  /-- "Invalid typed array length" -/
  | invalidLength
  /-- "offset is out of bounds" -/
  | offsetOutOfBounds
  deriving DecidableEq, Repr

/-- `Uint8Array.prototype.set`. -/
def setBytes (out bytes : List UInt8) (offset : Int) :
    Except ReadFileFailure (List UInt8) :=
  if offset < 0 ∨ (out.length : Int) < offset + bytes.length then
    .error .offsetOutOfBounds
  else .ok (Patches.writeAt 0 out offset.toNat bytes)

/-- Set the bytes of chunks one after the other. -/
def setChunks (baseOffset : Int) (out : List UInt8) :
    List ReadFileChunk → Except ReadFileFailure (List UInt8)
  | [] => .ok out
  | chunk :: chunks => do
      let out ← setBytes out chunk.bytes (toNumber (chunk.offset - baseOffset))
      setChunks baseOffset out chunks

/-- Where a chunk ends, from a base on. -/
def endOf (baseOffset : Int) (chunk : ReadFileChunk) : Int :=
  toNumber (toNumber (chunk.offset - baseOffset) + chunk.bytes.length)

/-- Each chunk is laid where its offset says, from the first one on. -/
def assembleReadFileChunks (chunks : List ReadFileChunk)
    (fallbackOffset : Int) : Except ReadFileFailure (List UInt8) :=
  if chunks.length = 0 then .ok []
  else
    let baseOffset := (chunks.head?.map (·.offset)).getD fallbackOffset
    let total :=
      chunks.foldl (fun most chunk => max most (endOf baseOffset chunk)) 0
    if maxSafeInteger < total then .error .invalidLength
    else setChunks baseOffset (List.replicate total.toNat 0) chunks

/-- `readFileBytes`, over the chunks that the transport brings. -/
def readFileBytes (offset : Option Int) (transported : List (List UInt8)) :
    Except ReadFileFailure (List UInt8) :=
  let seen := streamServerEvents readFileProc [] transported
  match seen.failure with
  | some failure => .error (.stream failure)
  | none => assembleReadFileChunks seen.events (offset.getD 0)

/-! ## Chunks that lie one after the other -/

/-- The chunk of the client for a chunk of the daemon. -/
def receiveChunk (chunk : Files.ReadFileChunk) : ReadFileChunk :=
  ⟨chunk.offset.toNat, chunk.bytes⟩

theorem toNumber_natCast {value : Nat} (small : value ≤ maxSafeInteger) :
    toNumber value = value :=
  toNumber_of_safe (isSafeInteger_natCast.mpr small)

/-- How far a chunk is from a base. -/
theorem toNumber_distance {base position : Nat} {chunk : Files.ReadFileChunk}
    (placed : chunk.offset.toNat = base + position)
    (small : position ≤ maxSafeInteger) :
    toNumber ((receiveChunk chunk).offset - base) = position := by
  have distance : (receiveChunk chunk).offset - (base : Int) = position := by
    change (chunk.offset.toNat : Int) - base = position
    omega
  rw [distance, toNumber_natCast small]

theorem endOf_eq {base position : Nat} {chunk : Files.ReadFileChunk}
    (placed : chunk.offset.toNat = base + position)
    (small : position + chunk.bytes.length ≤ maxSafeInteger) :
    endOf base (receiveChunk chunk) =
      (position + chunk.bytes.length : Nat) := by
  unfold endOf
  rw [toNumber_distance placed (by omega)]
  exact toNumber_natCast small

/-- The last of contiguous chunks ends after all their bytes. -/
theorem foldl_endOf (position : Nat) {base : Nat}
    {chunks : List Files.ReadFileChunk}
    (contiguous : Files.Contiguous (base + position) chunks)
    (small : position + (chunks.map (·.bytes)).flatten.length ≤
      maxSafeInteger) :
    (chunks.map receiveChunk).foldl
        (fun most chunk => max most (endOf base chunk)) (position : Int) =
      (position + (chunks.map (·.bytes)).flatten.length : Nat) := by
  induction chunks generalizing position with
  | nil => simp
  | cons chunk chunks inductionHypothesis =>
      obtain ⟨placed, contiguous⟩ := contiguous
      simp only [List.map_cons, List.flatten_cons, List.length_append,
        List.foldl_cons] at small ⊢
      rw [Nat.add_assoc] at contiguous
      rw [endOf_eq placed (by omega), max_eq_right (by omega),
        inductionHypothesis _ contiguous (by omega), Nat.add_assoc]

/-- Contiguous chunks fill what is left of an array. -/
theorem setChunks_ok {base : Nat} (done left : List UInt8)
    {chunks : List Files.ReadFileChunk}
    (contiguous : Files.Contiguous (base + done.length) chunks)
    (small : (done ++ left).length ≤ maxSafeInteger)
    (fits : (chunks.map (·.bytes)).flatten.length = left.length) :
    setChunks base (done ++ left) (chunks.map receiveChunk) =
      .ok (done ++ (chunks.map (·.bytes)).flatten) := by
  induction chunks generalizing done left with
  | nil =>
      rw [List.eq_nil_of_length_eq_zero fits.symm]
      rfl
  | cons chunk chunks inductionHypothesis =>
      obtain ⟨placed, contiguous⟩ := contiguous
      simp only [List.map_cons, List.flatten_cons, List.length_append]
        at small fits ⊢
      have distance := toNumber_distance placed (by omega)
      have set : setBytes (done ++ left) (receiveChunk chunk).bytes
          (toNumber ((receiveChunk chunk).offset - base)) =
            .ok (done ++ chunk.bytes ++ left.drop chunk.bytes.length) := by
        rw [distance, setBytes, if_neg]
        · rw [Int.toNat_natCast, Patches.writeAt_append]
          rfl
        · simp only [List.length_append, receiveChunk]
          omega
      rw [setChunks, set]
      rw [Nat.add_assoc, ← List.length_append] at contiguous
      refine (inductionHypothesis _ _ contiguous ?_ ?_).trans ?_
      · simp only [List.length_append, List.length_drop]
        omega
      · rw [List.length_drop]
        omega
      · rw [List.append_assoc]

/-- Contiguous chunks are put together to the range that they make up. -/
theorem assembleReadFileChunks_ok {start : Nat} {range : List UInt8}
    {chunks : List Files.ReadFileChunk} {payloads : List (List UInt8)}
    (sends : Files.Sends start range chunks payloads)
    (small : range.length ≤ maxSafeInteger) (fallbackOffset : Int) :
    assembleReadFileChunks (chunks.map receiveChunk) fallbackOffset =
      .ok range := by
  have whole := sends.whole
  have contiguous := sends.contiguous
  cases chunks with
  | nil =>
      rw [← whole]
      rfl
  | cons chunk chunks =>
      have base : (((chunk :: chunks).map receiveChunk).head?.map
          (·.offset)).getD fallbackOffset = start :=
        congrArg Nat.cast contiguous.1
      have total := foldl_endOf 0 contiguous (by rwa [whole, Nat.zero_add])
      have filled := setChunks_ok [] (List.replicate range.length 0)
        contiguous (by simpa using small)
        (by rw [whole, List.length_replicate])
      rw [whole, Nat.zero_add] at total
      rw [whole] at filled
      have fits : ¬ (maxSafeInteger : Int) < range.length := by omega
      unfold assembleReadFileChunks
      rw [if_neg (by simp)]
      simp only [base, Nat.cast_zero] at total ⊢
      rw [total, if_neg fits, Int.toNat_natCast]
      exact filled

/-! ## The payloads of chunks -/

theorem length_encodeTypeValue_le (major : UInt8) (value : UInt64) :
    (Daemon.encodeTypeValue major value).length ≤ 9 := by
  unfold Daemon.encodeTypeValue
  dsimp only
  split_ifs <;> simp

/-- The client decodes the payload of a chunk. -/
theorem decodePayload_chunk {chunk : Files.ReadFileChunk}
    {payload : List UInt8} (encoded : chunk.encode = .ok payload)
    (small : chunk.bytes.length ≤ readFileChunkSize) :
    payload.length ≤ maxSafeInteger ∧
      ∃ value, decodeCbor payload = .ok value ∧
        decodeReadFileChunkValue value = .ok (receiveChunk chunk) := by
  have within := Files.ReadFileChunk.within_of_encode encoded
  rw [Files.ReadFileChunk.encode_eq within] at encoded
  cases encoded
  have size : readFileChunkSize ≤ 2 ^ 20 := by decide
  have most : 2 ^ 21 ≤ maxSafeInteger := by decide
  have fields : SmallFields maxSafeInteger
      [(1, .u64 chunk.offset), (2, .bytes chunk.bytes)] :=
    .two (by decide) (by decide) within (show _ ≤ _ by omega)
  have unmarked : ∀ entry ∈
      [((1 : UInt64), Value.u64 chunk.offset), (2, .bytes chunk.bytes)],
      Unmarked entry.2 := by
    simp [Unmarked]
  refine ⟨?_, _, decodeCbor_fields fields unmarked, ?_⟩
  · change (Daemon.encodeTypeValue 5 2 ++ (Daemon.encodeTypeValue 0 1 ++
      Daemon.encodeTypeValue 0 chunk.offset ++ (Daemon.encodeTypeValue 0 2 ++
        (Daemon.encodeTypeValue 2 _ ++ chunk.bytes) ++ []))).length ≤ _
    have heads := length_encodeTypeValue_le
    have head := heads 5 2
    have key := heads 0 1
    have offset := heads 0 chunk.offset
    have otherKey := heads 0 2
    have length := heads 2 (UInt64.ofNat chunk.bytes.length)
    simp only [List.length_append, List.length_nil]
    omega
  · change (do
      let offset ← integer (.number (.integer chunk.offset.toNat))
      pure (⟨offset, chunk.bytes⟩ : ReadFileChunk)) = _
    rw [integer, if_pos (isSafeInteger_natCast.mpr within)]
    rfl

/-! ## A whole file -/

/-- Messages that all bring about events. -/
theorem yieldEach_events {δ ε α : Type} {proc : ProcCodec δ ε α}
    {next : ServerEvents δ α} {messages : List ReqResMessage} {events : List α}
    (each : List.Forall₂ (fun message event => eventOf proc message = .ok event)
      messages events) :
    yieldEach proc next messages = next.after events := by
  induction each with
  | nil => rfl
  | cons first _ inductionHypothesis =>
      rw [yieldEach, first, inductionHypothesis]
      rfl

/-- A message with a payload is the event that the payload holds. -/
theorem eventOf_payload {δ ε α : Type} {proc : ProcCodec δ ε α}
    {message : ReqResMessage} {payload : List UInt8} {value : CborValue}
    {event : α}
    (kind : message.kind = .responseStreamStart ∨
      message.kind = .responseStreamChunk)
    (carried : message.payload = some payload)
    (decoded : decodeCbor payload = .ok value)
    (seen : proc.decodeResponse value = .ok event) :
    eventOf proc message = .ok event := by
  have noError : message.kind ≠ .responseStreamErrorEnd := by
    rcases kind with same | same <;> rw [same] <;> decide
  unfold eventOf
  rw [if_neg noError, if_neg (by tauto), carried]
  refine Outcome.bind_eq_ok.mpr ⟨value, ?_, ?_⟩
  · rw [decodePayload, decoded]
  · rw [seen]
    rfl

/-- The messages of chunks bring about the chunks. -/
theorem events_of_sends {start : Nat} {range : List UInt8}
    {chunks : List Files.ReadFileChunk} {payloads : List (List UInt8)}
    (sends : Files.Sends start range chunks payloads) :
    List.Forall₂
      (fun message event => eventOf readFileProc message = .ok event)
      ((Files.responses payloads).map receive) (chunks.map receiveChunk) := by
  cases sends.small with
  | nil => exact .nil
  | cons first others =>
      obtain ⟨_, decoded, seen⟩ := (decodePayload_chunk first.2 first.1).2
      refine .cons (eventOf_payload (.inl rfl) rfl decoded seen) ?_
      rw [List.map_map, List.forall₂_map_left_iff, List.forall₂_map_right_iff]
      refine others.flip.imp fun payload chunk facts => ?_
      obtain ⟨_, decoded, seen⟩ := (decodePayload_chunk facts.2 facts.1).2
      exact eventOf_payload (.inr rfl) rfl decoded seen

/-- The messages of chunks fit into the limits of JavaScript. -/
theorem within_of_sends {start : Nat} {range : List UInt8}
    {chunks : List Files.ReadFileChunk} {payloads : List (List UInt8)}
    (sends : Files.Sends start range chunks payloads) :
    ∀ message ∈ Files.responses payloads,
      message.Within maxSafeInteger ∧ HasNoMark message := by
  have small : ∀ payload ∈ payloads, payload.length ≤ maxSafeInteger := by
    have each := sends.small
    clear sends
    induction each with
    | nil => exact List.forall_mem_nil _
    | cons first _ inductionHypothesis =>
        exact List.forall_mem_cons.mpr
          ⟨(decodePayload_chunk first.2 first.1).1, inductionHypothesis⟩
  cases payloads with
  | nil => exact List.forall_mem_nil _
  | cons payload payloads =>
      rw [List.forall_mem_cons] at small
      refine List.forall_mem_cons.mpr ⟨⟨?_, trivial⟩, ?_⟩
      · rintro _ ⟨⟩
        exact small.1
      · intro message member
        obtain ⟨other, known, rfl⟩ := List.mem_map.mp member
        exact ⟨small.2 other known, trivial⟩

/-- The range that is asked for is sent in chunks that lie one after the other,
and the client puts it together, however the transport splits what is sent. -/
theorem read_file_bytes_read_back (refused : Daemon.ServiceError)
    (procId : UInt64) (request : Files.ReadFileReq)
    (reachable : (request.offset.getD 0).toNat < Files.seekLimit)
    (content : List UInt8) (within : content.length ≤ Daemon.maxU53) :
    ∃ chunks payloads bytes,
      Files.Sends (request.offset.getD 0).toNat (request.range content) chunks
          payloads ∧
        Files.streamReadFile refused procId request (.file content) =
          .ok (Files.responses payloads) ∧
        (request.range content = [] → Files.responses payloads = []) ∧
        Daemon.ReqResMessage.encodeSequence (Files.responses payloads) =
          .ok bytes ∧
        ∀ transported : List (List UInt8), transported.flatten = bytes →
          readFileBytes (request.offset.map fun offset => (offset.toNat : Int))
            transported = .ok (request.range content) := by
  obtain ⟨chunks, payloads, sends, sent⟩ :=
    Files.streamReadFile_file refused procId reachable within
  have size : (request.range content).length ≤ maxSafeInteger :=
    (Files.length_range_le request content).trans within
  have limits := within_of_sends sends
  obtain ⟨bytes, encoded, streamed⟩ := stream_of_encodeSequence readFileProc
    (fun message member => (limits message member).1)
    (fun message member => (limits message member).2)
  refine ⟨chunks, payloads, bytes, sends, sent, ?_, encoded, ?_⟩
  · intro nothing
    rw [nothing] at sends
    rw [sends.eq_nil.2]
    rfl
  · intro transported split
    unfold readFileBytes
    rw [streamed transported split, yieldEach_events (events_of_sends sends)]
    change assembleReadFileChunks (chunks.map receiveChunk ++ []) _ = _
    rw [List.append_nil]
    exact assembleReadFileChunks_ok sends size _

/-- Two bytes from the middle of a file. -/
theorem read_file_bytes_read_back_middle :
    ∃ chunks payloads bytes,
      Files.Sends 1 [8, 9] chunks payloads ∧
        Files.streamReadFile .invalidPath 7 ⟨some 1, some 2⟩
          (.file [7, 8, 9, 10]) =
          .ok (Files.responses payloads) ∧
        Daemon.ReqResMessage.encodeSequence (Files.responses payloads) =
          .ok bytes ∧
        ∀ transported : List (List UInt8), transported.flatten = bytes →
          readFileBytes (some 1) transported = .ok [8, 9] := by
  obtain ⟨chunks, payloads, bytes, sends, sent, -, encoded, readBack⟩ :=
    read_file_bytes_read_back .invalidPath 7 ⟨some 1, some 2⟩ (by decide)
      [7, 8, 9, 10] (by decide)
  exact ⟨chunks, payloads, bytes, sends, sent, encoded, readBack⟩

end Web
end WhatsGoingOn
