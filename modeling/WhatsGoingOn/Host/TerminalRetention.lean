import WhatsGoingOn.Host.TerminalOutput
import WhatsGoingOn.Library.Retention

/-!
# The retained output of a terminal session

A session counts the bytes of the chunks that it retains beside them, and drops
its oldest chunks when it has counted too many.  The counter, the chunks and
their numbers stay in step whatever the sizes of the chunks are.
-/

namespace WhatsGoingOn
namespace Host

open Retention (LongestSuffix)

/-- A call that takes the lock of an open session and leaves it open. -/
inductive SessionCall where
  | recordOutput (bytes : List UInt8) (nowMs : Nat)
  | attach (request : AttachTerminalSessionReq) (attachId : String)
      (rpcSessionId nowMs : Nat)
  | detach (attachId : String) (nowMs : Nat)
  | takeControl (request : TakeTerminalControlReq) (rpcSessionId : Nat)
      (resizeError : Option String)
  | writeInput (attachId : String) (bytes : List UInt8) (rpcSessionId : Nat)
      (result : PtyWrite)
  | markExited (status : Option (Nat × Option String)) (nowMs : Nat)

/-- The chunk that a call records. -/
def SessionCall.chunk : SessionCall → Option (List UInt8)
  | .recordOutput bytes _ => if bytes.isEmpty then none else some bytes
  | _ => none

/-- The chunks that some calls record. -/
def recordedChunks (calls : List SessionCall) : List (List UInt8) :=
  calls.filterMap SessionCall.chunk

/-- Some chunks with their sequence numbers. -/
def numbered (chunks : List (List UInt8)) : List OutputRecord :=
  chunks.mapIdx fun index bytes => ⟨index + 1, bytes⟩

theorem numbered_concat (chunks : List (List UInt8)) (bytes : List UInt8) :
    numbered (chunks ++ [bytes]) =
      numbered chunks ++ [⟨chunks.length + 1, bytes⟩] :=
  List.mapIdx_concat

theorem numbered_seq (chunks : List (List UInt8)) :
    (numbered chunks).map OutputRecord.seq = List.range' 1 chunks.length := by
  induction chunks using List.reverseRecOn with
  | nil => rfl
  | append_singleton chunks bytes inductionHypothesis =>
      rw [numbered_concat, List.map_append, inductionHypothesis,
        List.length_append, List.length_singleton, List.range'_1_concat,
        Nat.add_comm 1]
      rfl

/-- The numbers of a suffix end with the last one. -/
theorem contiguous_of_suffix {chunks : List (List UInt8)}
    {records : List OutputRecord} (suffix : records <:+ numbered chunks) :
    ∃ first, first + records.length = chunks.length + 1 ∧
      records.map OutputRecord.seq = List.range' first records.length := by
  obtain ⟨dropped, shape⟩ := suffix
  have seqs := numbered_seq chunks
  have lengths := congrArg List.length seqs
  rw [← shape, List.map_append] at seqs
  rw [← shape] at lengths
  simp only [List.length_map, List.length_append, List.length_range'] at lengths
  rw [← lengths, List.range'_append_1 |>.symm] at seqs
  have parts := List.append_inj seqs (by simp)
  exact ⟨1 + dropped.length, by omega, parts.2⟩

namespace TerminalSession

/-- The session after a call. -/
def apply (windows : Bool) (session : TerminalSession) :
    SessionCall → TerminalSession
  | .recordOutput bytes nowMs =>
      ((session.recordOutput windows bytes nowMs).map Prod.fst).getD session
  | .attach request attachId rpcSessionId nowMs =>
      match session.attach request attachId rpcSessionId nowMs with
      | .error _ => session
      | .ok (attached, _) => attached
  | .detach attachId nowMs => session.detach attachId nowMs
  | .takeControl request rpcSessionId resizeError =>
      (session.takeControl request rpcSessionId resizeError).1
  | .writeInput attachId bytes rpcSessionId result =>
      (session.writeInput attachId bytes rpcSessionId result).1
  | .markExited status nowMs =>
      (session.markExited status nowMs).getD session

/-- The eviction of a session, which fails where a subtraction would
saturate. -/
def evictChecked : List OutputRecord → Nat → Option (List OutputRecord × Nat)
  | [], retained => some ([], retained)
  | record :: records, retained =>
      if terminalOutputRetentionBytes < retained then
        if retained < record.bytes.length then none
        else evictChecked records (retained - record.bytes.length)
      else some (record :: records, retained)

/-- Eviction keeps the longest suffix that fits, and never subtracts more than
it has counted. -/
theorem evict_longest (records : List OutputRecord) :
    evictChecked records (OutputRecord.total records) =
        some (evict records (OutputRecord.total records)) ∧
      LongestSuffix (fun record : OutputRecord => record.bytes.length)
        terminalOutputRetentionBytes records
        (evict records (OutputRecord.total records)).1 := by
  induction records with
  | nil => exact ⟨rfl, .of_fits (Nat.zero_le _)⟩
  | cons record records inductionHypothesis =>
      have total : OutputRecord.total (record :: records) =
          record.bytes.length + OutputRecord.total records := rfl
      have rest : OutputRecord.total (record :: records) -
          record.bytes.length = OutputRecord.total records := by omega
      have counted : ¬ OutputRecord.total (record :: records) <
          record.bytes.length := by omega
      rw [evictChecked, evict, if_neg counted]
      split
      · rename_i heavy
        rw [rest]
        exact ⟨inductionHypothesis.1, inductionHypothesis.2.cons heavy⟩
      · rename_i fits
        exact ⟨rfl, .of_fits (Nat.not_lt.mp fits)⟩

end TerminalSession

/-- What an open session retains of the chunks that it has recorded. -/
structure RetainedOutput (session : TerminalSession)
    (chunks : List (List UInt8)) : Prop where
  isOpen : session.closed = false
  latest : session.info.latestOutputSeq = chunks.length
  counted : session.retainedOutputBytes =
    OutputRecord.total session.outputBuffer
  contiguous : ∃ first,
    first + session.outputBuffer.length = session.info.latestOutputSeq + 1 ∧
      session.outputBuffer.map OutputRecord.seq =
        List.range' first session.outputBuffer.length
  longest : LongestSuffix (fun record : OutputRecord => record.bytes.length)
    terminalOutputRetentionBytes (numbered chunks) session.outputBuffer
  exact : ∀ bytes,
    let records :=
      session.outputBuffer ++ [⟨session.info.latestOutputSeq + 1, bytes⟩]
    let retained := session.retainedOutputBytes + bytes.length
    TerminalSession.evictChecked records retained =
      some (TerminalSession.evict records retained)

namespace RetainedOutput

variable {windows : Bool} {session changed : TerminalSession}
  {chunks : List (List UInt8)}

/-- The counter and the longest suffix say it all. -/
theorem of_longest
    (isOpen : session.closed = false)
    (latest : session.info.latestOutputSeq = chunks.length)
    (counted : session.retainedOutputBytes =
      OutputRecord.total session.outputBuffer)
    (longest : LongestSuffix
      (fun record : OutputRecord => record.bytes.length)
      terminalOutputRetentionBytes (numbered chunks) session.outputBuffer) :
    RetainedOutput session chunks where
  isOpen := isOpen
  latest := latest
  counted := counted
  contiguous := by
    rw [latest]
    exact contiguous_of_suffix longest.suffix
  longest := longest
  exact := by
    intro bytes records retained
    have total : retained = OutputRecord.total records := by
      simp [retained, records, counted, OutputRecord.total]
    rw [total]
    exact (TerminalSession.evict_longest records).1

theorem create (request : CreateTerminalSessionReq)
    (terminalSessionId creatorClientId : String) (initialCwd : Option String)
    (nowMs : Nat) :
    RetainedOutput (.create request terminalSessionId creatorClientId
      initialCwd nowMs) [] :=
  of_longest rfl rfl rfl (.of_fits (Nat.zero_le _))

/-- A call that records nothing leaves it alone. -/
theorem congr (output : RetainedOutput session chunks)
    (isOpen : changed.closed = session.closed)
    (latest : changed.info.latestOutputSeq = session.info.latestOutputSeq)
    (retained : changed.retainedOutputBytes = session.retainedOutputBytes)
    (buffer : changed.outputBuffer = session.outputBuffer) :
    RetainedOutput changed chunks := by
  apply of_longest
  · rw [isOpen, output.isOpen]
  · rw [latest, output.latest]
  · rw [retained, buffer, output.counted]
  · rw [buffer]
    exact output.longest

/-- A chunk of any size is recorded. -/
theorem record {bytes : List UInt8} {nowMs : Nat}
    {announced : Option TerminalSessionInfo}
    (output : RetainedOutput session chunks)
    (recorded : session.recordOutput windows bytes nowMs =
      some (changed, announced)) :
    RetainedOutput changed (chunks ++ [bytes]) := by
  obtain ⟨-, -, title, cwd, metadataParser, metadata, -, rfl⟩ :=
    TerminalSession.recordOutput_eq recorded
  have total : session.retainedOutputBytes + bytes.length =
      OutputRecord.total (session.outputBuffer ++
        [⟨session.info.latestOutputSeq + 1, bytes⟩]) := by
    simp [output.counted, OutputRecord.total]
  apply of_longest
  · exact output.isOpen
  · simp [output.latest]
  · exact (TerminalSession.evict_spec total rfl).2
  · rw [numbered_concat, ← output.latest]
    dsimp only
    rw [total]
    exact output.longest.append (TerminalSession.evict_longest _).2

theorem takeControl {request : TakeTerminalControlReq} {rpcSessionId : Nat}
    {resizeError : Option String} (output : RetainedOutput session chunks) :
    RetainedOutput
      (session.takeControl request rpcSessionId resizeError).1 chunks := by
  unfold TerminalSession.takeControl
  split
  · exact output
  · split
    · exact output.congr rfl rfl rfl rfl
    · dsimp only
      split <;> split <;> exact output.congr rfl rfl rfl rfl

theorem writeInput {attachId : String} {bytes : List UInt8}
    {rpcSessionId : Nat} {result : PtyWrite}
    (output : RetainedOutput session chunks) :
    RetainedOutput
      (session.writeInput attachId bytes rpcSessionId result).1 chunks := by
  unfold TerminalSession.writeInput
  split
  · exact output
  · split
    · exact output
    · split <;> exact output.congr rfl rfl rfl rfl

/-- One call. -/
theorem apply (output : RetainedOutput session chunks) (call : SessionCall) :
    RetainedOutput (session.apply windows call)
      (chunks ++ call.chunk.toList) := by
  have silent {next : TerminalSession} (nothing : call.chunk = none)
      (kept : RetainedOutput next chunks) :
      RetainedOutput next (chunks ++ call.chunk.toList) := by
    rwa [nothing, Option.toList_none, List.append_nil]
  cases call with
  | recordOutput bytes nowMs =>
      rw [TerminalSession.apply, SessionCall.chunk]
      cases recorded : session.recordOutput windows bytes nowMs with
      | none =>
          unfold TerminalSession.recordOutput at recorded
          split at recorded
          · rename_i refused
            rw [output.isOpen, Bool.false_or] at refused
            rw [if_pos refused]
            simpa using output
          · cases recorded
      | some result =>
          have accepted := (TerminalSession.recordOutput_eq recorded).1
          rw [output.isOpen, Bool.false_or] at accepted
          rw [if_neg (by simp [accepted])]
          exact output.record recorded
  | attach request attachId rpcSessionId nowMs =>
      apply silent rfl
      rw [TerminalSession.apply, TerminalSession.attach, output.isOpen]
      exact output.congr output.isOpen.symm rfl rfl rfl
  | detach attachId nowMs =>
      exact silent rfl (output.congr rfl rfl rfl rfl)
  | takeControl request rpcSessionId resizeError =>
      exact silent rfl output.takeControl
  | writeInput attachId bytes rpcSessionId result =>
      exact silent rfl output.writeInput
  | markExited status nowMs =>
      apply silent rfl
      rw [TerminalSession.apply, TerminalSession.markExited]
      split
      · exact output
      · exact output.congr rfl rfl rfl rfl

end RetainedOutput

/-- After any calls an open session retains the longest suffix of the chunks
that it has recorded, with contiguous numbers up to the latest, and has counted
its bytes. -/
theorem retained_output_is_longest_suffix
    (windows : Bool) (request : CreateTerminalSessionReq)
    (terminalSessionId creatorClientId : String) (initialCwd : Option String)
    (nowMs : Nat) (calls : List SessionCall) :
    RetainedOutput
      (calls.foldl (TerminalSession.apply windows)
        (.create request terminalSessionId creatorClientId initialCwd nowMs))
      (recordedChunks calls) := by
  induction calls using List.reverseRecOn with
  | nil =>
      exact .create request terminalSessionId creatorClientId initialCwd nowMs
  | append_singleton calls call inductionHypothesis =>
      rw [List.foldl_append, recordedChunks, List.filterMap_append]
      exact inductionHypothesis.apply call

end Host
end WhatsGoingOn
