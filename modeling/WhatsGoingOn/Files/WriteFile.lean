import WhatsGoingOn.Daemon.Codec
import WhatsGoingOn.Daemon.Services
import WhatsGoingOn.Library.Patches

/-!
# Writing files

The daemons of both platforms write chunks to a file in one of four modes.  The
file system is what its calls are documented to do, and none of them fails for
a reason other than what stands at the path, or an offset that no file has.
-/

namespace WhatsGoingOn
namespace Files

open Daemon (ServiceError maxU53)
open Patches (Patch)

/-! ## The file system -/

/-- What stands at a path.  Links are not followed. -/
inductive Node where
  | absent
  | file (content : List UInt8)
  | directory
  | other
  deriving DecidableEq, Repr

/-- A cursor comes to no position from here on. -/
def seekLimit : Nat := 2 ^ 63

/-- A file that is open, and the position of its cursor. -/
structure OpenFile where
  content : List UInt8
  position : Nat
  deriving DecidableEq, Repr

namespace OpenFile

/-- `File::seek` from the start.  `refused` is what `map_io_error` makes of the
error of the platform, to which an offset is a signed number. -/
def seek (refused : ServiceError) (file : OpenFile) (offset : UInt64) :
    Except ServiceError OpenFile :=
  if offset.toNat < seekLimit then .ok { file with position := offset.toNat }
  else .error refused

theorem seek_eq (refused : ServiceError) (file : OpenFile) {offset : UInt64}
    (reachable : offset.toNat < seekLimit) :
    file.seek refused offset = .ok { file with position := offset.toNat } :=
  if_pos reachable

/-- `File::write_all`. -/
def writeAll (file : OpenFile) (bytes : List UInt8) : OpenFile :=
  ⟨Patches.writeAt 0 file.content file.position bytes,
    file.position + bytes.length⟩

/-- `File::write_all` on a file that was opened to append. -/
def appendAll (file : OpenFile) (bytes : List UInt8) : OpenFile :=
  ⟨file.content ++ bytes, file.content.length + bytes.length⟩

end OpenFile

/-! ## Requests -/

/-- What a write does with a file that is there or is not. -/
inductive WriteFileMode where
  | create
  | replace
  | append
  | patch
  deriving DecidableEq, Repr

/-- `WriteFileStart`, without its path. -/
structure WriteFileStart where
  mode : WriteFileMode
  expectedResultSize : Option UInt64
  modifiedAtMs : Option UInt64
  deriving DecidableEq, Repr

/-- Bytes to be written, with the place in the file where they go. -/
structure WriteFileChunk where
  offset : Option UInt64
  bytes : List UInt8
  deriving DecidableEq, Repr

/-- What the daemon answers after a write. -/
structure WriteFileResult where
  bytesWritten : Nat
  resultSize : Nat
  modifiedAtMs : Option UInt64
  deriving DecidableEq, Repr

/-- `add_chunk_len`. -/
def addChunkLen (current : Nat) (chunk : WriteFileChunk) :
    Except ServiceError Nat :=
  if current + chunk.bytes.length ≤ maxU53 then
    .ok (current + chunk.bytes.length)
  else .error (.operationFailed "bytesWritten exceeds u53")

/-- What the source of the chunks yields, one after the other. -/
abbrev ChunkSource : Type :=
  List (Except ServiceError WriteFileChunk)

/-- A file after its chunks, and the number of bytes or what failed. -/
abbrev Writing : Type :=
  OpenFile × Except ServiceError Nat

/-- `write_seekable_chunks`. -/
def writeSeekableChunks (refused : ServiceError) (requireOffset : Bool)
    (file : OpenFile) (bytesWritten : Nat) : ChunkSource → Writing
  | [] => (file, .ok bytesWritten)
  | .error failure :: _ => (file, .error failure)
  | .ok chunk :: chunks =>
      if chunk.offset = none ∧ requireOffset then (file, .error .invalidPath)
      else
        let placed :=
          match chunk.offset with
          | some offset => file.seek refused offset
          | none => .ok file
        match placed with
        | .error failure => (file, .error failure)
        | .ok placed =>
            let file := placed.writeAll chunk.bytes
            match addChunkLen bytesWritten chunk with
            | .error failure => (file, .error failure)
            | .ok bytesWritten =>
                writeSeekableChunks refused requireOffset file bytesWritten
                  chunks

/-- The loop of `write_file_chunks` that appends. -/
def appendChunks (file : OpenFile) (bytesWritten : Nat) :
    ChunkSource → Writing
  | [] => (file, .ok bytesWritten)
  | .error failure :: _ => (file, .error failure)
  | .ok chunk :: chunks =>
      if chunk.offset ≠ none then (file, .error .invalidPath)
      else
        let file := file.appendAll chunk.bytes
        match addChunkLen bytesWritten chunk with
        | .error failure => (file, .error failure)
        | .ok bytesWritten => appendChunks file bytesWritten chunks

/-- `ensure_regular_file_exists`, and the content of the file. -/
def ensureRegularFileExists : Node → Except ServiceError (List UInt8)
  | .file content => .ok content
  | .directory => .error .notFile
  | .other => .error .notFile
  | .absent => .error .notFound

/-- The file that a mode opens. -/
def openFile : WriteFileMode → Node → Except ServiceError OpenFile
  | .create, .absent => .ok ⟨[], 0⟩
  | .create, _ => .error .alreadyExists
  | .replace, .absent => .ok ⟨[], 0⟩
  | .replace, .file _ => .ok ⟨[], 0⟩
  | .replace, _ => .error .notFile
  | .append, node =>
      (ensureRegularFileExists node).map fun content =>
        ⟨content, content.length⟩
  | .patch, node =>
      (ensureRegularFileExists node).map fun content => ⟨content, 0⟩

/-- What a mode does with the chunks. -/
def writeChunks (refused : ServiceError) (mode : WriteFileMode)
    (file : OpenFile) (chunks : ChunkSource) : Writing :=
  match mode with
  | .create => writeSeekableChunks refused false file 0 chunks
  | .replace => writeSeekableChunks refused false file 0 chunks
  | .append => appendChunks file 0 chunks
  | .patch => writeSeekableChunks refused true file 0 chunks

/-- `ensure_parent_directory_exists`, for what stands at the parent of a path
that has one. -/
def ensureParentDirectoryExists : Option Node → Except ServiceError Unit
  | none => .ok ()
  | some .directory => .ok ()
  | some .absent => .error .notFound
  | some _ => .error .notDirectory

/-- `write_file`: what stands at the path then, and the result.  `modifiedAt` is
the modified time that the file reports once the time of the request was set, if
it could be. -/
def writeFile (refused : ServiceError)
    (modifiedAt : Option UInt64 → Option UInt64) (start : WriteFileStart)
    (parent : Option Node) (node : Node) (chunks : ChunkSource) :
    Node × Except ServiceError WriteFileResult :=
  match ensureParentDirectoryExists parent with
  | .error failure => (node, .error failure)
  | .ok () =>
      match openFile start.mode node with
      | .error failure => (node, .error failure)
      | .ok file =>
          match writeChunks refused start.mode file chunks with
          | (file, .error failure) => (.file file.content, .error failure)
          | (file, .ok bytesWritten) =>
              let resultSize := file.content.length
              if maxU53 < resultSize then
                (.file file.content,
                  .error (.operationFailed "result file size exceeds u53"))
              else if ∃ expected ∈ start.expectedResultSize,
                  expected.toNat ≠ resultSize then
                (.file file.content,
                  .error (.operationFailed
                    "result file size does not match expectedResultSize"))
              else
                (.file file.content,
                  .ok ⟨bytesWritten, resultSize,
                    modifiedAt start.modifiedAtMs⟩)

/-! ## The reference -/

/-- The sum of the lengths of chunks. -/
def totalBytes (chunks : List WriteFileChunk) : Nat :=
  (chunks.map (·.bytes.length)).sum

/-- Where chunks are written: at their offset, or else where the chunk before
them ended. -/
def placed (position : Nat) : List WriteFileChunk → List (Patch UInt8)
  | [] => []
  | chunk :: chunks =>
      let start := (chunk.offset.map UInt64.toNat).getD position
      ⟨start, chunk.bytes⟩ :: placed (start + chunk.bytes.length) chunks

/-- A cursor comes to every offset of the chunks. -/
def Reachable (chunks : List WriteFileChunk) : Prop :=
  ∀ chunk ∈ chunks, ∀ offset ∈ chunk.offset, offset.toNat < seekLimit

namespace WriteFileMode

/-- What may stand at the path. -/
def Admits : WriteFileMode → Node → Prop
  | .create, node => node = .absent
  | .replace, node => node = .absent ∨ ∃ content, node = .file content
  | .append, node => ∃ content, node = .file content
  | .patch, node => ∃ content, node = .file content

/-- The content that chunks are laid over. -/
def base : WriteFileMode → Node → List UInt8
  | .append, .file content => content
  | .patch, .file content => content
  | _, _ => []

/-- Where a first chunk without an offset is written. -/
def origin (mode : WriteFileMode) (node : Node) : Nat :=
  match mode with
  | .append => (mode.base node).length
  | _ => 0

/-- Which chunks have an offset. -/
def ObeysOffsets (mode : WriteFileMode) (chunks : List WriteFileChunk) :
    Prop :=
  match mode with
  | .append => ∀ chunk ∈ chunks, chunk.offset = none
  | .patch => ∀ chunk ∈ chunks, chunk.offset ≠ none
  | _ => True

/-- The content that chunks make. -/
def reference (mode : WriteFileMode) (node : Node)
    (chunks : List WriteFileChunk) : List UInt8 :=
  Patches.overlay 0 (mode.base node) (placed (mode.origin node) chunks)

end WriteFileMode

/-! ## The loops -/

@[simp] theorem totalBytes_cons (chunk : WriteFileChunk)
    (chunks : List WriteFileChunk) :
    totalBytes (chunk :: chunks) = chunk.bytes.length + totalBytes chunks := by
  simp [totalBytes]

theorem addChunkLen_eq {current : Nat} {chunk : WriteFileChunk}
    (within : current + chunk.bytes.length ≤ maxU53) :
    addChunkLen current chunk = .ok (current + chunk.bytes.length) :=
  if_pos within

/-- Chunks are laid over the content, wherever they may go. -/
theorem writeSeekableChunks_ok (refused : ServiceError) {requireOffset : Bool}
    (file : OpenFile) (bytesWritten : Nat) {chunks : List WriteFileChunk}
    (reachable : Reachable chunks)
    (offsets : requireOffset = true →
      ∀ chunk ∈ chunks, chunk.offset ≠ none)
    (within : bytesWritten + totalBytes chunks ≤ maxU53) :
    ∃ position, writeSeekableChunks refused requireOffset file bytesWritten
        (chunks.map .ok) =
      (⟨Patches.writeAll 0 file.content (placed file.position chunks),
        position⟩, .ok (bytesWritten + totalBytes chunks)) := by
  induction chunks generalizing file bytesWritten with
  | nil => exact ⟨file.position, rfl⟩
  | cons chunk chunks inductionHypothesis =>
      rw [totalBytes_cons] at within ⊢
      have allowed : ¬ (chunk.offset = none ∧ requireOffset = true) :=
        fun both => offsets both.2 chunk (.head _) both.1
      have later : requireOffset = true →
          ∀ other ∈ chunks, other.offset ≠ none :=
        fun required other member => offsets required other (.tail _ member)
      have far : Reachable chunks :=
        fun other member => reachable other (.tail _ member)
      rw [List.map_cons, writeSeekableChunks, if_neg allowed,
        addChunkLen_eq (by omega)]
      cases offset : chunk.offset with
      | none =>
          obtain ⟨position, written⟩ := inductionHypothesis
            (file.writeAll chunk.bytes)
            (bytesWritten + chunk.bytes.length) far later (by omega)
          refine ⟨position, written.trans ?_⟩
          simp [placed, offset, OpenFile.writeAll, Patches.writeAll,
            Nat.add_assoc]
      | some offset' =>
          have near := reachable chunk (.head _) offset' offset
          dsimp only
          rw [OpenFile.seek_eq refused file near]
          obtain ⟨position, written⟩ := inductionHypothesis
            (({ file with position := offset'.toNat } : OpenFile).writeAll
              chunk.bytes)
            (bytesWritten + chunk.bytes.length) far later (by omega)
          refine ⟨position, written.trans ?_⟩
          simp [placed, offset, OpenFile.writeAll, Patches.writeAll,
            Nat.add_assoc]

/-- A chunk without an offset fails where one is required. -/
theorem writeSeekableChunks_error (refused : ServiceError) {file : OpenFile}
    {bytesWritten : Nat} {chunks : List WriteFileChunk}
    (missing : ∃ chunk ∈ chunks, chunk.offset = none) :
    ∃ after failure, writeSeekableChunks refused true file bytesWritten
      (chunks.map .ok) = (after, .error failure) := by
  induction chunks generalizing file bytesWritten with
  | nil => simp at missing
  | cons chunk chunks inductionHypothesis =>
      rw [List.map_cons, writeSeekableChunks]
      split
      · exact ⟨_, _, rfl⟩
      · rename_i allowed
        have later : ∃ other ∈ chunks, other.offset = none := by
          obtain ⟨other, member, absent⟩ := missing
          rcases List.mem_cons.mp member with rfl | member
          · exact absurd ⟨absent, rfl⟩ allowed
          · exact ⟨other, member, absent⟩
        dsimp only
        split
        · exact ⟨_, _, rfl⟩
        · split
          · exact ⟨_, _, rfl⟩
          · exact inductionHypothesis later

/-- Chunks without offsets are appended. -/
theorem appendChunks_ok (file : OpenFile) (bytesWritten : Nat)
    {chunks : List WriteFileChunk}
    (offsets : ∀ chunk ∈ chunks, chunk.offset = none)
    (within : bytesWritten + totalBytes chunks ≤ maxU53) :
    ∃ position, appendChunks file bytesWritten (chunks.map .ok) =
      (⟨Patches.writeAll 0 file.content (placed file.content.length chunks),
        position⟩, .ok (bytesWritten + totalBytes chunks)) := by
  induction chunks generalizing file bytesWritten with
  | nil => exact ⟨file.position, rfl⟩
  | cons chunk chunks inductionHypothesis =>
      rw [totalBytes_cons] at within ⊢
      have absent := offsets chunk (.head _)
      obtain ⟨position, written⟩ := inductionHypothesis
        (file.appendAll chunk.bytes) (bytesWritten + chunk.bytes.length)
        (fun other member => offsets other (.tail _ member)) (by omega)
      rw [List.map_cons, appendChunks, if_neg (not_not.mpr absent),
        addChunkLen_eq (by omega)]
      refine ⟨position, written.trans ?_⟩
      simp [placed, absent, OpenFile.appendAll, Patches.writeAll,
        Patches.writeAt_length, Nat.add_assoc]

/-- A chunk with an offset fails where none may have one. -/
theorem appendChunks_error {file : OpenFile} {bytesWritten : Nat}
    {chunks : List WriteFileChunk}
    (given : ∃ chunk ∈ chunks, chunk.offset ≠ none) :
    ∃ after failure, appendChunks file bytesWritten (chunks.map .ok) =
      (after, .error failure) := by
  induction chunks generalizing file bytesWritten with
  | nil => simp at given
  | cons chunk chunks inductionHypothesis =>
      rw [List.map_cons, appendChunks]
      split
      · exact ⟨_, _, rfl⟩
      · rename_i allowed
        have later : ∃ other ∈ chunks, other.offset ≠ none := by
          obtain ⟨other, member, present⟩ := given
          rcases List.mem_cons.mp member with rfl | member
          · exact absurd present allowed
          · exact ⟨other, member, present⟩
        dsimp only
        split
        · exact ⟨_, _, rfl⟩
        · exact inductionHypothesis later

/-! ## The whole write -/

namespace WriteFileMode

variable {mode : WriteFileMode} {node : Node}

/-- A mode opens what it admits, from its base on. -/
theorem openFile_of_admits (admitted : mode.Admits node) :
    openFile mode node = .ok ⟨mode.base node, mode.origin node⟩ := by
  cases mode with
  | create =>
      cases admitted
      rfl
  | replace =>
      rcases admitted with rfl | ⟨content, rfl⟩
      · rfl
      · rfl
  | append =>
      obtain ⟨content, rfl⟩ := admitted
      rfl
  | patch =>
      obtain ⟨content, rfl⟩ := admitted
      rfl

variable {chunks : List WriteFileChunk}

/-- Chunks that obey the rule of the mode make the reference. -/
theorem writeChunks_ok (refused : ServiceError) (node : Node)
    (reachable : Reachable chunks) (obeyed : mode.ObeysOffsets chunks)
    (within : totalBytes chunks ≤ maxU53) :
    ∃ position, writeChunks refused mode ⟨mode.base node, mode.origin node⟩
        (chunks.map .ok) =
      (⟨mode.reference node chunks, position⟩, .ok (totalBytes chunks)) := by
  have within : 0 + totalBytes chunks ≤ maxU53 := by omega
  unfold reference
  rw [← Patches.writeAll_eq_overlay, ← Nat.zero_add (totalBytes chunks)]
  cases mode with
  | create =>
      exact writeSeekableChunks_ok refused _ 0 reachable (by simp) within
  | replace =>
      exact writeSeekableChunks_ok refused _ 0 reachable (by simp) within
  | append => exact appendChunks_ok _ 0 obeyed within
  | patch =>
      exact writeSeekableChunks_ok refused _ 0 reachable (fun _ => obeyed)
        within

/-- Other chunks fail. -/
theorem writeChunks_error (refused : ServiceError) (file : OpenFile)
    (broken : ¬ mode.ObeysOffsets chunks) :
    ∃ after failure, writeChunks refused mode file (chunks.map .ok) =
      (after, .error failure) := by
  cases mode with
  | create => exact absurd trivial broken
  | replace => exact absurd trivial broken
  | append =>
      refine appendChunks_error ?_
      simpa [ObeysOffsets] using broken
  | patch =>
      refine writeSeekableChunks_error refused ?_
      simpa [ObeysOffsets] using broken

end WriteFileMode

/-- A write to what its mode admits succeeds when the chunks obey the rule of the
mode and make a file of the expected size, and then the file holds the chunks
laid over the content that the mode starts with. -/
theorem write_file_lays_over (refused : ServiceError)
    (modifiedAt : Option UInt64 → Option UInt64) (start : WriteFileStart)
    (parent : Option Node) (node : Node) (chunks : List WriteFileChunk)
    (parentExists : parent = none ∨ parent = some .directory)
    (admitted : start.mode.Admits node) (reachable : Reachable chunks)
    (bytesWithin : totalBytes chunks ≤ maxU53)
    (sizeWithin : (start.mode.reference node chunks).length ≤ maxU53) :
    ((∃ after result, writeFile refused modifiedAt start parent node
        (chunks.map .ok) = (after, .ok result)) ↔
      start.mode.ObeysOffsets chunks ∧
        ∀ expected ∈ start.expectedResultSize,
          expected.toNat = (start.mode.reference node chunks).length) ∧
      ∀ after result, writeFile refused modifiedAt start parent node
          (chunks.map .ok) = (after, .ok result) →
        after = .file (start.mode.reference node chunks) ∧
          result.bytesWritten = totalBytes chunks ∧
          result.resultSize = (start.mode.reference node chunks).length ∧
          result.modifiedAtMs = modifiedAt start.modifiedAtMs := by
  have parentOk : ensureParentDirectoryExists parent = .ok () := by
    rcases parentExists with rfl | rfl <;> rfl
  have opened := WriteFileMode.openFile_of_admits admitted
  by_cases obeyed : start.mode.ObeysOffsets chunks
  · obtain ⟨position, written⟩ :=
      WriteFileMode.writeChunks_ok refused node reachable obeyed bytesWithin
    have outcome : writeFile refused modifiedAt start parent node
        (chunks.map .ok) =
        if ∃ expected ∈ start.expectedResultSize,
            expected.toNat ≠ (start.mode.reference node chunks).length then
          (.file (start.mode.reference node chunks),
            .error (.operationFailed
              "result file size does not match expectedResultSize"))
        else
          (.file (start.mode.reference node chunks),
            .ok ⟨totalBytes chunks, (start.mode.reference node chunks).length,
              modifiedAt start.modifiedAtMs⟩) := by
      unfold writeFile
      simp only [parentOk, opened, written]
      rw [if_neg (Nat.not_lt.mpr sizeWithin)]
    rw [outcome]
    by_cases mismatch : ∃ expected ∈ start.expectedResultSize,
        expected.toNat ≠ (start.mode.reference node chunks).length
    · rw [if_pos mismatch]
      obtain ⟨expected, member, different⟩ := mismatch
      refine ⟨⟨?_, ?_⟩, ?_⟩
      · rintro ⟨_, _, ⟨⟩⟩
      · rintro ⟨-, matching⟩
        exact absurd (matching expected member) different
      · rintro _ _ ⟨⟩
    · rw [if_neg mismatch]
      push Not at mismatch
      refine ⟨⟨fun _ => ⟨obeyed, mismatch⟩, fun _ => ⟨_, _, rfl⟩⟩, ?_⟩
      rintro _ _ ⟨⟩
      exact ⟨rfl, rfl, rfl, rfl⟩
  · obtain ⟨after, failure, written⟩ :=
      WriteFileMode.writeChunks_error refused ⟨start.mode.base node,
        start.mode.origin node⟩ obeyed
    have failed : writeFile refused modifiedAt start parent node
        (chunks.map .ok) =
        (.file after.content, .error failure) := by
      unfold writeFile
      simp only [parentOk, opened, written]
    rw [failed]
    simp [obeyed]

/-- Two chunks over a file, the second of which begins past the end of the
first. -/
theorem write_file_lays_over_patch :
    ∃ result, writeFile .invalidPath id ⟨.patch, some 6, some 5⟩ (some .directory)
        (.file [1, 2, 3]) [.ok ⟨some 1, [8]⟩, .ok ⟨some 9, []⟩,
          .ok ⟨some 5, [7]⟩] =
      (.file [1, 8, 3, 0, 0, 7], .ok result) := by
  have laid := write_file_lays_over .invalidPath id ⟨.patch, some 6, some 5⟩
    (some .directory) (.file [1, 2, 3])
    [⟨some 1, [8]⟩, ⟨some 9, []⟩, ⟨some 5, [7]⟩] (.inr rfl) ⟨_, rfl⟩
    (by simp [Reachable, seekLimit]) (by decide) (by decide)
  obtain ⟨after, result, written⟩ := laid.1.mpr
    ⟨by simp [WriteFileMode.ObeysOffsets], by rintro _ ⟨⟩; decide⟩
  obtain ⟨rfl, -⟩ := laid.2 after result written
  exact ⟨result, written⟩

end Files
end WhatsGoingOn
