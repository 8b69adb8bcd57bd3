import WhatsGoingOn.Host.ReqResReader
import WhatsGoingOn.Library.CutStreams
import WhatsGoingOn.Web.WireEncode

/-!
# Request streams, from the client to the daemon

The daemon reads the messages that the client wrote on a stream, however the
transport splits the stream, and wherever the stream is cut.
-/

namespace WhatsGoingOn
namespace Web

open Daemon (maxMessageSequenceSize decodePair)
open Host (Runs Yields StreamEnd)
open Reader (CutAfter Spells exists_cutAfter)

/-! ## Messages that the client writes -/

/-- The messages of a sequence, each with its bytes. -/
theorem written_of_sequence {messages : List ReqResMessage}
    {bytes : List UInt8}
    (encoded : encodeReqResMessageSequence messages = .ok bytes) :
    ∃ written : List (List UInt8 × Daemon.ReqResMessage),
      List.Forall₂ (fun message pair => Written message pair.1 pair.2)
        messages written ∧
      (written.map Prod.fst).flatten = bytes := by
  induction messages generalizing bytes with
  | nil =>
      cases encoded
      exact ⟨[], .nil, rfl⟩
  | cons message messages inductionHypothesis =>
      obtain ⟨piece, first, encoded⟩ := Outcome.bind_eq_ok.mp encoded
      obtain ⟨others, later, encoded⟩ := Outcome.bind_eq_ok.mp encoded
      cases encoded
      obtain ⟨sent, here⟩ := exists_written first
      obtain ⟨written, each, rfl⟩ := inductionHypothesis later
      exact ⟨(piece, sent) :: written, .cons here each, rfl⟩

/-! ## What the daemon reads -/

/-- How a stream ends for the daemon of which some bytes are left. -/
def streamEndOf (rest : List UInt8) : StreamEnd :=
  if rest = [] then .ok ()
  else .error (.error (.bail
    "reqres message sequence ended with an incomplete message"))

/-- Bytes that are not two values yet end the stream. -/
theorem yields_of_ending {rest : List UInt8}
    (small : rest.length ≤ maxMessageSequenceSize)
    (ends : (decodePair rest).outcome = .error Daemon.ending) :
    Yields rest [] (streamEndOf rest) := by
  unfold streamEndOf
  split
  · rename_i none
    rw [none]
    exact .finished
  · rename_i some
    refine .incomplete ?_ some
    rw [Daemon.decodePrefix_eq_concludePrefix small, ends]
    rfl

theorem Written.daemon {message : ReqResMessage} {piece : List UInt8}
    {sent : Daemon.ReqResMessage} (written : Written message piece sent) :
    sent.Within Daemon.isizeMax :=
  written.within.mono (by decide)

/-- The pieces of messages are two values each. -/
theorem exists_pair {message : ReqResMessage} {piece : List UInt8}
    {sent : Daemon.ReqResMessage} (written : Written message piece sent) :
    ∃ pair, Spells decodePair piece pair := by
  obtain ⟨_, kind, fields, encoded, -, -, reads⟩ :=
    Daemon.ReqResMessage.decodePair_encode written.daemon
  cases encoded.symm.trans written.encoded
  exact ⟨(kind, fields), reads⟩

/-- The daemon reads the pieces of a stream one after the other. -/
theorem yields_of_pieces {messages : List ReqResMessage}
    {written : List (List UInt8 × Daemon.ReqResMessage)}
    (each : List.Forall₂ (fun message pair => Written message pair.1 pair.2)
      messages written)
    {rest : List UInt8} {ended : StreamEnd}
    (small : ((written.map Prod.fst).flatten ++ rest).length ≤
      maxMessageSequenceSize)
    (ends : Yields rest [] ended) :
    Yields ((written.map Prod.fst).flatten ++ rest) (written.map Prod.snd)
      ended := by
  induction each with
  | nil => exact ends
  | @cons message pair _ written first _ inductionHypothesis =>
      obtain ⟨piece, sent⟩ := pair
      obtain ⟨_, encoded, reads⟩ :=
        Daemon.ReqResMessage.decodePrefix_encode first.daemon
      cases encoded.symm.trans first.encoded
      rw [List.map_cons, List.flatten_cons, List.append_assoc] at small ⊢
      refine .message (reads _ small) ?_
      rw [List.drop_left]
      refine inductionHypothesis ?_
      rw [List.length_append] at small
      omega

/-- The daemon reads a whole stream, and its end. -/
theorem runs_of_sequence {messages : List ReqResMessage} {bytes : List UInt8}
    (encoded : encodeReqResMessageSequence messages = .ok bytes)
    (small : bytes.length ≤ maxMessageSequenceSize)
    {chunks : List (List UInt8)} (carried : chunks.flatten = bytes)
    (nonempty : ∀ chunk ∈ chunks, chunk ≠ []) :
    ∃ written : List (List UInt8 × Daemon.ReqResMessage),
      List.Forall₂ (fun message pair => Written message pair.1 pair.2)
        messages written ∧
      Runs (.new chunks) (written.map Prod.snd) (.ok ()) := by
  obtain ⟨written, each, rfl⟩ := written_of_sequence encoded
  refine ⟨written, each, ?_⟩
  rw [← carried] at small
  rw [(Host.ready_new nonempty small).runs_iff_yields]
  change Yields chunks.flatten _ _
  rw [carried] at small ⊢
  rw [← List.append_nil (written.map Prod.fst).flatten] at small ⊢
  exact yields_of_pieces each small .finished

/-- What the daemon reads of a stream that is cut. -/
theorem yields_of_cut {messages : List ReqResMessage}
    {written : List (List UInt8 × Daemon.ReqResMessage)}
    (each : List.Forall₂ (fun message pair => Written message pair.1 pair.2)
      messages written)
    {part : List UInt8} {count : Nat} {rest : List UInt8}
    (small : part.length ≤ maxMessageSequenceSize)
    (cut : CutAfter (written.map Prod.fst) part count rest) :
    Yields part ((written.map Prod.snd).take count) (streamEndOf rest) := by
  have ends : (decodePair rest).outcome = .error Daemon.ending := by
    by_cases none : rest = []
    · rw [none]
      rfl
    · obtain ⟨piece, more, found, strict, rfl⟩ := cut.strict none
      obtain ⟨inside, same⟩ := List.getElem?_eq_some_iff.mp found
      rw [List.length_map] at inside
      have next := each.get (each.length_eq ▸ inside) inside
      rw [List.getElem_map] at same
      obtain ⟨pair, spelled⟩ := exists_pair next
      rw [List.get_eq_getElem, same] at spelled
      exact spelled.strict Daemon.stable_decodePair strict
  have fewer := List.forall₂_take count each
  have whole := cut.whole
  rw [← List.map_take] at whole ⊢
  rw [whole] at small ⊢
  refine yields_of_pieces fewer small (yields_of_ending ?_ ends)
  rw [List.length_append] at small
  omega

/-- Of a stream of the client that is cut at any byte, the daemon reads exactly
the messages that are there as a whole, and then either its end or that a
message is incomplete, however the transport splits it. -/
def CutsReachDaemon (messages : List ReqResMessage) (bytes : List UInt8) :
    Prop :=
  ∃ written : List (List UInt8 × Daemon.ReqResMessage),
    List.Forall₂ (fun message pair => Written message pair.1 pair.2)
      messages written ∧
    (written.map Prod.fst).flatten = bytes ∧
    ∀ part, part <+: bytes → part.length ≤ maxMessageSequenceSize →
      ∃ count rest, CutAfter (written.map Prod.fst) part count rest ∧
        ∀ chunks : List (List UInt8), chunks.flatten = part →
          (∀ chunk ∈ chunks, chunk ≠ []) → ∀ yielded ended,
            Runs (.new chunks) yielded ended ↔
              yielded = (written.map Prod.snd).take count ∧
                ended = streamEndOf rest

/-- Every cut of what a client sends reaches the daemon as whole messages. -/
theorem requests_reach_daemon {messages : List ReqResMessage}
    {bytes : List UInt8}
    (encoded : encodeReqResMessageSequence messages = .ok bytes) :
    CutsReachDaemon messages bytes := by
  obtain ⟨written, each, rfl⟩ := written_of_sequence encoded
  refine ⟨written, each, rfl, fun part front small => ?_⟩
  obtain ⟨count, rest, cut⟩ := exists_cutAfter front
  refine ⟨count, rest, cut, ?_⟩
  rintro chunks rfl nonempty yielded ended
  have yields := yields_of_cut each small cut
  rw [(Host.ready_new nonempty small).runs_iff_yields]
  constructor
  · intro others
    exact others.unique yields
  · rintro ⟨rfl, rfl⟩
    exact yields

/-- A stream that writes one byte to a file. -/
theorem requests_reach_daemon_write :
    CutsReachDaemon
      [{ kind := .requestStreamStart, procId := some 8, payload := some [7] },
        { kind := .requestStreamChunk, payload := some [9] }]
      [0x01, 0xa2, 0x01, 0x08, 0x02, 0x41, 0x07, 0x02, 0xa1, 0x02, 0x41, 0x09] := by
  have start : Written
      { kind := .requestStreamStart, procId := some 8, payload := some [7] }
      [0x01, 0xa2, 0x01, 0x08, 0x02, 0x41, 0x07]
      (.requestStreamStart 8 (some [7])) :=
    ⟨⟨by decide, by rintro _ ⟨⟩; decide⟩, rfl, rfl⟩
  have chunk : Written { kind := .requestStreamChunk, payload := some [9] }
      [0x02, 0xa1, 0x02, 0x41, 0x09]
      (.requestStreamChunk [9]) :=
    ⟨(by decide : 1 ≤ maxSafeInteger), rfl, rfl⟩
  refine requests_reach_daemon (Outcome.bind_eq_ok.mpr ⟨_, start.encodes,
    Outcome.bind_eq_ok.mpr ⟨_, ?_, rfl⟩⟩)
  exact Outcome.bind_eq_ok.mpr ⟨_, chunk.encodes, rfl⟩

end Web
end WhatsGoingOn
