import WhatsGoingOn.Library.CutStreams
import WhatsGoingOn.Web.WireAgreement

/-!
# Response streams that are cut

Of a response whose connection breaks, the client hands over the events of the
messages that came as a whole, and then tells that the last one is incomplete.
-/

namespace WhatsGoingOn
namespace Web

open Reader (CutAfter Reads Spells exists_cutAfter)

variable {δ ε α : Type} (proc : ProcCodec δ ε α)

/-- What the client sees of a stream that ends in an incomplete message. -/
theorem stream_of_incomplete
    {rest : List UInt8} {messages : List ReqResMessage}
    {chunks : List (List UInt8)}
    (reads : Reads readMessage chunks.flatten messages rest)
    (ends : (readMessage rest).outcome = .error (.cbor .unexpectedEnd)) :
    streamServerEvents proc [] chunks =
      yieldEach proc ⟨[], if 0 < rest.length then some .incomplete else none⟩
        messages := by
  rw [stream_of_sound rfl (soundAfterFirst_of_incomplete reads ends),
    List.nil_append, eventsInOrder_of_reads reads, eventsInOrder_of_error ends]
  rfl

end Web
end WhatsGoingOn
