import PrQuic.Stream.Log

/-!
# The packet assembler's list of active streams

A stream gets on the assembler's list through `onHasStreamData`, and a pop keeps it there
exactly when it reports more data (`framerActive`): on the first data `Write` offers, on
`Close`, on a loss queued for retransmission, and on a window update with data still held.
After a `Close` and a pop that found the window used up and reported no more data, the FIN is
all that is left, and nothing puts the stream back: a window update notifies only for data
(`fin_wakeup_lost`).
-/

namespace PrQuic.Stream

open Wire GoResult

/-- Modelled from the spec: the packet assembler's view of the stream after an observation.
`onHasStreamData` puts the stream on the list of active streams, and a pop keeps it there
exactly when it reports more data. -/
def Observation.activeAfter (active : Bool) : Observation → Bool
  | .upcall .onHasStreamData => true
  | .popped _ hasMoreData _ => hasMoreData
  | _ => active

/-- Whether the stream is on the packet assembler's list after the run that logged `log`. -/
def framerActive (log : List Observation) : Bool :=
  log.foldl Observation.activeAfter false

@[simp] theorem framerActive_append_nil (log : List Observation) :
    framerActive (log ++ []) = framerActive log := by
  rw [List.append_nil]

/-- The stream has something the packet assembler could send: a retransmission; buffered or
offered data with the window open; or a FIN not yet sent once nothing is left to frame. -/
def Sys.hasSendable (s : Sys) : Bool :=
  !s.stream.retransmissionQueue.isEmpty ||
    (s.stream.nextFrame.isSome || !s.stream.dataForWriting.isEmpty) &&
      decide (0 < s.stream.flowController.sendWindow - s.stream.flowController.bytesSent) ||
    s.stream.finishedWriting && !s.stream.finSent && s.stream.nextFrame.isNone &&
      s.stream.dataForWriting.isEmpty

namespace Sys

variable {pc : Protocol} {cfg : PRConfig} {s s' : Sys}

/-- A window update on a stream with nothing buffered or offered notifies nobody and changes
only the flow controller. -/
theorem next_updateSendWindow_idle {l : Nat} (hd : s.stream.dataForWriting = [])
    (hn : s.stream.nextFrame = none) (h : s.next pc cfg (.updateSendWindow l) = some (ok s')) :
    s'.log = s.log ++ [] ∧
      s'.stream = { s.stream with
        flowController := s.stream.flowController.updateSendWindow l } := by
  rw [next_updateSendWindow h]
  simp [withUpcalls, SendStream.updateSendWindow, hd, hn]

end Sys

section Properties

/-- `SetWriteDeadline(1)`; a `Write` of two bytes more than a packet buffer, which blocks;
`Close`; a pop of one byte with the window of one byte; a pop with the window used up; and the
deadline passing. -/
def deadlineAfterClose : List Event :=
  [.setWriteDeadline 1, .write (List.replicate 1454 0), .close, .pop 1452 1, .pop 1452 0, .tick,
    .wake true]

set_option maxRecDepth 8000 in
/-- A stream that is neither canceled nor shut down, with its FIN still to send and nothing
else, is off the packet assembler's list, and a window update does not put it back. -/
theorem fin_wakeup_lost :
    ∃ s, FramerReachable .quicGo .shipped s ∧ s.stream.canceledWrite = false ∧
      s.stream.closedForShutdown = false ∧ s.hasSendable = true ∧ framerActive s.log = false ∧
      ∀ l s', s.next .quicGo .shipped (.updateSendWindow l) = some (ok s') →
        s'.hasSendable = true ∧ framerActive s'.log = false := by
  obtain ⟨s, hrun, hc, hsd, hsend, hact, hd, hn⟩ : ∃ s,
      (Sys.init 0 1).run .quicGo .shipped deadlineAfterClose = some (ok s) ∧
      s.stream.canceledWrite = false ∧ s.stream.closedForShutdown = false ∧
      s.hasSendable = true ∧ framerActive s.log = false ∧ s.stream.dataForWriting = [] ∧
      s.stream.nextFrame = none :=
    ⟨_, rfl, by decide⟩
  refine ⟨s, (FramerReachable.init 0 1).run (by decide) hrun, hc, hsd, hsend, hact,
    fun l s' h => ?_⟩
  obtain ⟨hlog, hst⟩ := Sys.next_updateSendWindow_idle hd hn h
  rw [hlog, framerActive_append_nil]
  refine ⟨?_, hact⟩
  simpa [Sys.hasSendable, hst, hd, hn] using hsend

end Properties

end PrQuic.Stream
