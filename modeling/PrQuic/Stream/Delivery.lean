import PrQuic.Stream.Partition
import PrQuic.Stream.SendingStates

/-!
# What a completed stream delivered

Without a cancellation a stream completes only after FIN, with nothing in flight or queued
(`SendingInvariant.done`), so of the pieces that partition the data framed (`Stream.Partition`)
only the acknowledged frames and the PR_ACK_NOTIFY entries are left: every byte was acknowledged,
or given up by the PR policy, exactly once, and one of them carries FIN.  With PR disabled no
entry is ever queued (`Sys.PlainOnly`), so every byte was acknowledged, as in quic-go; and Data
Recvd of RFC 9000 is reached only so, a give-up leading elsewhere (`SendingState.GiveUp`).
-/

namespace PrQuic.Stream

open Wire GoResult

/-- What a run with PR disabled keeps: no PR_ACK_NOTIFY entry is queued, and every frame in
flight is a STREAM frame. -/
structure Sys.PlainOnly (s : Sys) : Prop where
  notify : s.stream.prAckNotifyRetransmissionQueue = []
  inFlight : ∀ f ∈ s.inFlight, ∃ g, f = .plain g

namespace Sys.PlainOnly

variable {pc : Protocol} {cfg : PRConfig} {s s' : Sys}

theorem init (streamID initialWindow : Nat) : (Sys.init streamID initialWindow).PlainOnly :=
  ⟨rfl, by simp [Sys.init]⟩

theorem step (hcfg : cfg.enabled = false) (h : s.PlainOnly) {e : Event}
    (hn : s.next pc cfg e = some (ok s')) : s'.PlainOnly := by
  obtain ⟨hq, hI⟩ := h
  cases e with
  | write p =>
    obtain ⟨nf, dfw, hst, hin⟩ := Sys.next_write_stream hn
    exact ⟨by rw [hst]; exact hq, by rw [hin]; exact hI⟩
  | wake b =>
    obtain ⟨nf, dfw, wc, hst, hin⟩ := Sys.next_wake_stream hn
    exact ⟨by rw [hst]; exact hq, by rw [hin]; exact hI⟩
  | close =>
    rw [Sys.next_close hn]
    unfold SendStream.close
    split_ifs <;> exact ⟨hq, hI⟩
  | cancelWrite c | stopSending c =>
    rcases Sys.next_cancel (c := c) (by simp) hn with ⟨-, rfl⟩ | ⟨-, err, rfl⟩ <;>
      exact ⟨hq, hI⟩
  | updateSendWindow l =>
    rw [Sys.next_updateSendWindow hn]
    refine ⟨?_, hI⟩
    simp only [Sys.withUpcalls, SendStream.updateSendWindow]
    exact hq
  | pop mb w =>
    -- a pop hands out `outFrame cfg g`, a STREAM frame with PR disabled
    obtain ⟨-, r, hr, rfl⟩ := Sys.next_pop hn
    obtain ⟨r0, hspec, rfl⟩ := SendStream.popStreamFrame_spec pc cfg hr
    refine ⟨by cases hspec <;> simpa using hq, fun f hf => ?_⟩
    simp only [List.mem_append, Option.mem_toList, Option.mem_def, Option.map_eq_some'] at hf
    rcases hf with hf | ⟨g, -, rfl⟩
    · exact hI f hf
    · exact ⟨g, by simp [SendStream.outFrame, hcfg]⟩
  | acked i =>
    obtain ⟨f, st, ups, -, hr, rfl⟩ := Sys.next_acked hn
    refine ⟨?_, fun g hg => hI g (List.mem_of_mem_eraseIdx hg)⟩
    rcases SendStream.onAcked_spec hr with ⟨-, rfl, -⟩ | ⟨-, -, b, hb, -⟩
    · exact hq
    · rw [SendStream.isNewlyCompleted_eq] at hb
      cases hb
      exact hq
  | lost i r =>
    -- the lost frame is a STREAM frame: it goes back on the retransmission queue
    obtain ⟨f, st, ups, hf, hr, rfl⟩ := Sys.next_lost hn
    refine ⟨?_, fun g hg => hI g (List.mem_of_mem_eraseIdx hg)⟩
    obtain ⟨g, rfl⟩ := hI f (List.get?_mem hf)
    rcases SendStream.queueRetransmission_spec hr with ⟨-, rfl, -⟩ | ⟨-, -, -, rfl⟩ <;> exact hq
  | tick | closeForShutdown err | setWriteDeadline t =>
    simp only [Sys.next, Option.some.injEq, ok.injEq] at hn
    subst hn
    exact ⟨hq, hI⟩

theorem reachable (hcfg : cfg.enabled = false) (hs : Reachable pc cfg s) : s.PlainOnly :=
  Reachable.induction (fun _ _ => init _ _) (fun _ _ _ _ h hn => step hcfg h hn) hs

end Sys.PlainOnly

namespace Sys

variable {pc : Protocol} {cfg : PRConfig} {s : Sys}

/-- Once a stream completed without a cancellation, its pieces are the frames acknowledged and
the PR_ACK_NOTIFY entries, and FIN was sent. -/
theorem pieces_of_completed (hs : Reachable pc cfg s) (hdone : s.stream.completed = true)
    (hc : s.stream.canceledWrite = false) :
    s.stream.finSent = true ∧ s.pieces = (ackedFrames s.log).map OutFrame.piece ++
      s.stream.prAckNotifyRetransmissionQueue.map Piece.ofNotify := by
  obtain ⟨hfin, hI, hq⟩ := (SendingInvariant.reachable hs).done hdone hc
  exact ⟨hfin, by simp [pieces, hI, hq]⟩

/-- Once a stream completed without a cancellation and with nothing given up, the frames
acknowledged cover every byte before the final size exactly once, and one of them FIN. -/
theorem ackedFrames_partition (hs : Reachable pc cfg s) (hdone : s.stream.completed = true)
    (hc : s.stream.canceledWrite = false) (hN : s.stream.prAckNotifyRetransmissionQueue = []) :
    (∀ k, ((ackedFrames s.log).map OutFrame.piece).countP (Piece.covers k) =
      if k < s.stream.writeOffset then 1 else 0) ∧
    ((ackedFrames s.log).map OutFrame.piece).countP Piece.fin = 1 := by
  obtain ⟨hfin, hpieces⟩ := pieces_of_completed hs hdone hc
  have hp := Partition.reachable hs hc
  rw [hN, List.map_nil, List.append_nil] at hpieces
  rw [← hpieces]
  exact ⟨hp.cover, by rw [hp.fin, if_pos hfin]⟩

end Sys

section Properties

variable {pc : Protocol} {cfg : PRConfig} {s : Sys}

/-- Every run of a stream is a path of the RFC's sending machine but for two exceptions, a
RESET_STREAM after completion (`LateReset`) and completion after the PR policy gave data up
(`GiveUp`); and Data Recvd means what the RFC says: every byte before the final size, and the
FIN, acknowledged, each in exactly one frame. -/
theorem sending_states_follow_rfc (hs : Reachable pc cfg s) :
    SendingState.Path SendingState.Moves .ready (sendings s.log) s.sendingState ∧
      ∀ m, s.sendingState = .dataRecvd m →
        (∀ k, ((ackedFrames s.log).map OutFrame.piece).countP (Piece.covers k) =
          if k < m then 1 else 0) ∧
        ((ackedFrames s.log).map OutFrame.piece).countP Piece.fin = 1 := by
  refine ⟨(SendingInvariant.reachable hs).path, fun m hm => ?_⟩
  obtain ⟨hc, hdone, hN, rfl⟩ := Sys.sendingState_eq_dataRecvd hm
  exact Sys.ackedFrames_partition hs hdone hc hN

/-- With the probability policy, a byte popped and lost (draw 0) and a second byte acknowledged
with the FIN. -/
def skippedLoss : List Event :=
  [.write [0], .pop 1452 1, .lost 0 0, .write [1], .pop 1452 1, .close, .pop 1452 1, .acked 0,
    .acked 0]

/-- With PR disabled, a byte popped, lost, popped again and acknowledged, then the FIN. -/
def retransmittedLoss : List Event :=
  [.write [0], .pop 1452 1, .lost 0 0, .pop 1452 1, .close, .pop 1452 1, .acked 0, .acked 0]

/-- The run that gives the first byte up ends in `givenUp` through `GiveUp`; the run that
retransmits it ends in Data Recvd with both bytes' frames acknowledged. -/
theorem sending_states_tell_give_up_apart :
    (∃ s, Reachable .quicGo .probability s ∧
      sendings s.log = [.stream 0 1 false, .stream 1 1 false, .stream 2 0 true, .completed] ∧
      s.sendingState = .givenUp 2 ∧
      SendingState.Path SendingState.Moves .ready (sendings s.log) s.sendingState) ∧
    ∃ s, Reachable .quicGo ⟨false, 0x80, 0⟩ s ∧ s.sendingState = .dataRecvd 1 ∧
      (∀ k, ((ackedFrames s.log).map OutFrame.piece).countP (Piece.covers k) =
        if k < 1 then 1 else 0) ∧
      ((ackedFrames s.log).map OutFrame.piece).countP Piece.fin = 1 := by
  obtain ⟨s₁, hrun₁, hl₁, hst₁⟩ : ∃ s, (Sys.init 0 1452).run .quicGo .probability skippedLoss =
      some (ok s) ∧ sendings s.log = [.stream 0 1 false, .stream 1 1 false, .stream 2 0 true,
        .completed] ∧ s.sendingState = .givenUp 2 :=
    ⟨_, rfl, by decide, by decide⟩
  obtain ⟨s₂, hrun₂, hst₂⟩ : ∃ s, (Sys.init 0 1452).run .quicGo ⟨false, 0x80, 0⟩
      retransmittedLoss = some (ok s) ∧ s.sendingState = .dataRecvd 1 :=
    ⟨_, rfl, by decide⟩
  have hs₁ := (Reachable.init 0 1452).run hrun₁
  have hs₂ := (Reachable.init 0 1452).run hrun₂
  exact ⟨⟨s₁, hs₁, hl₁, hst₁, (sending_states_follow_rfc hs₁).1⟩,
    s₂, hs₂, hst₂, (sending_states_follow_rfc hs₂).2 1 hst₂⟩

/-- A stream that completed without a cancellation delivered everything it framed: each byte
before the final size lies in exactly one acknowledged frame or PR_ACK_NOTIFY entry, and
exactly one of them carries FIN. -/
theorem completed_stream_delivered (hs : Reachable pc cfg s) (hdone : s.stream.completed = true)
    (hc : s.stream.canceledWrite = false) :
    (∀ k, ((ackedFrames s.log).map OutFrame.piece ++
        s.stream.prAckNotifyRetransmissionQueue.map Piece.ofNotify).countP (Piece.covers k) =
      if k < s.stream.writeOffset then 1 else 0) ∧
    ((ackedFrames s.log).map OutFrame.piece ++
        s.stream.prAckNotifyRetransmissionQueue.map Piece.ofNotify).countP Piece.fin = 1 := by
  obtain ⟨hfin, hpieces⟩ := Sys.pieces_of_completed hs hdone hc
  have hp := Partition.reachable hs hc
  rw [← hpieces]
  exact ⟨hp.cover, by rw [hp.fin, if_pos hfin]⟩

/-- With the probability policy, a byte popped and lost and a second byte acknowledged with the
FIN: the stream completes with the first byte given up. -/
theorem completed_stream_delivered_skipped : ∃ s, Reachable .quicGo .probability s ∧
    s.stream.completed = true ∧ s.stream.canceledWrite = false ∧
    (∀ k, ((ackedFrames s.log).map OutFrame.piece ++
        s.stream.prAckNotifyRetransmissionQueue.map Piece.ofNotify).countP (Piece.covers k) =
      if k < s.stream.writeOffset then 1 else 0) ∧
    ((ackedFrames s.log).map OutFrame.piece ++
        s.stream.prAckNotifyRetransmissionQueue.map Piece.ofNotify).countP Piece.fin = 1 := by
  obtain ⟨s, hrun, hdone, hc⟩ : ∃ s, (Sys.init 0 1452).run .quicGo .probability skippedLoss =
      some (ok s) ∧
      s.stream.completed = true ∧ s.stream.canceledWrite = false :=
    ⟨_, rfl, rfl, rfl⟩
  have hs := (Reachable.init 0 1452).run hrun
  exact ⟨s, hs, hdone, hc, completed_stream_delivered hs hdone hc⟩

/-- With PR disabled, a stream that completed without a cancellation has had every byte before
the final size acknowledged, in exactly one frame, and exactly one acknowledged frame carries
FIN. -/
theorem completed_stream_acknowledged (hcfg : cfg.enabled = false) (hs : Reachable pc cfg s)
    (hdone : s.stream.completed = true) (hc : s.stream.canceledWrite = false) :
    (∀ k, ((ackedFrames s.log).map OutFrame.piece).countP (Piece.covers k) =
      if k < s.stream.writeOffset then 1 else 0) ∧
    ((ackedFrames s.log).map OutFrame.piece).countP Piece.fin = 1 :=
  Sys.ackedFrames_partition hs hdone hc (Sys.PlainOnly.reachable hcfg hs).notify

/-- With PR disabled, a byte popped, lost and popped again, then acknowledged, and the FIN
acknowledged. -/
theorem completed_stream_acknowledged_retransmitted : ∃ s,
    Reachable .quicGo ⟨false, 0x80, 0⟩ s ∧
    s.stream.completed = true ∧ s.stream.canceledWrite = false ∧
    (∀ k, ((ackedFrames s.log).map OutFrame.piece).countP (Piece.covers k) =
      if k < s.stream.writeOffset then 1 else 0) ∧
    ((ackedFrames s.log).map OutFrame.piece).countP Piece.fin = 1 := by
  obtain ⟨s, hrun, hdone, hc⟩ : ∃ s, (Sys.init 0 1452).run .quicGo ⟨false, 0x80, 0⟩
      retransmittedLoss = some (ok s) ∧
      s.stream.completed = true ∧ s.stream.canceledWrite = false :=
    ⟨_, rfl, rfl, rfl⟩
  have hs := (Reachable.init 0 1452).run hrun
  exact ⟨s, hs, hdone, hc, completed_stream_acknowledged rfl hs hdone hc⟩

end Properties

end PrQuic.Stream
