import PrQuic.Stream.Log

/-!
# Flow control

The flow controller is modelled by its contract: `SendWindowSize()` is at most the limit less
the bytes sent, `AddBytesSent(n)` adds `n`, and `UpdateSendWindow` only raises the limit.  The
stream charges it exactly the data of the frames it originates, after the pop took at most
`SendWindowSize()` bytes, and never the data of a retransmission.  So the write offset is the
total charged and never passes the limit.
-/

namespace PrQuic.Stream

open Wire GoResult

/-- What the flow controller knows of a run. -/
structure FlowInvariant (s : Sys) : Prop where
  /-- every framed byte was charged to the flow controller -/
  sent : s.stream.flowController.bytesSent = s.stream.writeOffset
  /-- and the peer allowed it -/
  window : s.stream.writeOffset ≤ s.stream.flowController.sendWindow

namespace Sys

variable {pc : Protocol} {cfg : PRConfig}

/-- A pop charges the flow controller with the data of the frame it originates, which fits the
window it was given; a retransmission is not charged. -/
theorem pop_charges {s s' : Sys} {mb w : Nat} (hn : s.next pc cfg (.pop mb w) = some (ok s')) :
    w ≤ s.stream.flowController.sendWindow - s.stream.flowController.bytesSent ∧
      s'.stream.flowController.sendWindow = s.stream.flowController.sendWindow ∧
      ∃ fs, newFrames s'.log = newFrames s.log ++ fs ∧ (∀ f ∈ fs, f.data.length ≤ w) ∧
        (fs.map fun f => f.data.length).sum ≤ w ∧
        s'.stream.flowController.bytesSent =
          s.stream.flowController.bytesSent + (fs.map fun f => f.data.length).sum ∧
        s'.stream.writeOffset = s.stream.writeOffset + (fs.map fun f => f.data.length).sum := by
  obtain ⟨hw, r, hr, rfl⟩ := next_pop hn
  refine ⟨hw, ?_⟩
  obtain ⟨r0, hspec, rfl⟩ := SendStream.popStreamFrame_spec pc cfg hr
  cases hspec with
  | none fc more ups hsent hwin =>
    exact ⟨hwin, [], by simp, by simp, by simp, by simp [hsent], by simp⟩
  | retransmit f rest rq g hact hshut hq =>
    exact ⟨rfl, [], by simp [SendStream.popsRetransmission, hact, hshut, hq], by simp, by simp,
      by simp, by simp⟩
  | fin hact hshut hq =>
    refine ⟨rfl, [SendStream.outFrame cfg (SendStream.finFrame s.stream)], ?_, ?_, ?_, ?_, ?_⟩ <;>
      simp [SendStream.popsRetransmission, hq, SendStream.finFrame]
  | new d dfw nf g more wc hact hshut hq htake hoff hdata =>
    refine ⟨rfl, [SendStream.outFrame cfg g], ?_, ?_, ?_, ?_, ?_⟩ <;>
      simp [SendStream.popsRetransmission, hq, hdata, htake.window]

end Sys

namespace FlowInvariant

variable {pc : Protocol} {cfg : PRConfig}

theorem init (streamID initialWindow : Nat) : FlowInvariant (Sys.init streamID initialWindow) :=
  ⟨rfl, Nat.zero_le _⟩

theorem step {s s' : Sys} {e : Event} (h : FlowInvariant s)
    (hn : s.next pc cfg e = some (ok s')) : FlowInvariant s' := by
  obtain ⟨hsent, hwin⟩ := h
  cases e with
  | write p =>
    obtain ⟨nf, dfw, hst, -⟩ := Sys.next_write_stream hn
    exact ⟨by simp [hst, hsent], by simp [hst, hwin]⟩
  | wake b =>
    obtain ⟨nf, dfw, wc, hst, -⟩ := Sys.next_wake_stream hn
    exact ⟨by simp [hst, hsent], by simp [hst, hwin]⟩
  | close =>
    rw [Sys.next_close hn]
    unfold SendStream.close
    split_ifs <;> exact ⟨hsent, hwin⟩
  | cancelWrite c | stopSending c =>
    rcases Sys.next_cancel (c := c) (by simp) hn with ⟨-, rfl⟩ | ⟨-, err, rfl⟩ <;>
      exact ⟨hsent, hwin⟩
  | updateSendWindow l =>
    rw [Sys.next_updateSendWindow hn]
    obtain ⟨h1, h2⟩ := s.stream.flowController.updateSendWindow_bytesSent l
    exact ⟨by simp [Sys.withUpcalls, SendStream.updateSendWindow, h1, hsent],
      by simp only [Sys.withUpcalls, SendStream.updateSendWindow]; omega⟩
  | pop mb w =>
    obtain ⟨hw, hwin', fs, -, -, hsum, hsent', hoff'⟩ := Sys.pop_charges hn
    exact ⟨by omega, by omega⟩
  | acked i =>
    obtain ⟨f, st, ups, -, hr, rfl⟩ := Sys.next_acked hn
    rcases SendStream.onAcked_spec hr with ⟨-, rfl, -⟩ | ⟨-, -, b, hb, -⟩
    · exact ⟨hsent, hwin⟩
    · rw [SendStream.isNewlyCompleted_eq] at hb
      cases hb
      exact ⟨hsent, hwin⟩
  | lost i r =>
    obtain ⟨f, st, ups, -, hr, rfl⟩ := Sys.next_lost hn
    rcases SendStream.onLost_spec hr with ⟨-, rfl, -⟩ | ⟨-, -, -, ⟨g, -, rfl⟩ | ⟨n, -, rfl⟩⟩ <;>
      exact ⟨hsent, hwin⟩
  | _ =>
    simp only [Sys.next, Option.some.injEq, ok.injEq] at hn; subst hn
    exact ⟨hsent, hwin⟩

theorem reachable {s : Sys} (hs : Reachable pc cfg s) : FlowInvariant s :=
  Reachable.induction init (fun _ _ _ _ h hn => h.step hn) hs

end FlowInvariant

section Properties

variable {pc : Protocol} {cfg : PRConfig}

/-- The write offset is the total charged to the flow controller and never passes its limit;
a pop originates at most `SendWindowSize()` bytes, and it charges the flow controller with
exactly the bytes it originates, so retransmissions are never charged. -/
theorem flow_control_respected {s : Sys} (hs : Reachable pc cfg s) :
    s.stream.writeOffset = s.stream.flowController.bytesSent ∧
      s.stream.writeOffset ≤ s.stream.flowController.sendWindow ∧
      ∀ mb w s', s.next pc cfg (.pop mb w) = some (ok s') →
        ∃ fs, newFrames s'.log = newFrames s.log ++ fs ∧ (∀ f ∈ fs, f.data.length ≤ w) ∧
          s'.stream.flowController.bytesSent =
            s.stream.flowController.bytesSent + (fs.map fun f => f.data.length).sum := by
  have h := FlowInvariant.reachable hs
  refine ⟨h.sent.symm, h.window, fun mb w s' hn => ?_⟩
  obtain ⟨-, -, fs, hfs, hle, -, hsent, -⟩ := Sys.pop_charges hn
  exact ⟨fs, hfs, hle, hsent⟩

/-- A two-byte window frames two of three bytes and blocks the next pop; after the window
grows to three, a pop of the last byte keeps to it. -/
theorem flow_control_respected_blocked : ∃ s, Reachable .quicGo .shipped s ∧
    s.stream.writeOffset = 2 ∧ s.stream.flowController.sendWindow = 3 ∧
    (∃ s', s.next .quicGo .shipped (.pop 1452 1) = some (ok s') ∧
      (newFrames s'.log).map (fun f => f.data.length) = [2, 1]) ∧
    s.stream.writeOffset = s.stream.flowController.bytesSent ∧
      s.stream.writeOffset ≤ s.stream.flowController.sendWindow ∧
      ∀ mb w s', s.next .quicGo .shipped (.pop mb w) = some (ok s') →
        ∃ fs, newFrames s'.log = newFrames s.log ++ fs ∧ (∀ f ∈ fs, f.data.length ≤ w) ∧
          s'.stream.flowController.bytesSent =
            s.stream.flowController.bytesSent + (fs.map fun f => f.data.length).sum := by
  obtain ⟨s, hrun, hw, hsw, hpop⟩ : ∃ s, (Sys.init 0 2).run .quicGo .shipped
      [.write [0, 1, 2], .pop 1452 2, .pop 1452 0, .updateSendWindow 3] = some (ok s) ∧
      s.stream.writeOffset = 2 ∧ s.stream.flowController.sendWindow = 3 ∧
      ∃ s', s.next .quicGo .shipped (.pop 1452 1) = some (ok s') ∧
        (newFrames s'.log).map (fun f => f.data.length) = [2, 1] :=
    ⟨_, rfl, rfl, rfl, _, rfl, rfl⟩
  have hs := (Reachable.init 0 2).run hrun
  exact ⟨s, hs, hw, hsw, hpop, flow_control_respected hs⟩

end Properties

end PrQuic.Stream
