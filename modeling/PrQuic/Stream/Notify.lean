import PrQuic.Stream.Log

/-!
# PR_ACK_NOTIFY entries are never sent

When the probability policy skips the retransmission of a lost PR_STREAM frame, the frame is
replaced by a PR_ACK_NOTIFY entry on `prAckNotifyRetransmissionQueue`.  Nothing takes an entry
off that queue: `popStreamFrame` reads the retransmission queue and the data to frame, never the
notifications, and `isNewlyCompleted` does not look at them either.  So the queue only grows
(`Sys.notifyQueue_grows`), new data is framed past a pending notification, and completion is
reported while one is pending.
-/

namespace PrQuic.Stream

open Wire GoResult

namespace Sys

variable {pc : Protocol} {cfg : PRConfig} {s s' : Sys}

/-- No step removes or reorders a queued notification; only a skipped loss appends one. -/
theorem notifyQueue_grows {e : Event} (hn : s.next pc cfg e = some (ok s')) :
    s.stream.prAckNotifyRetransmissionQueue <+: s'.stream.prAckNotifyRetransmissionQueue := by
  cases e with
  | write p =>
    obtain ⟨nf, dfw, hst, -⟩ := next_write_stream hn
    simp [hst]
  | wake b =>
    obtain ⟨nf, dfw, wc, hst, -⟩ := next_wake_stream hn
    simp [hst]
  | close =>
    rw [next_close hn]
    unfold SendStream.close
    split_ifs <;> exact List.prefix_refl _
  | cancelWrite c | stopSending c =>
    rcases next_cancel (c := c) (by simp) hn with ⟨-, rfl⟩ | ⟨-, err, rfl⟩ <;>
      exact List.prefix_refl _
  | pop mb w =>
    obtain ⟨-, r, hr, rfl⟩ := next_pop hn
    obtain ⟨r0, hspec, rfl⟩ := SendStream.popStreamFrame_spec pc cfg hr
    cases hspec <;> simp
  | acked i =>
    obtain ⟨f, st, ups, -, hr, rfl⟩ := next_acked hn
    rcases SendStream.onAcked_spec hr with ⟨-, rfl, -⟩ | ⟨-, -, b, hb, -⟩
    · exact List.prefix_refl _
    · rw [SendStream.isNewlyCompleted_eq] at hb
      cases hb
      exact List.prefix_refl _
  | lost i r =>
    obtain ⟨f, st, ups, -, hr, rfl⟩ := next_lost hn
    rcases SendStream.onLost_spec hr with ⟨-, rfl, -⟩ | ⟨-, -, -, ⟨g, -, rfl⟩ | ⟨n, -, rfl⟩⟩
    · exact List.prefix_refl _
    · exact List.prefix_refl _
    · exact List.prefix_append _ _
  | tick | closeForShutdown err | setWriteDeadline t | updateSendWindow l =>
    simp only [next, Option.some.injEq, ok.injEq] at hn; subst hn
    exact List.prefix_refl _

end Sys

section Properties

/-- A byte written and popped as a PR_STREAM frame whose loss is skipped, then a second byte
written. -/
def skippedFirstLoss : List Event := [.write [0], .pop 1452 1, .lost 0 0, .write [1]]

/-- The rest of the stream after `skippedFirstLoss`: the second byte popped, `Close`, the FIN
popped, and both frames acknowledged. -/
def completedPastNotification : List Event :=
  [.pop 1452 1, .close, .pop 1452 1, .acked 0, .acked 0]

/-- With the probability policy and `PtadC = 0x80`, a PR_ACK_NOTIFY entry stays queued while
the stream is neither canceled nor shut down: a pop then frames new data past it, and later
`onStreamCompleted` is called with it still queued. -/
theorem notification_stranded :
    (∃ s s' f, Reachable .quicGo .probability s ∧ s.stream.canceledWrite = false ∧
      s.stream.closedForShutdown = false ∧ s.stream.prAckNotifyRetransmissionQueue ≠ [] ∧
      s.next .quicGo .probability (.pop 1452 1) = some (ok s') ∧
      newFrames s'.log = newFrames s.log ++ [f] ∧ f.data ≠ []) ∧
    ∃ s, Reachable .quicGo .probability s ∧ s.stream.canceledWrite = false ∧
      s.stream.closedForShutdown = false ∧ s.stream.prAckNotifyRetransmissionQueue ≠ [] ∧
      completions s.log = 1 := by
  obtain ⟨s, hrun, s', hn, hs⟩ : ∃ s, (Sys.init 0 1452).run .quicGo .probability
      skippedFirstLoss = some (ok s) ∧ ∃ s', s.next .quicGo .probability (.pop 1452 1) =
        some (ok s') ∧ s.stream.canceledWrite = false ∧ s.stream.closedForShutdown = false ∧
        s.stream.prAckNotifyRetransmissionQueue ≠ [] ∧
        newFrames s'.log = newFrames s.log ++ [.pr
          { streamID := 0, offset := 1, data := [1], dataLenPresent := true, ptda := 0x80
            p := true, ptdaC := 0x80, cap := 1452 }] :=
    ⟨_, rfl, _, rfl, by decide⟩
  obtain ⟨t, hrun', ht⟩ : ∃ t, (Sys.init 0 1452).run .quicGo .probability
      (skippedFirstLoss ++ completedPastNotification) = some (ok t) ∧
      t.stream.canceledWrite = false ∧ t.stream.closedForShutdown = false ∧
      t.stream.prAckNotifyRetransmissionQueue ≠ [] ∧ completions t.log = 1 :=
    ⟨_, rfl, by decide⟩
  exact ⟨⟨s, s', _, (Reachable.init 0 1452).run hrun, hs.1, hs.2.1, hs.2.2.1, hn, hs.2.2.2,
    by simp⟩, t, (Reachable.init 0 1452).run hrun', ht⟩

/-- The probability policy with `PtadC = 5000`: the spec's threshold for skipping the
retransmission of half of the lost frames. -/
def PRConfig.halfSkipped : PRConfig := ⟨true, 0x80, 5000⟩

/-- The loss decision reads `ptdaC`, not the policy byte.  For every frame in flight lost on a
stream that is not canceled, the notification is queued exactly when `ptdaC = 0x80` and the draw
is below 128, the frame is retransmitted otherwise, and `numOutstandingFrames` drops by one.  So
a probability-policy frame with `ptdaC = 5000`, handed out by a pop, is retransmitted at the
draw `0`. -/
theorem loss_decision_reads_ptdaC :
    (∀ (pc : Protocol) (cfg : PRConfig) (s s' : Sys) (i r : Nat) (f : PRStreamFrame),
      s.stream.canceledWrite = false → s.inFlight.get? i = some (.pr f) →
      s.next pc cfg (.lost i r) = some (ok s') →
      s'.stream.numOutstandingFrames + 1 = s.stream.numOutstandingFrames ∧
      if f.ptdaC = 0x80 ∧ r < 128 then
        s'.stream.prAckNotifyRetransmissionQueue = s.stream.prAckNotifyRetransmissionQueue ++
          [{ SendStream.notifyOf f with dataLenPresent := true }] ∧
        s'.stream.retransmissionQueue = s.stream.retransmissionQueue
      else
        s'.stream.retransmissionQueue = s.stream.retransmissionQueue ++
          [{ SendStream.retransmissionOf f with dataLenPresent := true }] ∧
        s'.stream.prAckNotifyRetransmissionQueue = s.stream.prAckNotifyRetransmissionQueue) ∧
    ∃ s f, Reachable .quicGo .halfSkipped s ∧ s.stream.canceledWrite = false ∧
      s.inFlight = [.pr f] ∧ f.ptda = 0x80 ∧ f.p = true ∧ f.ptdaC = 5000 := by
  refine ⟨fun pc cfg s s' i r f hc hf hn => ?_, ?_⟩
  · obtain ⟨g, st, ups, hg, hr, rfl⟩ := Sys.next_lost hn
    obtain rfl : g = .pr f := Option.some.inj (hg.symm.trans hf)
    obtain ⟨hn1, -, rfl⟩ := SendStream.prQueueRetransmission_spec hc hr
    split_ifs <;> simp
  · obtain ⟨s, hrun, hs⟩ : ∃ s, (Sys.init 0 1452).run .quicGo .halfSkipped
        [.write [0], .pop 1452 1] = some (ok s) ∧ s.stream.canceledWrite = false ∧
        s.inFlight = [.pr
          { streamID := 0, offset := 0, data := [0], dataLenPresent := true, ptda := 0x80,
            p := true, ptdaC := 5000, cap := 1452 }] :=
      ⟨_, rfl, by decide⟩
    exact ⟨s, _, (Reachable.init 0 1452).run hrun, hs.1, hs.2, rfl, rfl, rfl⟩

end Properties

end PrQuic.Stream
