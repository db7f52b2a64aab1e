import PrQuic.Stream.Run

/-!
# What one step of a run does

One lemma per event says what the next state of a run is, in terms of the operation the event
runs, and one lemma per callback says what the callback does to the stream.  The invariants of
the later modules are proved from these and from the operations' own specifications
(`PopSpec`, `WriteSpec`), never by unfolding `Sys.next`.  `Reachable.induction` packages the
induction over runs once.
-/

namespace PrQuic.Stream

open Wire GoResult

namespace SendStream

variable {pc : Protocol} {s s' : SendStream} {ups : List Upcall}

theorem onAcked_spec {f : OutFrame} (h : s.onAcked pc f = ok (s', ups)) :
    s.canceledWrite = true ∧ s' = s ∧ ups = [] ∨
      s.canceledWrite = false ∧ 1 ≤ s.numOutstandingFrames ∧
        ∃ b, { s with numOutstandingFrames := s.numOutstandingFrames - 1 }.isNewlyCompleted =
          (b, s') ∧ ups = if b then [.onStreamCompleted] else [] := by
  cases f <;> exact frameAckedWith_spec h

/-- A lost frame goes back on the retransmission queue as `g`, with its range and FIN. -/
structure Requeued (f : OutFrame) (g : StreamFrame) : Prop where
  offset : g.offset = f.offset
  data : g.data = f.data
  fin : g.fin = f.fin

/-- A lost PR_STREAM frame is replaced by the notification `n`, with its range and FIN. -/
structure Notified (f : OutFrame) (n : PRAckNotifyFrame) : Prop where
  offset : n.offset = f.offset
  prDataLen : n.prDataLen = f.data.length
  fin : n.fin = f.fin

theorem queueRetransmission_spec {g : StreamFrame} (h : queueRetransmission g s = ok (s', ups)) :
    s.canceledWrite = true ∧ s' = s ∧ ups = [] ∨
      s.canceledWrite = false ∧ 1 ≤ s.numOutstandingFrames ∧ ups = [.onHasStreamData] ∧
        s' = { s with
          retransmissionQueue := s.retransmissionQueue ++ [{ g with dataLenPresent := true }]
          numOutstandingFrames := s.numOutstandingFrames - 1 } := by
  rcases queueRetransmissionWith_spec h with hc | ⟨hc, hn, rfl, rfl⟩
  · exact .inl hc
  · exact .inr ⟨hc, hn, rfl, rfl⟩

theorem onLost_spec {f : OutFrame} {r : Nat} (h : s.onLost f r = ok (s', ups)) :
    s.canceledWrite = true ∧ s' = s ∧ ups = [] ∨
      s.canceledWrite = false ∧ 1 ≤ s.numOutstandingFrames ∧ ups = [.onHasStreamData] ∧
        ((∃ g, Requeued f g ∧ s' = { s with
            retransmissionQueue := s.retransmissionQueue ++ [g]
            numOutstandingFrames := s.numOutstandingFrames - 1 }) ∨
          ∃ n, Notified f n ∧ s' = { s with
            prAckNotifyRetransmissionQueue := s.prAckNotifyRetransmissionQueue ++ [n]
            numOutstandingFrames := s.numOutstandingFrames - 1 }) := by
  cases f with
  | plain g =>
    rcases queueRetransmission_spec h with hc | ⟨hc, hn, rfl, rfl⟩
    · exact .inl hc
    · exact .inr ⟨hc, hn, rfl, .inl ⟨{ g with dataLenPresent := true }, ⟨rfl, rfl, rfl⟩, rfl⟩⟩
  | pr g =>
    simp only [onLost, prQueueRetransmission] at h
    split_ifs at h
    · rcases queueRetransmission_spec h with hc | ⟨hc, hn, rfl, rfl⟩
      · exact .inl hc
      · exact .inr ⟨hc, hn, rfl,
          .inl ⟨{ retransmissionOf g with dataLenPresent := true }, ⟨rfl, rfl, rfl⟩, rfl⟩⟩
    · rcases queueRetransmissionWith_spec h with hc | ⟨hc, hn, rfl, rfl⟩
      · exact .inl hc
      · exact .inr ⟨hc, hn, rfl, .inr ⟨_, ⟨rfl, rfl, rfl⟩, rfl⟩⟩

/-- The loss of a PR_STREAM frame on a stream that is not canceled: its notification is queued
when `ptdaC = 0x80` and the draw is below 128, and it is retransmitted as a STREAM frame
otherwise; either way `numOutstandingFrames` drops by one. -/
theorem prQueueRetransmission_spec {f : PRStreamFrame} {r : Nat} (hc : s.canceledWrite = false)
    (h : prQueueRetransmission f r s = ok (s', ups)) :
    1 ≤ s.numOutstandingFrames ∧ ups = [.onHasStreamData] ∧
      s' = if f.ptdaC = 0x80 ∧ r < 128 then
        { s with
          prAckNotifyRetransmissionQueue :=
            s.prAckNotifyRetransmissionQueue ++ [{ notifyOf f with dataLenPresent := true }]
          numOutstandingFrames := s.numOutstandingFrames - 1 }
      else
        { s with
          retransmissionQueue :=
            s.retransmissionQueue ++ [{ retransmissionOf f with dataLenPresent := true }]
          numOutstandingFrames := s.numOutstandingFrames - 1 } := by
  unfold prQueueRetransmission at h
  by_cases hd : f.ptdaC = 0x80 ∧ r < 128
  · rw [if_pos hd]
    rw [(prRetranEnabled_iff f r).mpr hd, Bool.not_true, if_neg Bool.false_ne_true] at h
    rcases queueRetransmissionWith_spec h with ⟨hc', -⟩ | ⟨-, hn, rfl, rfl⟩
    · simp [hc] at hc'
    · exact ⟨hn, rfl, rfl⟩
  · rw [if_neg hd]
    rw [Bool.eq_false_iff.mpr (mt (prRetranEnabled_iff f r).mp hd), Bool.not_false,
      if_pos rfl] at h
    rcases queueRetransmission_spec h with ⟨hc', -⟩ | ⟨-, hn, rfl, rfl⟩
    · simp [hc] at hc'
    · exact ⟨hn, rfl, rfl⟩

theorem putBack_ne_numOutstandingNegative (f : PRStreamFrame) :
    f.putBack pc ≠ .panic numOutstandingNegative := by
  unfold PRStreamFrame.putBack putPRStreamFrame
  split_ifs <;> simp [numOutstandingNegative]

theorem plainPutBack_ne_numOutstandingNegative (f : StreamFrame) :
    f.putBack pc ≠ .panic numOutstandingNegative := by
  unfold StreamFrame.putBack
  split_ifs <;> simp [numOutstandingNegative]

/-- A callback never finds the count negative while the frame it is called for is counted. -/
theorem onAcked_ne_panic {f : OutFrame} (hn : s.canceledWrite = false → 1 ≤ s.numOutstandingFrames) :
    s.onAcked pc f ≠ .panic numOutstandingNegative := by
  cases f with
  | plain g => exact frameAckedWith_ne_panic (plainPutBack_ne_numOutstandingNegative g) hn
  | pr g => exact frameAckedWith_ne_panic (putBack_ne_numOutstandingNegative g) hn

theorem onLost_ne_panic {f : OutFrame} {r : Nat}
    (hn : s.canceledWrite = false → 1 ≤ s.numOutstandingFrames) :
    s.onLost f r ≠ .panic numOutstandingNegative := by
  cases f with
  | plain g => apply queueRetransmissionWith_ne_panic; exact hn
  | pr g =>
    simp only [onLost, prQueueRetransmission]
    split_ifs <;> apply queueRetransmissionWith_ne_panic <;> exact hn

end SendStream

namespace Sys

variable {pc : Protocol} {cfg : PRConfig} {s s' : Sys}

@[simp] theorem afterWritePass_stream (p : List UInt8) (first : Bool) (r : SendStream × WriteStep) :
    (s.afterWritePass p first r).stream = r.1 := by
  rcases r with ⟨st, _ | _ | _⟩ <;> rfl

@[simp] theorem afterWritePass_inFlight (p : List UInt8) (first : Bool)
    (r : SendStream × WriteStep) : (s.afterWritePass p first r).inFlight = s.inFlight := by
  rcases r with ⟨st, _ | _ | _⟩ <;> rfl

@[simp] theorem afterWritePass_now (p : List UInt8) (first : Bool) (r : SendStream × WriteStep) :
    (s.afterWritePass p first r).now = s.now := by
  rcases r with ⟨st, _ | _ | _⟩ <;> rfl

theorem next_write {p : List UInt8} (h : s.next pc cfg (.write p) = some (ok s')) :
    s.writer = .idle ∧ ∃ r, s.stream.writeEntry pc s.now p = ok r ∧
      s' = s.afterWritePass p true r := by
  simp only [next] at h
  split at h
  · obtain ⟨r, hr, rfl⟩ := map_eq_ok.1 (Option.some.inj h)
    exact ⟨‹_›, r, hr, rfl⟩
  · cases h

theorem next_wake {byTimer : Bool} (h : s.next pc cfg (.wake byTimer) = some (ok s')) :
    ∃ p timer st r, s.writer = .waiting p timer ∧
      (byTimer = true ∧ timer ≠ 0 ∧ s.now ≥ timer ∧ st = s.stream ∨
        byTimer = false ∧ s.stream.writeChan = true ∧ st = { s.stream with writeChan := false }) ∧
      st.writeLoopIteration pc s.now p = ok r ∧ s' = s.afterWritePass p false r := by
  simp only [next] at h
  split at h
  · cases h
  · rename_i p timer hw
    split_ifs at h with hb ht hc <;> try cases h
    all_goals obtain ⟨r, hr, rfl⟩ := map_eq_ok.1 (Option.some.inj h)
    · exact ⟨p, timer, _, r, hw, .inl ⟨hb, ht.1, ht.2, rfl⟩, hr, rfl⟩
    · exact ⟨p, timer, _, r, hw, .inr ⟨by simpa using hb, hc, rfl⟩, hr, rfl⟩

theorem next_write_stream {p : List UInt8} (h : s.next pc cfg (.write p) = some (ok s')) :
    ∃ nf dfw, s'.stream = { s.stream with nextFrame := nf, dataForWriting := dfw } ∧
      s'.inFlight = s.inFlight := by
  obtain ⟨-, r, hr, rfl⟩ := next_write h
  obtain ⟨nf, dfw, h1⟩ := SendStream.writeEntry_frame pc hr
  exact ⟨nf, dfw, by simpa using h1, by simp⟩

theorem next_wake_stream {byTimer : Bool} (h : s.next pc cfg (.wake byTimer) = some (ok s')) :
    ∃ nf dfw wc, s'.stream =
      { s.stream with nextFrame := nf, dataForWriting := dfw, writeChan := wc } ∧
      s'.inFlight = s.inFlight := by
  obtain ⟨p, timer, st, r, -, hst, hr, rfl⟩ := next_wake h
  obtain ⟨nf, dfw, h1⟩ := (SendStream.writeLoopIteration_spec pc hr).frame
  rcases hst with ⟨-, -, -, rfl⟩ | ⟨-, -, rfl⟩
  · exact ⟨nf, dfw, s.stream.writeChan, by simpa using h1, by simp⟩
  · exact ⟨nf, dfw, false, by simpa using h1, by simp⟩

theorem next_close (h : s.next pc cfg .close = some (ok s')) :
    s' = { s with
      stream := s.stream.close.1
      log := s.log ++ s.stream.close.2.2.map .upcall ++ [.closeReturned s.stream.close.2.1] } := by
  simp only [next, Option.some.injEq, ok.injEq] at h
  exact h.symm

/-- `CancelWrite(c)` and a STOP_SENDING frame with code `c` both run `cancelWriteImpl`: a
canceled stream is left alone; any other is canceled, completed and emptied of
retransmissions, with a RESET_STREAM queued and, the first time, completion reported. -/
theorem next_cancel {e : Event} {c : Nat} (he : e = .cancelWrite c ∨ e = .stopSending c)
    (h : s.next pc cfg e = some (ok s')) :
    s.stream.canceledWrite = true ∧ s' = s ∨
      s.stream.canceledWrite = false ∧ ∃ err, s' = { s with
        stream := { s.stream with
          canceledWrite := true
          cancelWriteErr := some err
          numOutstandingFrames := 0
          retransmissionQueue := []
          completed := true
          writeChan := true }
        log := s.log ++
          (.queueControlFrame (.resetStream s.stream.streamID s.stream.writeOffset c) ::
            if s.stream.completed then [] else [.onStreamCompleted]).map .upcall } := by
  obtain ⟨err, rfl⟩ : ∃ err, s' = s.withUpcalls (s.stream.cancelWriteImpl c err).1
      (s.stream.cancelWriteImpl c err).2 := by
    rcases he with rfl | rfl <;> simp only [next, Option.some.injEq, ok.injEq] at h <;>
      exact ⟨_, h.symm⟩
  rw [SendStream.cancelWriteImpl_eq]
  cases hc : s.stream.canceledWrite
  · exact .inr ⟨rfl, err, by simp [withUpcalls]⟩
  · exact .inl ⟨rfl, by simp [withUpcalls]⟩

theorem next_updateSendWindow {l : Nat} (h : s.next pc cfg (.updateSendWindow l) = some (ok s')) :
    s' = s.withUpcalls (s.stream.updateSendWindow l).1 (s.stream.updateSendWindow l).2 := by
  simp only [next, Option.some.injEq, ok.injEq] at h
  exact h.symm

theorem next_pop {mb w : Nat} (h : s.next pc cfg (.pop mb w) = some (ok s')) :
    w ≤ s.stream.flowController.sendWindow - s.stream.flowController.bytesSent ∧
      ∃ r, s.stream.popStreamFrame pc cfg mb w = ok r ∧ s' = { s with
        stream := r.stream
        inFlight := s.inFlight ++ r.frame.toList
        log := s.log ++ (r.upcalls.map .upcall ++
          [.popped r.frame r.hasMoreData s.stream.popsRetransmission]) } := by
  simp only [next] at h
  split_ifs at h with hw
  · obtain ⟨r, hr, rfl⟩ := map_eq_ok.1 (Option.some.inj h)
    exact ⟨hw, r, hr, rfl⟩

theorem next_acked {i : Nat} (h : s.next pc cfg (.acked i) = some (ok s')) :
    ∃ f st ups, s.inFlight.get? i = some f ∧ s.stream.onAcked pc f = ok (st, ups) ∧
      s' = { s with
        stream := st
        inFlight := s.inFlight.eraseIdx i
        log := s.log ++ (.acked f :: ups.map .upcall) } := by
  simp only [next] at h
  split at h
  · cases h
  · rename_i f hf
    obtain ⟨⟨st, ups⟩, hr, rfl⟩ := map_eq_ok.1 (Option.some.inj h)
    exact ⟨f, st, ups, hf, hr, rfl⟩

theorem next_lost {i r : Nat} (h : s.next pc cfg (.lost i r) = some (ok s')) :
    ∃ f st ups, s.inFlight.get? i = some f ∧ s.stream.onLost f r = ok (st, ups) ∧
      s' = { s with
        stream := st
        inFlight := s.inFlight.eraseIdx i
        log := s.log ++ (.lost f :: ups.map .upcall) } := by
  simp only [next] at h
  split at h
  · cases h
  · rename_i f hf
    split_ifs at h
    obtain ⟨⟨st, ups⟩, hr, rfl⟩ := map_eq_ok.1 (Option.some.inj h)
    exact ⟨f, st, ups, hf, hr, rfl⟩

/-- Cancellation and shutdown are for good. -/
theorem flags_of_next {e : Event} (hn : s.next pc cfg e = some (ok s')) :
    (s.stream.canceledWrite = true → s'.stream.canceledWrite = true) ∧
      (s.stream.closedForShutdown = true → s'.stream.closedForShutdown = true) := by
  cases e with
  | write p =>
    obtain ⟨nf, dfw, hst, -⟩ := next_write_stream hn
    simp [hst]
  | wake b =>
    obtain ⟨nf, dfw, wc, hst, -⟩ := next_wake_stream hn
    simp [hst]
  | close =>
    rw [next_close hn]
    unfold SendStream.close
    split_ifs <;> simp
  | cancelWrite c | stopSending c =>
    rcases next_cancel (c := c) (by simp) hn with ⟨-, rfl⟩ | ⟨-, err, rfl⟩
    · exact ⟨id, id⟩
    · exact ⟨fun _ => rfl, id⟩
  | closeForShutdown err =>
    simp only [next, Option.some.injEq, ok.injEq] at hn; subst hn
    simp [SendStream.closeForShutdown]
  | pop mb w =>
    obtain ⟨-, r, hr, rfl⟩ := next_pop hn
    obtain ⟨r0, hspec, rfl⟩ := SendStream.popStreamFrame_spec pc cfg hr
    cases hspec <;> simp
  | acked i =>
    obtain ⟨f, st, ups, -, hr, rfl⟩ := next_acked hn
    rcases SendStream.onAcked_spec hr with ⟨-, rfl, -⟩ | ⟨-, -, b, hb, -⟩
    · exact ⟨id, id⟩
    · rw [SendStream.isNewlyCompleted_eq] at hb
      cases hb
      exact ⟨id, id⟩
  | lost i r =>
    obtain ⟨f, st, ups, -, hr, rfl⟩ := next_lost hn
    rcases SendStream.onLost_spec hr with ⟨-, rfl, -⟩ | ⟨-, -, -, ⟨g, -, rfl⟩ | ⟨n, -, rfl⟩⟩ <;>
      exact ⟨id, id⟩
  | tick | setWriteDeadline t | updateSendWindow l =>
    simp only [next, Option.some.injEq, ok.injEq] at hn; subst hn
    exact ⟨id, id⟩

end Sys

/-- An invariant that holds of every fresh stream and that every step keeps holds of every
reachable state. -/
theorem Reachable.induction {pc : Protocol} {cfg : PRConfig} {P : Sys → Prop}
    (init : ∀ streamID initialWindow, P (Sys.init streamID initialWindow))
    (step : ∀ s s' e, Reachable pc cfg s → P s → s.next pc cfg e = some (ok s') → P s')
    {s : Sys} (hs : Reachable pc cfg s) : P s := by
  induction hs with
  | init streamID initialWindow => exact init streamID initialWindow
  | step e hs hn ih => exact step _ _ e hs ih hn

/-- The same for the runs whose pops ask for budgets in the packet assembler's range. -/
theorem FramerReachable.induction {pc : Protocol} {cfg : PRConfig} {P : Sys → Prop}
    (init : ∀ streamID initialWindow, P (Sys.init streamID initialWindow))
    (step : ∀ s s' e, FramerReachable pc cfg s → P s → e.inFramerRange pc = true →
      s.next pc cfg e = some (ok s') → P s')
    {s : Sys} (hs : FramerReachable pc cfg s) : P s := by
  induction hs with
  | init streamID initialWindow => exact init streamID initialWindow
  | step e hs he hn ih => exact step _ _ e hs ih he hn

end PrQuic.Stream
