import PrQuic.Stream.State

/-!
# Callbacks and control operations

The loss detector calls `OnAcked` or `OnLost` on every frame handed out: `frameAcked` or
`queueRetransmission` for a STREAM frame, `prStreamframeAcked` or `prQueueRetransmission` for a
PR_STREAM frame, whose loss the PR policy either retransmits or replaces with a PR_ACK_NOTIFY
frame.  Completion is reported once, through `isNewlyCompleted`.  `Close`, `CancelWrite`,
`handleStopSendingFrame`, `closeForShutdown`, `SetWriteDeadline` and `updateSendWindow` complete
the control surface; each returns the stream and the calls it then makes on the connection.
-/

namespace PrQuic.Stream

open Wire GoResult

/-- The message of the panic on a negative count of outstanding frames. -/
def numOutstandingNegative : String := "numOutStandingFrames negative"

namespace SendStream

variable (pc : Protocol)

/-- `isNewlyCompleted`: the completion predicate, reported at most once. -/
def isNewlyCompleted (s : SendStream) : Bool × SendStream :=
  let completed := (s.finSent || s.canceledWrite) && s.numOutstandingFrames == 0 &&
    s.retransmissionQueue.isEmpty
  if completed && !s.completed then (true, { s with completed := true }) else (false, s)

/-- The body shared by `frameAcked` and `prStreamframeAcked`, after the frame's buffer went
back to its pool with `putBack`. -/
def frameAckedWith (putBack : GoResult Unit) (s : SendStream) :
    GoResult (SendStream × List Upcall) := do
  putBack
  if s.canceledWrite then pure (s, [])
  else
    let s := { s with numOutstandingFrames := s.numOutstandingFrames - 1 }
    if s.numOutstandingFrames < 0 then .panic numOutstandingNegative
    else
      let (newlyCompleted, s) := isNewlyCompleted s
      pure (s, if newlyCompleted then [.onStreamCompleted] else [])

/-- `frameAcked`. -/
def frameAcked (f : StreamFrame) (s : SendStream) : GoResult (SendStream × List Upcall) :=
  frameAckedWith (f.putBack pc) s

/-- `prStreamframeAcked`. -/
def prStreamframeAcked (f : PRStreamFrame) (s : SendStream) :
    GoResult (SendStream × List Upcall) :=
  frameAckedWith (f.putBack pc) s

/-- The body shared by `queueRetransmission` and `prAckNotifyQueueRetransmission`: `enqueue`
puts the lost frame, or the notification in its place, on its queue. -/
def queueRetransmissionWith (enqueue : SendStream → SendStream) (s : SendStream) :
    GoResult (SendStream × List Upcall) :=
  if s.canceledWrite then ok (s, [])
  else
    let s := enqueue s
    let s := { s with numOutstandingFrames := s.numOutstandingFrames - 1 }
    if s.numOutstandingFrames < 0 then .panic numOutstandingNegative
    else ok (s, [.onHasStreamData])

/-- `queueRetransmission`: the lost frame, with its length made explicit, joins the
retransmission queue. -/
def queueRetransmission (f : StreamFrame) (s : SendStream) :
    GoResult (SendStream × List Upcall) :=
  queueRetransmissionWith (fun s => { s with
    retransmissionQueue := s.retransmissionQueue ++ [{ f with dataLenPresent := true }] }) s

/-- `prAckNotifyQueueRetransmission`: the notification joins the PR_ACK_NOTIFY queue. -/
def prAckNotifyQueueRetransmission (f : PRAckNotifyFrame) (s : SendStream) :
    GoResult (SendStream × List Upcall) :=
  queueRetransmissionWith (fun s => { s with
    prAckNotifyRetransmissionQueue :=
      s.prAckNotifyRetransmissionQueue ++ [{ f with dataLenPresent := true }] }) s

/-- The decision of `prQueueRetransmission`, with `r` the value of `rand.Intn(10000)`.  The
`switch` is on `frame.PtdaC`, and only its `0x80` case acts: retransmission is skipped when
`int(frame.PtdaC)`, that is 128, exceeds `r`. -/
def prRetranEnabled (f : PRStreamFrame) (r : Nat) : Bool :=
  if f.ptdaC = 0x80 then decide (f.ptdaC > r) else false

/-- The STREAM frame `prQueueRetransmission` retransmits in place of `f`. -/
def retransmissionOf (f : PRStreamFrame) : StreamFrame :=
  { streamID := f.streamID, offset := f.offset, data := f.data, fin := f.fin,
    dataLenPresent := f.dataLenPresent, cap := f.cap }

/-- The PR_ACK_NOTIFY frame `prQueueRetransmission` queues in place of `f`. -/
def notifyOf (f : PRStreamFrame) : PRAckNotifyFrame :=
  { streamID := f.streamID, offset := f.offset, prDataLen := f.data.length, fin := f.fin,
    dataLenPresent := f.dataLenPresent, ptda := f.ptda, p := f.p, t := f.t, d := f.d,
    a := f.a, ptdaC := f.ptdaC }

/-- `prQueueRetransmission`, with `r` the random draw. -/
def prQueueRetransmission (f : PRStreamFrame) (r : Nat) (s : SendStream) :
    GoResult (SendStream × List Upcall) :=
  if !prRetranEnabled f r then queueRetransmission (retransmissionOf f) s
  else prAckNotifyQueueRetransmission (notifyOf f) s

/-- `cancelWriteImpl`: the stream is canceled with `writeErr`, what it holds for the peer is
dropped, and a RESET_STREAM at the current write offset is queued. -/
def cancelWriteImpl (errorCode : Nat) (writeErr : StreamError) (s : SendStream) :
    SendStream × List Upcall :=
  if s.canceledWrite then (s, [])
  else
    let s := { s with
      canceledWrite := true
      cancelWriteErr := some writeErr
      numOutstandingFrames := 0
      retransmissionQueue := [] }
    let (newlyCompleted, s) := isNewlyCompleted s
    let s := signalWrite s
    (s, .queueControlFrame (.resetStream s.streamID s.writeOffset errorCode) ::
      if newlyCompleted then [.onStreamCompleted] else [])

/-- `CancelWrite`. -/
def cancelWrite (errorCode : Nat) (s : SendStream) : SendStream × List Upcall :=
  cancelWriteImpl errorCode (.writeCanceled s.streamID errorCode) s

/-- `handleStopSendingFrame`: the peer's STOP_SENDING cancels the stream with its code. -/
def handleStopSendingFrame (errorCode : Nat) (s : SendStream) : SendStream × List Upcall :=
  cancelWriteImpl errorCode (.stopSending s.streamID errorCode) s

/-- `Close`. -/
def close (s : SendStream) : SendStream × Option StreamError × List Upcall :=
  if s.closedForShutdown then (s, none, [])
  else if s.canceledWrite then (s, some (.closeCanceled s.streamID), [])
  else ({ s with finishedWriting := true }, none, [.onHasStreamData])

/-- `closeForShutdown(err)`: abrupt, and the peer is not told. -/
def closeForShutdown (err : Option StreamError) (s : SendStream) : SendStream :=
  signalWrite { s with closedForShutdown := true, closeForShutdownErr := err }

/-- `SetWriteDeadline(t)`. -/
def setWriteDeadline (t : Nat) (s : SendStream) : SendStream :=
  signalWrite { s with deadline := t }

/-- `updateSendWindow(limit)`. -/
def updateSendWindow (limit : Nat) (s : SendStream) : SendStream × List Upcall :=
  let hasStreamData := !s.dataForWriting.isEmpty || s.nextFrame.isSome
  ({ s with flowController := s.flowController.updateSendWindow limit },
    if hasStreamData then [.onHasStreamData] else [])

/-! ## What the callbacks do -/

/-- The loss decision reads `ptdaC` only: retransmission is skipped exactly when `ptdaC` is
`0x80` and the draw is below 128, whatever the policy byte. -/
theorem prRetranEnabled_iff (f : PRStreamFrame) (r : Nat) :
    prRetranEnabled f r = true ↔ f.ptdaC = 0x80 ∧ r < 128 := by
  unfold prRetranEnabled
  split_ifs with h <;> simp [h]

theorem isNewlyCompleted_eq (s : SendStream) :
    s.isNewlyCompleted =
      let c := (s.finSent || s.canceledWrite) && s.numOutstandingFrames == 0 &&
        s.retransmissionQueue.isEmpty
      (c && !s.completed, { s with completed := s.completed || c }) := by
  cases s
  unfold isNewlyCompleted
  dsimp only
  split_ifs <;> simp_all

/-- `cancelWriteImpl` completes the stream it cancels: nothing is outstanding any more. -/
theorem cancelWriteImpl_eq (c : Nat) (e : StreamError) (s : SendStream) :
    cancelWriteImpl c e s = if s.canceledWrite then (s, []) else
      ({ s with
          canceledWrite := true
          cancelWriteErr := some e
          numOutstandingFrames := 0
          retransmissionQueue := []
          completed := true
          writeChan := true },
        .queueControlFrame (.resetStream s.streamID s.writeOffset c) ::
          if s.completed then [] else [.onStreamCompleted]) := by
  unfold cancelWriteImpl
  by_cases hc : s.canceledWrite = true
  · simp only [if_pos hc]
  · simp only [if_neg hc]
    rw [isNewlyCompleted_eq]
    cases s.completed <;> simp

theorem frameAckedWith_spec {pb : GoResult Unit} {s s' : SendStream} {ups : List Upcall}
    (h : frameAckedWith pb s = ok (s', ups)) :
    s.canceledWrite = true ∧ s' = s ∧ ups = [] ∨
      s.canceledWrite = false ∧ 1 ≤ s.numOutstandingFrames ∧
        ∃ b, { s with numOutstandingFrames := s.numOutstandingFrames - 1 }.isNewlyCompleted =
          (b, s') ∧ ups = if b then [.onStreamCompleted] else [] := by
  obtain ⟨⟨⟩, -, h⟩ := bind_eq_ok.1 h
  by_cases hc : s.canceledWrite = true
  · rw [if_pos hc] at h; cases h; exact .inl ⟨hc, rfl, rfl⟩
  rw [if_neg hc] at h
  dsimp only at h
  by_cases hn : s.numOutstandingFrames - 1 < 0
  · rw [if_pos hn] at h; cases h
  rw [if_neg hn] at h
  rcases hb : isNewlyCompleted { s with numOutstandingFrames := s.numOutstandingFrames - 1 }
    with ⟨b, t⟩
  rw [hb] at h
  cases h
  exact .inr ⟨by simpa using hc, by omega, b, rfl, rfl⟩

/-- The count's check in `frameAcked` fails only when the count is already zero. -/
theorem frameAckedWith_ne_panic {pb : GoResult Unit} {s : SendStream}
    (hpb : pb ≠ .panic numOutstandingNegative)
    (hn : s.canceledWrite = false → 1 ≤ s.numOutstandingFrames) :
    frameAckedWith pb s ≠ .panic numOutstandingNegative := by
  rcases pb with ⟨⟩ | e | m
  · unfold frameAckedWith
    simp only [ok_bind]
    by_cases hc : s.canceledWrite = true
    · simp [hc]
    rw [if_neg hc]
    have := hn (by simpa using hc)
    rw [if_neg (by omega)]
    simp
  · simp [frameAckedWith]
  · simpa [frameAckedWith] using hpb

/-- An acknowledgement whose `PutBack` returns, on a stream that counts the frame, never
panics. -/
theorem frameAckedWith_not_isPanic {s : SendStream}
    (hn : s.canceledWrite = false → 1 ≤ s.numOutstandingFrames) :
    ¬(frameAckedWith (ok ()) s).IsPanic := by
  unfold frameAckedWith
  simp only [ok_bind]
  by_cases hc : s.canceledWrite = true
  · simp [hc]
  rw [if_neg hc]
  have := hn (by simpa using hc)
  rw [if_neg (by omega)]
  simp

theorem queueRetransmissionWith_spec {enqueue : SendStream → SendStream} {s s' : SendStream}
    {ups : List Upcall} (h : queueRetransmissionWith enqueue s = ok (s', ups)) :
    s.canceledWrite = true ∧ s' = s ∧ ups = [] ∨
      s.canceledWrite = false ∧ 1 ≤ (enqueue s).numOutstandingFrames ∧
        s' = { enqueue s with numOutstandingFrames := (enqueue s).numOutstandingFrames - 1 } ∧
        ups = [.onHasStreamData] := by
  unfold queueRetransmissionWith at h
  dsimp only at h
  split_ifs at h with hc hn <;> cases h
  · exact .inl ⟨hc, rfl, rfl⟩
  · exact .inr ⟨by simpa using hc, by omega, rfl, rfl⟩

/-- The count's check in `queueRetransmission` fails only when the count is already zero. -/
theorem queueRetransmissionWith_ne_panic {enqueue : SendStream → SendStream} {s : SendStream}
    (hn : s.canceledWrite = false → 1 ≤ (enqueue s).numOutstandingFrames) :
    queueRetransmissionWith enqueue s ≠ .panic numOutstandingNegative := by
  unfold queueRetransmissionWith
  dsimp only
  split_ifs with hc hneg
  · simp
  · have := hn (by simpa using hc); omega
  · simp

end SendStream

end PrQuic.Stream
