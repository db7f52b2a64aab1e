import PrQuic.Stream.Progress
import PrQuic.Stream.BlockedWrite

/-!
# A blocked `Write` returns

`Write` blocks on `writeChan`, and on its deadline timer when a deadline is set, with the mutex
released.  Whatever blocks it, something returns it.  The pops that frame what it offered
signal `writeChan` (`Stream.BlockedWrite`), and the wake-up that follows returns the call with
all of `p`.  Once the clock reaches the deadline the timer was armed for, the timer's wake-up
returns it.  A cancellation, a STOP_SENDING frame, a shutdown, or a deadline set in the past
signals `writeChan` and stops the loop, so the next wake-up returns it with no pop at all
(`Event.stopsWrite`).
-/

namespace PrQuic.Stream

open Wire GoResult

namespace SendStream

variable (pc : Protocol)

theorem bufferDataForWriting_ne_err (s : SendStream) (e : GoError) :
    bufferDataForWriting pc s ≠ err e := by
  unfold bufferDataForWriting
  split <;> (try dsimp only) <;> split_ifs <;> simp

/-- A pass of `Write`'s loop never returns an error: it panics, or returns with its step. -/
theorem writeLoopIteration_ne_err (s : SendStream) (now : Nat) (p : List UInt8) (e : GoError) :
    writeLoopIteration pc s now p ≠ err e := by
  unfold writeLoopIteration
  dsimp only
  split_ifs
  · exact bind_ne_err (bufferDataForWriting_ne_err pc s) (fun _ _ => by simp) e
  all_goals simp

/-- A pass of `Write`'s loop once everything offered was framed returns the whole of `p`,
with `errDeadline` when the deadline has passed. -/
theorem writeLoopIteration_drained {s : SendStream} (now : Nat) (p : List UInt8)
    (hd : s.dataForWriting = []) :
    writeLoopIteration pc s now p = ok (s, .returned p.length
      (if s.deadline ≠ 0 ∧ now ≥ s.deadline then some .deadline else none)) := by
  unfold writeLoopIteration
  rw [if_neg (by simp [hd])]
  simp only [hd, List.isEmpty_nil, List.length_nil, Nat.sub_zero, Bool.true_or, if_true]
  split_ifs
  · rw [← hd]
  · simp [writeError]

/-- A pass of `Write`'s loop on a stream that is canceled or shut down, or past its deadline,
returns the call. -/
theorem writeLoopIteration_stopped {s : SendStream} (now : Nat) (p : List UInt8)
    (hp : NextFramePooled pc s)
    (hstop : s.canceledWrite = true ∨ s.closedForShutdown = true ∨
      (s.deadline ≠ 0 ∧ now ≥ s.deadline)) :
    ∃ r, writeLoopIteration pc s now p = ok r ∧ ∀ t, r.2 ≠ .wait t := by
  obtain ⟨r, hr⟩ := eq_ok_of_not_isPanic (writeLoopIteration_not_isPanic pc now p hp)
    (writeLoopIteration_ne_err pc s now p)
  refine ⟨r, hr, fun t ht => ?_⟩
  cases writeLoopIteration_spec pc hr with
  | wait _ hd _ hc hs => rcases hstop with h | h | h <;> simp_all
  | _ => cases ht

end SendStream

namespace Sys

variable {pc : Protocol} {cfg : PRConfig} {s : Sys}

/-- A writer blocked on a stream with nothing left offered is woken through `writeChan`, and the
wake-up returns its call. -/
theorem wake_returns (hs : Reachable pc cfg s) {p : List UInt8} {t : Nat}
    (hw : s.writer = .waiting p t) (hd : s.stream.dataForWriting = []) :
    ∃ s', s.next pc cfg (.wake false) = some (ok s') ∧ s'.writer = .idle ∧
      s'.log = s.log ++ [.writeReturned p p.length
        (if s.stream.deadline ≠ 0 ∧ s.now ≥ s.stream.deadline then some .deadline else none)] := by
  have hchan : s.stream.writeChan = true := by
    by_contra h
    exact (writerAwaitsPop_reachable hs p t hw (by simpa using h)).2.2.1 hd
  refine ⟨{ s with
    stream := { s.stream with writeChan := false }
    writer := .idle
    log := s.log ++ [.writeReturned p p.length
      (if s.stream.deadline ≠ 0 ∧ s.now ≥ s.stream.deadline then some .deadline else none)] },
    ?_, rfl, rfl⟩
  simp only [next, hw, hchan, if_true, Bool.false_eq_true, if_false]
  rw [SendStream.writeLoopIteration_drained pc (s := { s.stream with writeChan := false }) _ p hd]
  rfl

theorem run_ticks (k : Nat) :
    s.run pc cfg (List.replicate k .tick) = some (ok { s with now := s.now + k }) := by
  induction k generalizing s with
  | zero => rfl
  | succ k ih =>
    rw [List.replicate_succ, run]
    simp only [next, ih, Nat.add_right_comm _ 1 k, Nat.add_assoc]

/-- Once the clock has reached the deadline its timer was armed for, the timer's wake-up returns
a blocked `Write`: with `errDeadline`, or with all of `p` when the pass could still copy it
behind the buffered frame. -/
theorem timer_wake_returns (hs : Reachable pc cfg s) {p : List UInt8} {t : Nat}
    (hw : s.writer = .waiting p t) (ht : t ≠ 0) (hnow : t ≤ s.now) (hd : s.stream.deadline = t) :
    ∃ s', s.next pc cfg (.wake true) = some (ok s') ∧ s'.writer = .idle ∧ ∃ n e,
      s'.log = s.log ++ [.writeReturned p n e] ∧ (e = some .deadline ∨ n = p.length ∧ e = none) := by
  obtain ⟨r, hr⟩ := eq_ok_of_not_isPanic
    (SendStream.writeLoopIteration_not_isPanic pc s.now p (nextFramePooled_reachable hs))
    (SendStream.writeLoopIteration_ne_err pc s.stream s.now p)
  refine ⟨_, by simp only [next, hw, if_true]; rw [if_pos ⟨ht, hnow⟩, hr]; rfl, ?_⟩
  have hpassed : s.stream.deadline ≠ 0 ∧ s.now ≥ s.stream.deadline := hd ▸ ⟨ht, hnow⟩
  cases SendStream.writeLoopIteration_spec pc hr with
  | copied => exact ⟨rfl, _, _, rfl, .inr ⟨rfl, rfl⟩⟩
  | deadline => exact ⟨rfl, _, _, rfl, .inl rfl⟩
  | returned hdl => exact absurd hpassed hdl
  | wait _ hdl => exact absurd hpassed hdl

theorem afterWritePass_returned {p : List UInt8} {r : SendStream × WriteStep}
    (hr : ∀ t, r.2 ≠ .wait t) :
    (s.afterWritePass p false r).writer = .idle ∧ ∃ n e,
      (s.afterWritePass p false r).log.getLast? = some (.writeReturned p n e) := by
  rcases r with ⟨st, _ | ⟨n, e⟩ | t⟩
  · exact ⟨rfl, p.length, none, by simp [afterWritePass]⟩
  · exact ⟨rfl, n, e, by simp [afterWritePass]⟩
  · exact absurd rfl (hr t)

/-- A cancellation or a STOP_SENDING frame while a writer is blocked cancels the stream and
signals `writeChan`, or finds the token of the blocked writer still pending. -/
theorem cancel_signals_writer (hs : Reachable pc cfg s) {p : List UInt8} {t : Nat}
    (hw : s.writer = .waiting p t) {c : Nat} {e : Event}
    (he : e = .cancelWrite c ∨ e = .stopSending c) :
    ∃ s₁, s.next pc cfg e = some (ok s₁) ∧ s₁.writer = s.writer ∧ s₁.stream.writeChan = true ∧
      s₁.stream.canceledWrite = true := by
  obtain ⟨s₁, hn⟩ : ∃ s₁, s.next pc cfg e = some (ok s₁) := by
    rcases he with rfl | rfl <;> exact ⟨_, rfl⟩
  refine ⟨s₁, hn, ?_⟩
  rcases Sys.next_cancel he hn with ⟨hc, rfl⟩ | ⟨-, err, rfl⟩
  · refine ⟨rfl, ?_, hc⟩
    by_contra h
    simp [(Sys.writerAwaitsPop_reachable hs p t hw (by simpa using h)).1] at hc
  · exact ⟨rfl, rfl, rfl⟩

/-- A wake-up through `writeChan` of a writer blocked on a stream that is canceled or shut down,
or past its deadline, returns the call. -/
theorem stopped_wake_returns (hs : Reachable pc cfg s) {p : List UInt8} {t : Nat}
    (hw : s.writer = .waiting p t) (hchan : s.stream.writeChan = true)
    (hstop : s.stream.canceledWrite = true ∨ s.stream.closedForShutdown = true ∨
      (s.stream.deadline ≠ 0 ∧ s.now ≥ s.stream.deadline)) :
    ∃ s', s.next pc cfg (.wake false) = some (ok s') ∧ s'.writer = .idle ∧ ∃ n e,
      s'.log.getLast? = some (.writeReturned p n e) := by
  obtain ⟨r, hr, hnw⟩ := SendStream.writeLoopIteration_stopped pc
    (s := { s.stream with writeChan := false }) s.now p (nextFramePooled_reachable hs) hstop
  refine ⟨s.afterWritePass p false r, ?_, afterWritePass_returned hnw⟩
  simp only [next, hw, hchan, if_true, Bool.false_eq_true, if_false]
  rw [hr]
  rfl

end Sys

/-- The events after which a blocked `Write` returns at its next wake-up: a cancellation, a
STOP_SENDING frame, a shutdown, and a write deadline set at or before `now`. -/
def Event.stopsWrite (now : Nat) : Event → Bool
  | .cancelWrite _ | .stopSending _ | .closeForShutdown _ => true
  | .setWriteDeadline d => d ≠ 0 && d ≤ now
  | _ => false

section Properties

variable {pc : Protocol} {cfg : PRConfig} {s : Sys}

/-- A `Write` blocked on a stream that is neither canceled nor shut down, and whose window
covers the data it holds, returns: at most `leftToFrame` pops with a budget in the packet
assembler's range, each given the whole window left, frame what it offered and signal
`writeChan`, and the wake-up that follows returns the call with all of `p` accepted, reporting
`errDeadline` exactly when the deadline has passed. -/
theorem blocked_write_returns (hs : FramerReachable pc cfg s) {p : List UInt8} {t : Nat}
    (hw : s.writer = .waiting p t)
    (hc : s.stream.canceledWrite = false) (hshut : s.stream.closeForShutdownErr = none)
    (hwin : s.stream.nextFrameData.length + s.stream.dataForWriting.length ≤ s.window)
    {mb : Nat} (hmin : minStreamFrameSize ≤ mb) (hmax : mb ≤ pc.maxPacketBufferSize) :
    ∃ n ≤ s.stream.leftToFrame, ∃ u, s.popWindows pc cfg mb n = some (ok u) ∧ ∃ s',
      u.next pc cfg (.wake false) = some (ok s') ∧ s'.writer = .idle ∧
      s'.log.getLast? = some (.writeReturned p p.length
        (if s.stream.deadline ≠ 0 ∧ s.now ≥ s.stream.deadline then some .deadline else none)) := by
  obtain ⟨n, hlen, u, hrun, hd⟩ := Sys.pops_drain hs hc hshut hwin hmin hmax
  obtain ⟨-, -, hdfw, -⟩ :=
    (SendStream.leftToFrame_eq_zero (Framed.reachable hd.reachable).next).1 hd.framed
  obtain ⟨s', hn, hidle, hlog⟩ :=
    Sys.wake_returns hd.reachable.reachable (hd.keeps.writer.trans hw) hdfw
  refine ⟨n, hlen, u, hrun, s', hn, hidle, ?_⟩
  simp [hlog, hd.keeps.deadline, hd.keeps.now]

set_option maxRecDepth 8000 in
/-- A `Write` of a byte more than a packet buffer blocks on a fresh stream, and pops and a
wake-up return it. -/
theorem blocked_write_returns_oversized : ∃ s p t, FramerReachable .quicGo .shipped s ∧
    s.writer = .waiting p t ∧
    s.stream.canceledWrite = false ∧ s.stream.closeForShutdownErr = none ∧
    s.stream.nextFrameData.length + s.stream.dataForWriting.length ≤ s.window ∧
    ∃ n ≤ s.stream.leftToFrame, ∃ u, s.popWindows .quicGo .shipped 1452 n = some (ok u) ∧ ∃ s',
      u.next .quicGo .shipped (.wake false) = some (ok s') ∧ s'.writer = .idle ∧
      s'.log.getLast? = some (.writeReturned p p.length
        (if s.stream.deadline ≠ 0 ∧ s.now ≥ s.stream.deadline then some .deadline else none)) := by
  obtain ⟨s, hrun, p, t, hw, hc, hshut, hwin⟩ : ∃ s, (Sys.init 0 2000).run .quicGo .shipped
      [.write (List.replicate 1453 0)] = some (ok s) ∧ ∃ p t, s.writer = .waiting p t ∧
      s.stream.canceledWrite = false ∧ s.stream.closeForShutdownErr = none ∧
      s.stream.nextFrameData.length + s.stream.dataForWriting.length ≤ s.window :=
    ⟨_, rfl, _, _, rfl, rfl, rfl, by decide⟩
  have hs := (FramerReachable.init 0 2000).run (by decide) hrun
  exact ⟨s, p, t, hs, hw, hc, hshut, hwin,
    blocked_write_returns hs hw hc hshut hwin (by decide) (by decide)⟩

/-- A `Write` blocked with its timer armed for the stream's deadline returns by the deadline:
once the clock has reached it, the timer's wake-up returns the call, with `errDeadline` or with
all of `p`. -/
theorem blocked_write_meets_deadline (hs : Reachable pc cfg s) {p : List UInt8} {t : Nat}
    (hw : s.writer = .waiting p t) (ht : t ≠ 0) (hd : s.stream.deadline = t) :
    ∃ s', s.run pc cfg (List.replicate (t - s.now) .tick ++ [.wake true]) = some (ok s') ∧
      s'.writer = .idle ∧ ∃ n e, s'.log.getLast? = some (.writeReturned p n e) ∧
        (e = some .deadline ∨ n = p.length ∧ e = none) := by
  have hrun : s.run pc cfg (List.replicate (t - s.now) .tick) = _ := Sys.run_ticks _
  obtain ⟨s', hn, hidle, n, e, hlog, he⟩ :=
    Sys.timer_wake_returns (hs.run hrun) hw ht (by dsimp only; omega) hd
  exact ⟨s', by rw [Sys.run_append _ hrun]; simp only [Sys.run, hn], hidle, n, e,
    by simp [hlog], he⟩

set_option maxRecDepth 8000 in
/-- A `Write` of a byte more than a packet buffer, after a deadline of 5 was set, blocks on a
fresh stream and returns by the deadline. -/
theorem blocked_write_meets_deadline_oversized : ∃ s p t, Reachable .quicGo .shipped s ∧
    s.writer = .waiting p t ∧ t ≠ 0 ∧ s.stream.deadline = t ∧
    ∃ s', s.run .quicGo .shipped (List.replicate (t - s.now) .tick ++ [.wake true]) =
      some (ok s') ∧ s'.writer = .idle ∧ ∃ n e, s'.log.getLast? = some (.writeReturned p n e) ∧
        (e = some .deadline ∨ n = p.length ∧ e = none) := by
  obtain ⟨s, hrun, p, hw, hd⟩ : ∃ s, (Sys.init 0 1452).run .quicGo .shipped
      [.setWriteDeadline 5, .write (List.replicate 1453 0)] = some (ok s) ∧ ∃ p,
      s.writer = .waiting p 5 ∧ s.stream.deadline = 5 :=
    ⟨_, rfl, _, rfl, rfl⟩
  have hs := (Reachable.init 0 1452).run hrun
  exact ⟨s, p, 5, hs, hw, by decide, hd, blocked_write_meets_deadline hs hw (by decide) hd⟩

/-- `CancelWrite`, a STOP_SENDING frame, `closeForShutdown`, or a write deadline set in the
past unblocks a blocked `Write` at once: the wake-up that follows returns the call, with no pop
in between. -/
theorem stopped_write_returns (hs : Reachable pc cfg s) {p : List UInt8} {t : Nat}
    (hw : s.writer = .waiting p t) {e : Event} (he : e.stopsWrite s.now = true) :
    ∃ s', s.run pc cfg [e, .wake false] = some (ok s') ∧ s'.writer = .idle ∧ ∃ n e',
      s'.log.getLast? = some (.writeReturned p n e') := by
  -- the event signals `writeChan` and stops the stream
  obtain ⟨s₁, hn₁, hw₁, hchan, hstop⟩ : ∃ s₁, s.next pc cfg e = some (ok s₁) ∧
      s₁.writer = s.writer ∧ s₁.stream.writeChan = true ∧
      (s₁.stream.canceledWrite = true ∨ s₁.stream.closedForShutdown = true ∨
        (s₁.stream.deadline ≠ 0 ∧ s₁.now ≥ s₁.stream.deadline)) := by
    cases e with
    | cancelWrite c | stopSending c =>
      exact (Sys.cancel_signals_writer hs hw (c := c) (by simp)).imp
        fun _ h => ⟨h.1, h.2.1, h.2.2.1, .inl h.2.2.2⟩
    | closeForShutdown err => exact ⟨_, rfl, rfl, rfl, .inr (.inl rfl)⟩
    | setWriteDeadline d =>
      simp only [Event.stopsWrite, Bool.and_eq_true, decide_eq_true_eq] at he
      exact ⟨_, rfl, rfl, rfl, .inr (.inr he)⟩
    | _ => cases he
  obtain ⟨s', hn₂, hidle, hlog⟩ :=
    Sys.stopped_wake_returns (hs.step e hn₁) (hw₁.trans hw) hchan hstop
  exact ⟨s', by simp only [Sys.run, hn₁, hn₂], hidle, hlog⟩

set_option maxRecDepth 8000 in
/-- A `Write` of a byte more than a packet buffer blocks on a fresh stream; the peer's
STOP_SENDING unblocks it. -/
theorem stopped_write_returns_stopSending : ∃ s p t, Reachable .quicGo .shipped s ∧
    s.writer = .waiting p t ∧ (Event.stopSending 7).stopsWrite s.now = true ∧
    ∃ s', s.run .quicGo .shipped [.stopSending 7, .wake false] = some (ok s') ∧
      s'.writer = .idle ∧ ∃ n e', s'.log.getLast? = some (.writeReturned p n e') := by
  obtain ⟨s, hrun, p, t, hw⟩ : ∃ s, (Sys.init 0 1452).run .quicGo .shipped
      [.write (List.replicate 1453 0)] = some (ok s) ∧ ∃ p t, s.writer = .waiting p t :=
    ⟨_, rfl, _, _, rfl⟩
  have hs := (Reachable.init 0 1452).run hrun
  exact ⟨s, p, t, hs, hw, rfl, stopped_write_returns hs hw rfl⟩

end Properties

end PrQuic.Stream
