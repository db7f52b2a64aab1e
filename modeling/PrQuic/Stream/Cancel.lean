import PrQuic.Stream.Log

/-!
# Canceling a blocked `Write`

A pass of `Write`'s loop first asks whether what is left of `p` fits the buffered frame, and
copies it there when it does; only a pass that does not copy looks at `canceledWrite` and
`closedForShutdown`.  So a `Write` blocked because `p` did not fit, woken by a `CancelWrite`
after a pop made the rest fit, copies the rest and returns `len(p)` and a nil error
(`Sys.wake_copies`), although a canceled stream frames nothing any more
(`Sys.newData_run_of_canceled`).
-/

namespace PrQuic.Stream

open Wire GoResult

namespace SendStream

variable (pc : Protocol)

/-- A pass whose rest fits a fresh buffered frame copies it, whatever the stream's state. -/
theorem writeLoopIteration_copies {s : SendStream} (now : Nat) (p : List UInt8)
    (hnf : s.nextFrame = none) (hD : s.dataForWriting ≠ [])
    (hfit : s.dataForWriting.length ≤ pc.maxPacketBufferSize) :
    ∃ st, s.writeLoopIteration pc now p = ok (st, .copied) := by
  have hbuf : canBufferStreamFrame pc s = true := by
    simpa [canBufferStreamFrame, nextFrameData, hnf] using hfit
  have hD' : s.dataForWriting.isEmpty = false := by simpa using hD
  simp only [writeLoopIteration, hbuf, hD', Bool.not_false, Bool.and_self, if_true,
    bufferDataForWriting, hnf, getStreamFrame_cap, gt_iff_lt, not_lt.2 hfit, if_false,
    ok_bind, pure_eq]
  exact ⟨_, rfl⟩

end SendStream

namespace Sys

variable {pc : Protocol} {cfg : PRConfig} {s s' : Sys}

/-- A writer woken through `writeChan` with a rest that fits a fresh buffered frame returns
`len(p)` and nil, canceled or not. -/
theorem wake_copies {p : List UInt8} {t : Nat} (hw : s.writer = .waiting p t)
    (hchan : s.stream.writeChan = true) (hnf : s.stream.nextFrame = none)
    (hD : s.stream.dataForWriting ≠ [])
    (hfit : s.stream.dataForWriting.length ≤ pc.maxPacketBufferSize) :
    ∃ s', s.next pc cfg (.wake false) = some (ok s') ∧ s'.writer = .idle ∧
      s'.log = s.log ++ [.writeReturned p p.length none] := by
  obtain ⟨st, hst⟩ := SendStream.writeLoopIteration_copies pc
    (s := { s.stream with writeChan := false }) s.now p hnf hD hfit
  exact ⟨s.afterWritePass p false (st, .copied), by simp [next, hw, hchan, hst], rfl,
    by simp [afterWritePass]⟩

/-- A step from a canceled stream originates no frame. -/
theorem newFrames_of_canceled {e : Event} (hc : s.stream.canceledWrite = true)
    (hn : s.next pc cfg e = some (ok s')) : newFrames s'.log = newFrames s.log := by
  cases e with
  | write p =>
    obtain ⟨-, r, -, rfl⟩ := next_write hn
    simp
  | wake b =>
    obtain ⟨p, timer, st, r, -, -, -, rfl⟩ := next_wake hn
    simp
  | close =>
    rw [next_close hn]
    simp
  | cancelWrite c | stopSending c =>
    rcases next_cancel (c := c) (by simp) hn with ⟨-, rfl⟩ | ⟨-, err, rfl⟩ <;> simp
  | updateSendWindow l =>
    rw [next_updateSendWindow hn]
    simp [withUpcalls]
  | pop mb w =>
    obtain ⟨-, r, hr, rfl⟩ := next_pop hn
    obtain ⟨r0, hspec, rfl⟩ := SendStream.popStreamFrame_spec pc cfg hr
    cases hspec with
    | none => simp
    | retransmit _ _ _ _ hact => simp [hc] at hact
    | fin hact => simp [hc] at hact
    | new _ _ _ _ _ _ hact => simp [hc] at hact
  | acked i =>
    obtain ⟨f, st, ups, -, -, rfl⟩ := next_acked hn
    simp
  | lost i r =>
    obtain ⟨f, st, ups, -, -, rfl⟩ := next_lost hn
    simp
  | tick | closeForShutdown err | setWriteDeadline t =>
    simp only [next, Option.some.injEq, ok.injEq] at hn; subst hn
    rfl

/-- After a cancellation no run frames another byte. -/
theorem newData_run_of_canceled {es : List Event} (hc : s.stream.canceledWrite = true)
    (h : s.run pc cfg es = some (ok s')) : newData s'.log = newData s.log := by
  induction es generalizing s with
  | nil => cases h; rfl
  | cons e es ih =>
    rcases hn : s.next pc cfg e with _ | (s1 | _ | _) <;> simp [run, hn] at h
    rw [ih ((flags_of_next hn).1 hc) h, newData, newData, newFrames_of_canceled hc hn]

end Sys

section Properties

/-- One byte more than a packet buffer: `Write` cannot buffer it and blocks. -/
def blockedSlice : List UInt8 := List.replicate 1453 0

/-- `Write(blockedSlice)` blocks, a pop frames one byte, and `CancelWrite(0)` wakes it. -/
def cancelBlockedWrite : List Event := [.write blockedSlice, .pop 1452 1, .cancelWrite 0]

set_option maxRecDepth 8000 in
/-- After a pop framed one byte of a blocked `Write(p)` and a `CancelWrite` woke it, the call
returns `len(p)` and a nil error, though no later step of the canceled stream frames another
byte. -/
theorem canceled_write_reports_unframed_bytes :
    ∃ s s', Reachable .quicGo .shipped s ∧ s.writer = .waiting blockedSlice 0 ∧
      s.stream.canceledWrite = true ∧ (newData s.log).length = 1 ∧
      s.next .quicGo .shipped (.wake false) = some (ok s') ∧
      s'.log = s.log ++ [.writeReturned blockedSlice blockedSlice.length none] ∧
      ∀ es t, s'.run .quicGo .shipped es = some (ok t) → newData t.log = newData s.log := by
  obtain ⟨s, hrun, hw, hc, hchan, hnf, hD, hfit, hlen⟩ : ∃ s,
      (Sys.init 0 1452).run .quicGo .shipped cancelBlockedWrite = some (ok s) ∧
      s.writer = .waiting blockedSlice 0 ∧ s.stream.canceledWrite = true ∧
      s.stream.writeChan = true ∧ s.stream.nextFrame = none ∧
      s.stream.dataForWriting ≠ [] ∧ s.stream.dataForWriting.length ≤ 1452 ∧
      (newData s.log).length = 1 :=
    ⟨_, rfl, rfl, rfl, rfl, rfl, by decide, by decide, by decide⟩
  obtain ⟨s', hn, -, hlog⟩ := @Sys.wake_copies .quicGo .shipped _ _ _ hw hchan hnf hD hfit
  refine ⟨s, s', (Reachable.init 0 1452).run hrun, hw, hc, hlen, hn, hlog,
    fun es t ht => ?_⟩
  rw [Sys.newData_run_of_canceled ((Sys.flags_of_next hn).1 hc) ht, hlog]
  simp

end Properties

end PrQuic.Stream
