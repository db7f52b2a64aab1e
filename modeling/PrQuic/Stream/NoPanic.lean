import PrQuic.Stream.Capacity

/-!
# No event panics

The stream's code panics on a re-slice beyond a buffer's capacity (in `bufferDataForWriting`,
`popNewStreamFrame`, `getDataForWriting` and a split), on the nil frame a pop gets when no byte
fits, on a `PutBack` of a pooled frame that lost its capacity, and when the count of outstanding
frames goes negative.  Along every run whose pops have budgets in the packet assembler's range
none of them is reached: buffers are pooled and fit a packet (`Stream.Capacity`), such a budget
always fits a byte (`Stream.Budget`), and the count counts every frame in flight
(`Stream.Accounting`).
-/

namespace PrQuic.Stream

open Wire GoResult

namespace SendStream

variable (pc : Protocol)

/-- A pass of `Write`'s loop on a stream whose buffered frame is pooled. -/
theorem writeLoopIteration_not_isPanic {s : SendStream} (now : Nat) (p : List UInt8)
    (hp : NextFramePooled pc s) : ¬(writeLoopIteration pc s now p).IsPanic := by
  unfold writeLoopIteration
  dsimp only
  split_ifs with hb
  · simp only [Bool.and_eq_true] at hb
    exact not_isPanic_bind (bufferDataForWriting_not_isPanic pc hp hb.1) fun _ => id
  all_goals exact id

theorem writeEntry_not_isPanic {s : SendStream} (now : Nat) (p : List UInt8)
    (hp : NextFramePooled pc s) : ¬(writeEntry pc s now p).IsPanic := by
  unfold writeEntry
  repeat' split
  all_goals first | exact id | exact writeLoopIteration_not_isPanic pc now p hp

/-- A loss callback finds the count positive when it counts the lost frame. -/
theorem queueRetransmissionWith_not_isPanic {enqueue : SendStream → SendStream}
    {s : SendStream} (hn : s.canceledWrite = false → 1 ≤ (enqueue s).numOutstandingFrames) :
    ¬(queueRetransmissionWith enqueue s).IsPanic := by
  unfold queueRetransmissionWith
  dsimp only
  split_ifs with hc hneg
  · exact id
  · have := hn (by simpa using hc); omega
  · exact id

theorem onLost_not_isPanic {s : SendStream} {f : OutFrame} {r : Nat}
    (hn : s.canceledWrite = false → 1 ≤ s.numOutstandingFrames) : ¬(s.onLost f r).IsPanic := by
  cases f with
  | plain g => apply queueRetransmissionWith_not_isPanic; exact hn
  | pr g =>
    simp only [onLost, prQueueRetransmission]
    split_ifs <;> apply queueRetransmissionWith_not_isPanic <;> exact hn

end SendStream

namespace Sys

variable {pc : Protocol} {cfg : PRConfig} {s : Sys}

theorem write_not_isPanic (hs : Reachable pc cfg s) (p : List UInt8) {r : GoResult Sys}
    (hn : s.next pc cfg (.write p) = some r) : ¬r.IsPanic := by
  simp only [next] at hn
  split at hn <;> cases hn
  rw [isPanic_map]
  exact SendStream.writeEntry_not_isPanic pc _ p (nextFramePooled_reachable hs)

/-- A wake-up runs a pass on the stream, its `writeChan` drained or not: the buffered frame is
the stream's. -/
theorem wake_not_isPanic (hs : Reachable pc cfg s) (b : Bool) {r : GoResult Sys}
    (hn : s.next pc cfg (.wake b) = some r) : ¬r.IsPanic := by
  have hp := nextFramePooled_reachable hs
  simp only [next] at hn
  split at hn
  · cases hn
  split_ifs at hn <;> cases hn <;> rw [isPanic_map]
  · exact SendStream.writeLoopIteration_not_isPanic pc _ _ hp
  · exact SendStream.writeLoopIteration_not_isPanic pc _ _ hp

theorem pop_not_isPanic (hs : FramerReachable pc cfg s) {mb w : Nat}
    (hmin : minStreamFrameSize ≤ mb) (hmax : mb ≤ pc.maxPacketBufferSize) {r : GoResult Sys}
    (hn : s.next pc cfg (.pop mb w) = some r) : ¬r.IsPanic := by
  have hf := Framed.reachable hs
  have hsh := Shape.reachable hs.reachable
  simp only [next] at hn
  split_ifs at hn
  cases hn
  rw [isPanic_map]
  exact (SendStream.popStreamFrame_fits pc cfg w hmin hmax hf.next hsh.nextSize hf.queue
    hsh.queueSize).1

/-- A loss callback runs for a frame in flight, which the count counts. -/
theorem lost_not_isPanic (hs : Reachable pc cfg s) (i x : Nat) {r : GoResult Sys}
    (hn : s.next pc cfg (.lost i x) = some r) : ¬r.IsPanic := by
  have hout := (Accounting.reachable hs).outstanding
  simp only [next] at hn
  split at hn
  · cases hn
  rename_i f hf
  split_ifs at hn
  cases hn
  rw [isPanic_map]
  refine SendStream.onLost_not_isPanic fun hc => ?_
  have := (List.get?_eq_some.1 hf).1
  rw [hout, if_neg (by simp [hc])]
  omega

end Sys

section Properties

variable {pc : Protocol} {cfg : PRConfig} {s : Sys}

/-- Along a run in which the packet assembler pops with budgets from `MinStreamFrameSize` to a
packet buffer, no event panics: not `Write` or its wake-ups, not a pop, not an acknowledgement
or a loss callback, and no other call. -/
theorem stream_never_panics (hs : FramerReachable pc cfg s) {e : Event}
    (he : e.inFramerRange pc = true) {r : GoResult Sys} (hn : s.next pc cfg e = some r) :
    ¬r.IsPanic := by
  have hr := hs.reachable
  cases e with
  | write p => exact Sys.write_not_isPanic hr p hn
  | wake b => exact Sys.wake_not_isPanic hr b hn
  | pop mb w =>
    simp only [Event.inFramerRange, decide_eq_true_eq] at he
    exact Sys.pop_not_isPanic hs he.1 he.2 hn
  | acked i => exact Sys.acked_not_isPanic hr i hn
  | lost i x => exact Sys.lost_not_isPanic hr i x hn
  | _ =>
    simp only [Sys.next, Option.some.injEq] at hn
    subst hn
    exact id

set_option maxRecDepth 2000 in
/-- With PR disabled, a lost 200-byte frame popped again in two halves under the smallest
budget: the second half sits in a buffer from the pool, and its acknowledgement, which puts the
buffer back, does not panic. -/
theorem stream_never_panics_pooled_ack : ∃ s r, FramerReachable .quicGo ⟨false, 0x80, 0⟩ s ∧
    (∃ g, s.inFlight.get? 1 = some (.plain g) ∧ g.offset = 124 ∧ g.fromPool = true) ∧
    s.next .quicGo ⟨false, 0x80, 0⟩ (.acked 1) = some r ∧ ¬r.IsPanic := by
  obtain ⟨s, hrun, hg, r, hn⟩ : ∃ s, (Sys.init 0 1452).run .quicGo ⟨false, 0x80, 0⟩
      [.write (List.replicate 200 0), .pop 1452 200, .lost 0 0, .pop 128 200, .pop 1452 200] =
        some (ok s) ∧
      (∃ g, s.inFlight.get? 1 = some (.plain g) ∧ g.offset = 124 ∧ g.fromPool = true) ∧
      ∃ r, s.next .quicGo ⟨false, 0x80, 0⟩ (.acked 1) = some r :=
    ⟨_, rfl, ⟨_, rfl, rfl, rfl⟩, _, rfl⟩
  have hs := (FramerReachable.init 0 1452).run (by decide) hrun
  exact ⟨s, r, hs, hg, hn, stream_never_panics hs (by decide) hn⟩

end Properties

end PrQuic.Stream
