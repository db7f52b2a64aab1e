import PrQuic.Stream.Steps

/-!
# A blocked `Write` waits for a pop

`Write` blocks on `writeChan` when the rest of `p` does not fit behind the buffered frame.  Its
token comes from `signalWrite`: at once from `CancelWrite`, STOP_SENDING, `closeForShutdown` and
`SetWriteDeadline`, and from a pop that takes the whole buffered frame or leaves a rest that
fits; a pop that splits the buffered frame sends nothing.  So a writer blocked with no token
pending is on a live stream whose data is still to be framed, by pops that will send the token
(`SendStream.AwaitsPop`).
-/

namespace PrQuic.Stream

open Wire GoResult

namespace SendStream

variable (pc : Protocol)

/-- What a `Write` blocked on `writeChan`, with no token pending, waits for: the stream is
neither canceled nor shut down, and what it offered is still to be framed, behind a buffered
frame or longer than a packet buffer. -/
def AwaitsPop (s : SendStream) : Prop :=
  s.writeChan = false → s.canceledWrite = false ∧ s.closedForShutdown = false ∧
    s.dataForWriting ≠ [] ∧ (s.nextFrame ≠ none ∨ pc.maxPacketBufferSize < s.dataForWriting.length)

theorem awaitsPop_of_writeChan {s : SendStream} (h : s.writeChan = true) : AwaitsPop pc s :=
  fun h' => absurd (h.symm.trans h') Bool.noConfusion

/-- A `Write` that waits: its rest does not fit behind the buffered frame. -/
theorem awaitsPop_of_wait {s : SendStream} (hc : s.canceledWrite = false)
    (hs : s.closedForShutdown = false) (hne : s.dataForWriting ≠ [])
    (hb : canBufferStreamFrame pc s = false) : AwaitsPop pc s := by
  refine fun _ => ⟨hc, hs, hne, ?_⟩
  simp only [canBufferStreamFrame, decide_eq_false_iff_not, not_le] at hb
  rcases hn : s.nextFrame with _ | f
  · simp only [nextFrameData, hn, List.length_nil, Nat.zero_add] at hb
    exact .inr hb
  · exact .inl (by simp)

/-- A pass of `Write` that waits leaves a stream that awaits a pop. -/
theorem WriteSpec.awaitsPop {s : SendStream} {now : Nat} {p : List UInt8}
    {r : SendStream × WriteStep} (h : WriteSpec pc s now p r) {t : Nat} (ht : r.2 = .wait t) :
    AwaitsPop pc r.1 := by
  cases h with
  | wait hbuf _ hne hc hs => exact awaitsPop_of_wait pc hc hs hne hbuf
  | _ => cases ht

/-! ## The pop path sends the token -/

/-- `getDataForWriting` sends the token when it takes all of `dataForWriting` or leaves a rest
that fits; any other rest is longer than a packet buffer. -/
theorem getDataForWriting_awaitsPop {s s' : SendStream} {f f' : StreamFrame} {k : Nat}
    (h : getDataForWriting pc s f k = ok (f', s')) (hn : s.nextFrame = none)
    (hw : AwaitsPop pc s) : AwaitsPop pc s' := by
  unfold getDataForWriting at h
  dsimp only at h
  split_ifs at h with h1 h2 h3 h4 <;> cases h
  · exact awaitsPop_of_writeChan pc rfl
  · exact awaitsPop_of_writeChan pc rfl
  · intro hc
    obtain ⟨hx, hy, -⟩ := hw hc
    have hlong : pc.maxPacketBufferSize < (s.dataForWriting.drop k).length := by
      have : pc.maxPacketBufferSize + k < s.dataForWriting.length := by
        simpa [canBufferStreamFrame, nextFrameData, hn] using h4
      rw [List.length_drop]
      omega
    exact ⟨hx, hy, List.ne_nil_of_length_pos ((Nat.zero_le _).trans_lt hlong), .inr hlong⟩

theorem popNewStreamFrameWithoutBuffer_awaitsPop {s s' : SendStream} {f f' : StreamFrame}
    {mb : Int} {w : Nat} {more : Bool}
    (h : popNewStreamFrameWithoutBuffer pc s f mb w = ok (f', more, s'))
    (hn : s.nextFrame = none) (hw : AwaitsPop pc s) : AwaitsPop pc s' := by
  unfold popNewStreamFrameWithoutBuffer at h
  dsimp only at h
  split_ifs at h
  · cases h; exact hw
  · rcases hg : getDataForWriting pc s f (min (f.maxDataLen mb) w) with ⟨f1, s1⟩ | _ | _ <;>
      rw [hg] at h <;> cases h
    exact getDataForWriting_awaitsPop pc hg hn hw

/-- `popNewStreamFrame` sends the token when it takes the whole buffered frame; a split leaves
a buffered frame. -/
theorem popNewStreamFrame_awaitsPop {s s' : SendStream} {mb : Int} {w : Nat}
    {fo : Option StreamFrame} {more : Bool} (h : popNewStreamFrame pc s mb w = ok (fo, more, s'))
    (hw : AwaitsPop pc s) : AwaitsPop pc s' := by
  unfold popNewStreamFrame at h
  rcases hn : s.nextFrame with _ | nf0 <;> simp only [hn] at h
  · obtain ⟨⟨f1, m1, s1⟩, hp, h⟩ := bind_eq_ok.1 h
    have := popNewStreamFrameWithoutBuffer_awaitsPop pc hp hn hw
    split at h
    · obtain ⟨_, -, h⟩ := bind_eq_ok.1 h
      cases h
      exact this
    · cases h
      exact this
  · split_ifs at h <;> cases h
    · intro hc
      obtain ⟨hx, hy, hd, -⟩ := hw hc
      exact ⟨hx, hy, hd, .inl (by simp)⟩
    · exact awaitsPop_of_writeChan pc rfl

theorem popNewOrRetransmittedStreamFrame_awaitsPop {s : SendStream} {mb : Int} {w : Nat}
    {r : Popped StreamFrame} (h : popNewOrRetransmittedStreamFrame pc s mb w = ok r)
    (hw : AwaitsPop pc s) : AwaitsPop pc r.stream := by
  unfold popNewOrRetransmittedStreamFrame at h
  by_cases hc : (s.canceledWrite || s.closeForShutdownErr.isSome) = true
  · rw [if_pos hc] at h; cases h; exact hw
  rw [if_neg hc] at h
  split at h
  · obtain ⟨⟨g?, b, s2⟩, hm, h⟩ := bind_eq_ok.1 h
    cases h
    obtain ⟨⟨nf, split, f'⟩, -, hm⟩ := bind_eq_ok.1 hm
    cases split <;> cases hm <;> exact hw
  · split_ifs at h
    · cases h; exact hw
    · cases h; exact hw
    · rcases s.flowController.isNewlyBlocked with ⟨b, o, fc⟩
      dsimp only at h
      split_ifs at h <;> cases h <;> exact hw
    · obtain ⟨⟨fo, more, s1⟩, hp, h1⟩ := bind_eq_ok.1 h
      obtain ⟨g0, -, h2⟩ := bind_eq_ok.1 h1
      have := popNewStreamFrame_awaitsPop pc hp hw
      rw [accountNewFrame_eq] at h2
      cases h2
      exact this

theorem popStreamFrame_awaitsPop (cfg : PRConfig) {s : SendStream} {mb w : Nat}
    {r : Popped OutFrame} (h : popStreamFrame pc cfg s mb w = ok r) (hw : AwaitsPop pc s) :
    AwaitsPop pc r.stream := by
  obtain ⟨r0, h0, h1⟩ := bind_eq_ok.1 h
  cases ok.inj h1
  have := popNewOrRetransmittedStreamFrame_awaitsPop pc h0 hw
  dsimp only
  split_ifs <;> exact this

end SendStream

/-! ## Along a run -/

/-- A blocked writer with no token pending waits for a pop. -/
def Sys.WriterAwaitsPop (pc : Protocol) (s : Sys) : Prop :=
  ∀ p t, s.writer = .waiting p t → s.stream.AwaitsPop pc

namespace Sys

variable {pc : Protocol} {cfg : PRConfig} {s s' : Sys}

theorem afterWritePass_waiting {p p' : List UInt8} {first : Bool} {r : SendStream × WriteStep}
    {t : Nat} (h : (s.afterWritePass p first r).writer = .waiting p' t) : r.2 = .wait t := by
  rcases r with ⟨st, _ | _ | t'⟩ <;> simp only [afterWritePass] at h <;> cases h
  rfl

/-- The writer's critical sections: a `Write` that blocks leaves a stream that awaits a pop;
one that returns leaves no writer blocked. -/
theorem writerAwaitsPop_write {p : List UInt8} (hn : s.next pc cfg (.write p) = some (ok s')) :
    s'.WriterAwaitsPop pc := by
  obtain ⟨-, r, hr, rfl⟩ := next_write hn
  intro p' t hw
  have ht := afterWritePass_waiting hw
  rw [afterWritePass_stream]
  rcases SendStream.writeEntry_spec pc hr with ⟨e, rfl⟩ | ⟨-, -, -, -, hws⟩
  · cases ht
  · exact hws.awaitsPop pc ht

theorem writerAwaitsPop_wake {b : Bool} (hn : s.next pc cfg (.wake b) = some (ok s')) :
    s'.WriterAwaitsPop pc := by
  obtain ⟨p, timer, st, r, -, -, hr, rfl⟩ := next_wake hn
  intro p' t hw
  rw [afterWritePass_stream]
  exact (SendStream.writeLoopIteration_spec pc hr).awaitsPop pc (afterWritePass_waiting hw)

theorem writerAwaitsPop_step {e : Event} (h : s.WriterAwaitsPop pc)
    (hn : s.next pc cfg e = some (ok s')) : s'.WriterAwaitsPop pc := by
  cases e with
  | write p => exact writerAwaitsPop_write hn
  | wake b => exact writerAwaitsPop_wake hn
  | close =>
    rw [next_close hn]
    unfold SendStream.close
    split_ifs <;> exact h
  | cancelWrite c | stopSending c =>
    rcases next_cancel (c := c) (by simp) hn with ⟨-, rfl⟩ | ⟨-, err, rfl⟩
    · exact h
    · exact fun _ _ _ => SendStream.awaitsPop_of_writeChan pc rfl
  | updateSendWindow l =>
    rw [next_updateSendWindow hn]
    exact h
  | pop mb w =>
    obtain ⟨-, r, hr, rfl⟩ := next_pop hn
    exact fun p t hw => SendStream.popStreamFrame_awaitsPop pc cfg hr (h p t hw)
  | acked i =>
    obtain ⟨f, st, ups, -, hr, rfl⟩ := next_acked hn
    rcases SendStream.onAcked_spec hr with ⟨-, rfl, -⟩ | ⟨-, -, b, hb, -⟩
    · exact h
    · rw [SendStream.isNewlyCompleted_eq] at hb
      cases hb
      exact h
  | lost i r =>
    obtain ⟨f, st, ups, -, hr, rfl⟩ := next_lost hn
    rcases SendStream.onLost_spec hr with ⟨-, rfl, -⟩ | ⟨-, -, -, ⟨g, -, rfl⟩ | ⟨n, -, rfl⟩⟩ <;>
      exact h
  | closeForShutdown err | setWriteDeadline t =>
    simp only [next, Option.some.injEq, ok.injEq] at hn
    subst hn
    exact fun _ _ _ => SendStream.awaitsPop_of_writeChan pc rfl
  | tick =>
    simp only [next, Option.some.injEq, ok.injEq] at hn
    subst hn
    exact h

theorem writerAwaitsPop_reachable (hs : Reachable pc cfg s) : s.WriterAwaitsPop pc :=
  Reachable.induction (fun _ _ _ _ hw => by cases hw)
    (fun _ _ _ _ h hn => writerAwaitsPop_step h hn) hs

end Sys

section Properties

variable {pc : Protocol} {cfg : PRConfig} {s : Sys}

/-- In every reachable state, a `Write` blocked on `writeChan` with no token pending is on a
stream that is neither canceled nor shut down, with what it offered still to frame: behind a
buffered frame, or longer than a packet buffer. -/
theorem blocked_write_awaits_pop (hs : Reachable pc cfg s) {p : List UInt8} {t : Nat}
    (hw : s.writer = .waiting p t) (hc : s.stream.writeChan = false) :
    s.stream.canceledWrite = false ∧ s.stream.closedForShutdown = false ∧
      s.stream.dataForWriting ≠ [] ∧
      (s.stream.nextFrame ≠ none ∨ pc.maxPacketBufferSize < s.stream.dataForWriting.length) :=
  Sys.writerAwaitsPop_reachable hs p t hw hc

set_option maxRecDepth 8000 in
/-- A `Write` of a byte more than a packet buffer on a fresh stream blocks. -/
theorem blocked_write_awaits_pop_oversized : ∃ s p t, Reachable .quicGo .shipped s ∧
    s.writer = .waiting p t ∧ s.stream.writeChan = false ∧
    s.stream.canceledWrite = false ∧ s.stream.closedForShutdown = false ∧
      s.stream.dataForWriting ≠ [] ∧
      (s.stream.nextFrame ≠ none ∨
        Protocol.quicGo.maxPacketBufferSize < s.stream.dataForWriting.length) := by
  obtain ⟨s, hrun, p, t, hw, hc⟩ : ∃ s, (Sys.init 0 1452).run .quicGo .shipped
      [.write (List.replicate 1453 0)] = some (ok s) ∧
      ∃ p t, s.writer = .waiting p t ∧ s.stream.writeChan = false :=
    ⟨_, rfl, _, _, rfl, rfl⟩
  have hs := (Reachable.init 0 1452).run hrun
  exact ⟨s, p, t, hs, hw, hc, blocked_write_awaits_pop hs hw hc⟩

end Properties

end PrQuic.Stream
