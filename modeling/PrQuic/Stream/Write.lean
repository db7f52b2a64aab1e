import PrQuic.Stream.State

/-!
# Write

`Write(p)` installs `p` as `dataForWriting` and then loops under the stream's mutex, releasing
it while it waits on `writeChan` or on its deadline timer.  Each pass either copies what is
left of `p` into the buffered `nextFrame` (once that fits in one packet buffer) and returns, or
returns because everything was framed, the deadline passed, or the stream was canceled or shut
down, or goes back to waiting.  A pass is one step of the run model: `writeEntry` is the first
critical section and `writeLoopIteration` every later one.
-/

namespace PrQuic.Stream

open Wire GoResult

/-- How a pass of `Write`'s loop ends. -/
inductive WriteStep where
  /-- the rest of `p` was copied into `nextFrame`: the call returns `len(p)` once it has
  re-taken the mutex -/
  | copied
  /-- the call returns `n` and `err` -/
  | returned (n : Nat) (err : Option StreamError)
  /-- the call waits on `writeChan`, and on its timer when `timer` is not zero -/
  | wait (timer : Nat)
  deriving DecidableEq, Repr

namespace SendStream

variable (pc : Protocol)

/-- The error `Write` returns after its loop, having written `bytesWritten` bytes of `p`. -/
def writeError (s : SendStream) (p : List UInt8) (bytesWritten : Nat) : Option StreamError :=
  if bytesWritten = p.length then none
  else if s.closeForShutdownErr.isSome then s.closeForShutdownErr
  else if s.cancelWriteErr.isSome then s.cancelWriteErr
  else none

/-- `dataForWriting` appended to the buffered frame, or put in a fresh pooled frame at the
write offset.  Re-slicing the buffer beyond its capacity panics. -/
def bufferDataForWriting (s : SendStream) : GoResult SendStream :=
  match s.nextFrame with
  | none =>
    let f := getStreamFrame pc
    if s.dataForWriting.length > f.cap then .panic sliceBoundsOutOfRange
    else
      ok { s with
        nextFrame := some { f with
          offset := s.writeOffset
          streamID := s.streamID
          dataLenPresent := true
          data := s.dataForWriting } }
  | some nextFrame =>
    if nextFrame.data.length + s.dataForWriting.length > nextFrame.cap then
      .panic sliceBoundsOutOfRange
    else ok { s with nextFrame := some { nextFrame with data := nextFrame.data ++ s.dataForWriting } }

/-- One pass of the loop of `Write(p)` at time `now`. -/
def writeLoopIteration (s : SendStream) (now : Nat) (p : List UInt8) :
    GoResult (SendStream × WriteStep) :=
  if canBufferStreamFrame pc s && !s.dataForWriting.isEmpty then do
    let s ← bufferDataForWriting pc s
    pure ({ s with dataForWriting := [] }, .copied)
  else
    let bytesWritten := p.length - s.dataForWriting.length
    let deadline := s.deadline
    if deadline ≠ 0 ∧ now ≥ deadline then
      ok ({ s with dataForWriting := [] }, .returned bytesWritten (some .deadline))
    else if s.dataForWriting.isEmpty || s.canceledWrite || s.closedForShutdown then
      ok (s, .returned bytesWritten (writeError s p bytesWritten))
    else ok (s, .wait deadline)

/-- The first critical section of `Write(p)`: the checks at entry, then the first pass. -/
def writeEntry (s : SendStream) (now : Nat) (p : List UInt8) :
    GoResult (SendStream × WriteStep) :=
  if s.finishedWriting then ok (s, .returned 0 (some (.writeOnClosedStream s.streamID)))
  else if s.canceledWrite then ok (s, .returned 0 s.cancelWriteErr)
  else if s.closeForShutdownErr.isSome then ok (s, .returned 0 s.closeForShutdownErr)
  else if s.deadline ≠ 0 ∧ now ≥ s.deadline then ok (s, .returned 0 (some .deadline))
  else if p.isEmpty then ok (s, .returned 0 none)
  else writeLoopIteration pc { s with dataForWriting := p } now p

/-! ## What a pass does -/

/-- Everything a pass of `Write(p)`'s loop can do at time `now`. -/
inductive WriteSpec (s : SendStream) (now : Nat) (p : List UInt8) :
    SendStream × WriteStep → Prop where
  /-- what is left of `p` is copied behind the buffered frame -/
  | copied (nf : StreamFrame) (hbuf : canBufferStreamFrame pc s = true)
      (hd : s.dataForWriting ≠ []) (hdata : nf.data = s.nextFrameData ++ s.dataForWriting)
      (hoff : nf.offset = s.nextOffset) :
      WriteSpec s now p ({ s with nextFrame := some nf, dataForWriting := [] }, .copied)
  /-- the deadline passed: what is left of `p` is dropped -/
  | deadline (hd : s.deadline ≠ 0 ∧ now ≥ s.deadline) :
      WriteSpec s now p ({ s with dataForWriting := [] },
        .returned (p.length - s.dataForWriting.length) (some .deadline))
  /-- everything was framed, or the stream was canceled or shut down -/
  | returned (hd : ¬(s.deadline ≠ 0 ∧ now ≥ s.deadline))
      (h : s.dataForWriting = [] ∨ s.canceledWrite = true ∨ s.closedForShutdown = true) :
      WriteSpec s now p (s, .returned (p.length - s.dataForWriting.length)
        (writeError s p (p.length - s.dataForWriting.length)))
  /-- nothing to do but wait -/
  | wait (hbuf : canBufferStreamFrame pc s = false) (hd : ¬(s.deadline ≠ 0 ∧ now ≥ s.deadline))
      (hne : s.dataForWriting ≠ []) (hc : s.canceledWrite = false)
      (hs : s.closedForShutdown = false) :
      WriteSpec s now p (s, .wait s.deadline)

theorem bufferDataForWriting_spec {s s' : SendStream} (h : bufferDataForWriting pc s = ok s') :
    ∃ nf, s' = { s with nextFrame := some nf } ∧
      nf.data = s.nextFrameData ++ s.dataForWriting ∧ nf.offset = s.nextOffset := by
  unfold bufferDataForWriting at h
  rcases hn : s.nextFrame with _ | nf0 <;> simp only [hn] at h <;> split_ifs at h <;> cases h
  · exact ⟨_, rfl, by simp [nextFrameData, hn], by simp [nextOffset, hn]⟩
  · exact ⟨_, rfl, by simp [nextFrameData, hn], by simp [nextOffset, hn]⟩

theorem writeLoopIteration_spec {s : SendStream} {now : Nat} {p : List UInt8}
    {r : SendStream × WriteStep} (h : writeLoopIteration pc s now p = ok r) :
    WriteSpec pc s now p r := by
  unfold writeLoopIteration at h
  by_cases hb : (canBufferStreamFrame pc s && !s.dataForWriting.isEmpty) = true
  · rw [if_pos hb] at h
    obtain ⟨s1, h1, h⟩ := bind_eq_ok.1 h
    obtain ⟨nf, rfl, hdata, hoff⟩ := bufferDataForWriting_spec pc h1
    cases h
    simp only [Bool.and_eq_true, Bool.not_eq_true', List.isEmpty_eq_false] at hb
    exact .copied nf hb.1 hb.2 hdata hoff
  · rw [if_neg hb] at h
    dsimp only at h
    split_ifs at h with hd he <;> cases h
    · exact .deadline hd
    · exact .returned hd (by simpa [or_assoc] using he)
    · simp only [Bool.or_eq_true, List.isEmpty_iff, not_or, Bool.not_eq_true] at he
      have hne : s.dataForWriting.isEmpty = false := by simpa using he.1.1
      simp only [hne, Bool.not_false, Bool.and_true, Bool.not_eq_true] at hb
      exact .wait hb hd he.1.1 he.1.2 he.2

/-- `Write` returns at entry, or makes its first pass with `p` offered. -/
theorem writeEntry_cases {s : SendStream} {now : Nat} {p : List UInt8}
    {r : SendStream × WriteStep} (h : writeEntry pc s now p = ok r) :
    (∃ e, r = (s, .returned 0 e)) ∨
      s.finishedWriting = false ∧ s.canceledWrite = false ∧ s.closeForShutdownErr = none ∧
        p ≠ [] ∧ writeLoopIteration pc { s with dataForWriting := p } now p = ok r := by
  unfold writeEntry at h
  by_cases h1 : s.finishedWriting = true
  · rw [if_pos h1] at h; cases h; exact .inl ⟨_, rfl⟩
  by_cases h2 : s.canceledWrite = true
  · rw [if_neg h1, if_pos h2] at h; cases h; exact .inl ⟨_, rfl⟩
  by_cases h3 : s.closeForShutdownErr.isSome = true
  · rw [if_neg h1, if_neg h2, if_pos h3] at h; cases h; exact .inl ⟨_, rfl⟩
  by_cases h4 : s.deadline ≠ 0 ∧ now ≥ s.deadline
  · rw [if_neg h1, if_neg h2, if_neg h3, if_pos h4] at h; cases h; exact .inl ⟨_, rfl⟩
  by_cases h5 : p.isEmpty = true
  · rw [if_neg h1, if_neg h2, if_neg h3, if_neg h4, if_pos h5] at h; cases h; exact .inl ⟨_, rfl⟩
  rw [if_neg h1, if_neg h2, if_neg h3, if_neg h4, if_neg h5] at h
  exact .inr ⟨by simpa using h1, by simpa using h2, by simpa using h3, by simpa using h5, h⟩

theorem writeEntry_spec {s : SendStream} {now : Nat} {p : List UInt8}
    {r : SendStream × WriteStep} (h : writeEntry pc s now p = ok r) :
    (∃ e, r = (s, .returned 0 e)) ∨
      s.finishedWriting = false ∧ s.canceledWrite = false ∧ s.closeForShutdownErr = none ∧
        p ≠ [] ∧ WriteSpec pc { s with dataForWriting := p } now p r :=
  (writeEntry_cases pc h).imp_right fun ⟨h1, h2, h3, h5, hw⟩ =>
    ⟨h1, h2, h3, h5, writeLoopIteration_spec pc hw⟩

/-- A pass changes nothing but the buffered frame and `dataForWriting`. -/
theorem WriteSpec.frame {s : SendStream} {now : Nat} {p : List UInt8} {r : SendStream × WriteStep}
    (h : WriteSpec pc s now p r) :
    ∃ nf dfw, r.1 = { s with nextFrame := nf, dataForWriting := dfw } := by
  cases h
  · exact ⟨_, _, rfl⟩
  · exact ⟨s.nextFrame, [], rfl⟩
  all_goals exact ⟨s.nextFrame, s.dataForWriting, rfl⟩

theorem writeEntry_frame {s : SendStream} {now : Nat} {p : List UInt8}
    {r : SendStream × WriteStep} (h : writeEntry pc s now p = ok r) :
    ∃ nf dfw, r.1 = { s with nextFrame := nf, dataForWriting := dfw } := by
  rcases writeEntry_spec pc h with ⟨e, rfl⟩ | ⟨-, -, -, -, hw⟩
  · exact ⟨s.nextFrame, s.dataForWriting, rfl⟩
  · exact hw.frame

end SendStream

end PrQuic.Stream
