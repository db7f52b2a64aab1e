import PrQuic.Stream.State

/-!
# Popping frames

`popStreamFrame(maxBytes)` draws first from the retransmission queue, then from the buffered
`nextFrame`, then from the slice a blocked `Write` offers, within the budget and the window
`sendWindow` that `flowController.SendWindowSize()` returns during the call; once the stream is
closed and everything framed it sends an empty FIN frame.  With PR enabled nine bytes are kept
back for `PTDA` and `ptdaC`, and the frame leaves as a PR_STREAM frame.  Re-slicing a pooled
buffer beyond its capacity panics, as does `f.DataLen()` on the nil frame `popNewStreamFrame`
returns when no byte fits, and `PutBack` of a pooled frame of the wrong capacity.
-/

namespace PrQuic.Stream

open Wire GoResult

/-- What a pop hands back: the frame, whether the stream has more to send, the stream after
the call and what it called on the connection. -/
structure Popped (α : Type) where
  frame : Option α
  hasMoreData : Bool
  stream : SendStream
  upcalls : List Upcall := []

namespace SendStream

variable (pc : Protocol) (cfg : PRConfig)

/-- `maybeGetRetransmission` on the retransmission queue `f :: rest`: a frame that fits, and
whether retransmissions remain.  A split leaves what is left of `f` at the queue's head. -/
def maybeGetRetransmission (s : SendStream) (f : StreamFrame) (rest : List StreamFrame)
    (maxBytes : Int) : GoResult (Option StreamFrame × Bool × SendStream) := do
  let (newFrame, needsSplit, f') ← f.maybeSplitOffFrame pc maxBytes
  if needsSplit then pure (newFrame, true, { s with retransmissionQueue := f' :: rest })
  else pure (some f, !rest.isEmpty, { s with retransmissionQueue := rest })

/-- `getDataForWriting`: fill `f` with up to `maxBytes` bytes of `dataForWriting`. -/
def getDataForWriting (s : SendStream) (f : StreamFrame) (maxBytes : Nat) :
    GoResult (StreamFrame × SendStream) :=
  if s.dataForWriting.length ≤ maxBytes then
    if s.dataForWriting.length > f.cap then .panic sliceBoundsOutOfRange
    else ok ({ f with data := s.dataForWriting }, signalWrite { s with dataForWriting := [] })
  else if maxBytes > f.cap then .panic sliceBoundsOutOfRange
  else
    let s' := { s with dataForWriting := s.dataForWriting.drop maxBytes }
    ok ({ f with data := s.dataForWriting.take maxBytes },
      if canBufferStreamFrame pc s' then signalWrite s' else s')

/-- The `hasMoreData` of `popNewStreamFrameWithoutBuffer`. -/
def moreToFrame (s : SendStream) : Bool :=
  !s.dataForWriting.isEmpty || s.nextFrame.isSome || s.finishedWriting

/-- `popNewStreamFrameWithoutBuffer`. -/
def popNewStreamFrameWithoutBuffer (s : SendStream) (f : StreamFrame) (maxBytes : Int)
    (sendWindow : Nat) : GoResult (StreamFrame × Bool × SendStream) :=
  let maxDataLen := f.maxDataLen maxBytes
  -- a STREAM frame must have at least one byte of data
  if maxDataLen = 0 then ok (f, moreToFrame s, s)
  else do
    let (f, s) ← getDataForWriting pc s f (min maxDataLen sendWindow)
    pure (f, moreToFrame s, s)

/-- `popNewStreamFrame`: the buffered `nextFrame`, split at the budget and the window, or a
fresh pooled frame filled from `dataForWriting`. -/
def popNewStreamFrame (s : SendStream) (maxBytes : Int) (sendWindow : Nat) :
    GoResult (Option StreamFrame × Bool × SendStream) :=
  match s.nextFrame with
  | some nextFrame =>
    let s := { s with nextFrame := none }
    let maxDataLen := min sendWindow (nextFrame.maxDataLen maxBytes)
    if nextFrame.data.length > maxDataLen then
      let tail := getStreamFrame pc
      if nextFrame.data.length - maxDataLen > tail.cap then .panic sliceBoundsOutOfRange
      else
        let tail := { tail with
          streamID := s.streamID
          offset := s.writeOffset + maxDataLen
          data := nextFrame.data.drop maxDataLen
          dataLenPresent := true }
        let s := { s with nextFrame := some tail }
        ok (some { nextFrame with data := nextFrame.data.take maxDataLen },
          s.nextFrame.isSome || !s.dataForWriting.isEmpty, s)
    else
      let s := signalWrite s
      ok (some nextFrame, s.nextFrame.isSome || !s.dataForWriting.isEmpty, s)
  | none => do
    let f := { getStreamFrame pc with
      fin := false
      streamID := s.streamID
      offset := s.writeOffset
      dataLenPresent := true }
    let (f, hasMoreData, s) ← popNewStreamFrameWithoutBuffer pc s f maxBytes sendWindow
    if f.data.isEmpty && !f.fin then do
      f.putBack pc
      pure (none, hasMoreData, s)
    else pure (some f, hasMoreData, s)

/-- The data-less FIN frame sent once everything written has been framed. -/
def finFrame (s : SendStream) : StreamFrame :=
  { streamID := s.streamID, offset := s.writeOffset, dataLenPresent := true, fin := true }

/-- The end of `popNewOrRetransmittedStreamFrame` for a new frame `f`: the write offset and the
flow controller advance by its length, and it carries FIN when nothing is left to frame after
a `Close`. -/
def accountNewFrame (s : SendStream) (f : StreamFrame) : StreamFrame × SendStream :=
  let dataLen := f.data.length
  let s := if dataLen > 0 then
      { s with
        writeOffset := s.writeOffset + dataLen
        flowController := s.flowController.addBytesSent dataLen }
    else s
  let fin := s.finishedWriting && s.dataForWriting.isEmpty && s.nextFrame.isNone && !s.finSent
  let s := if fin then { s with finSent := true } else s
  ({ f with fin }, s)

/-- `popNewOrRetransmittedStreamFrame`.  `maybeGetRetransmission` always returns a frame or
reports more retransmissions, so the retransmission branch always returns. -/
def popNewOrRetransmittedStreamFrame (s : SendStream) (maxBytes : Int) (sendWindow : Nat) :
    GoResult (Popped StreamFrame) :=
  if s.canceledWrite || s.closeForShutdownErr.isSome then ok ⟨none, false, s, []⟩
  else match s.retransmissionQueue with
  | f :: rest => do
    let (f, _, s) ← maybeGetRetransmission pc s f rest maxBytes
    -- we always claim that we have more data to send
    ok ⟨f, true, s, []⟩
  | [] =>
    if s.dataForWriting.isEmpty && s.nextFrame.isNone then
      if s.finishedWriting && !s.finSent then
        ok ⟨some (finFrame s), false, { s with finSent := true }, []⟩
      else ok ⟨none, false, s, []⟩
    else if sendWindow = 0 then
      let (isBlocked, offset, fc) := s.flowController.isNewlyBlocked
      let s := { s with flowController := fc }
      if isBlocked then
        ok ⟨none, false, s, [.queueControlFrame (.streamDataBlocked s.streamID offset)]⟩
      else ok ⟨none, true, s, []⟩
    else do
      let (f, hasMoreData, s) ← popNewStreamFrame pc s maxBytes sendWindow
      -- `f.DataLen()` dereferences `f`
      let f ← deref f
      let (f, s) := accountNewFrame s f
      ok ⟨some f, hasMoreData, s, []⟩

/-- The PR_STREAM frame `popStreamFrame` makes of `f`, stamped with the configured policy. -/
def toPRStreamFrame (f : StreamFrame) : PRStreamFrame :=
  let prf : PRStreamFrame :=
    { streamID := f.streamID
      offset := f.offset
      data := f.data
      fin := f.fin
      dataLenPresent := f.dataLenPresent
      ptda := cfg.ptda
      ptdaC := cfg.ptadC
      cap := f.cap }
  if cfg.ptda = 0x80 then { prf with p := true }
  else if cfg.ptda = 0x40 then { prf with t := true }
  else if cfg.ptda = 0x20 then { prf with d := true }
  else if cfg.ptda = 0x10 then { prf with a := true }
  else prf

/-- The frame `popStreamFrame` hands out for `f`, with its callbacks: a PR_STREAM frame when PR
is enabled. -/
def outFrame (f : StreamFrame) : OutFrame :=
  if cfg.enabled then .pr (toPRStreamFrame cfg f) else .plain f

/-- `popStreamFrame(maxBytes)`, with `sendWindow` the value of `SendWindowSize()`. -/
def popStreamFrame (s : SendStream) (maxBytes sendWindow : Nat) : GoResult (Popped OutFrame) := do
  let prMaxBytes : Int := if cfg.enabled then (maxBytes : Int) - (1 + 8) else maxBytes
  let r ← popNewOrRetransmittedStreamFrame pc s prMaxBytes sendWindow
  let s := if r.frame.isSome then
      { r.stream with numOutstandingFrames := r.stream.numOutstandingFrames + 1 }
    else r.stream
  pure ⟨r.frame.map (outFrame cfg), r.hasMoreData, s, r.upcalls⟩

@[simp] theorem toPRStreamFrame_offset (f : StreamFrame) :
    (toPRStreamFrame cfg f).offset = f.offset := by
  simp only [toPRStreamFrame, apply_ite PRStreamFrame.offset, ite_self]

@[simp] theorem toPRStreamFrame_data (f : StreamFrame) : (toPRStreamFrame cfg f).data = f.data := by
  simp only [toPRStreamFrame, apply_ite PRStreamFrame.data, ite_self]

@[simp] theorem toPRStreamFrame_fin (f : StreamFrame) : (toPRStreamFrame cfg f).fin = f.fin := by
  simp only [toPRStreamFrame, apply_ite PRStreamFrame.fin, ite_self]

/-- The PR_STREAM frame is not a pooled one: its literal leaves `fromPool` unset. -/
@[simp] theorem toPRStreamFrame_fromPool (f : StreamFrame) :
    (toPRStreamFrame cfg f).fromPool = false := by
  simp only [toPRStreamFrame, apply_ite PRStreamFrame.fromPool, ite_self]

/-- The PR_STREAM frame is the STREAM frame with the `PTDA` byte and the varint `ptdaC`. -/
theorem toPRStreamFrame_length (f : StreamFrame) :
    (toPRStreamFrame cfg f).length = f.length + 1 + varintLen cfg.ptadC := by
  have hid : (toPRStreamFrame cfg f).streamID = f.streamID := by
    simp only [toPRStreamFrame, apply_ite PRStreamFrame.streamID, ite_self]
  have hdl : (toPRStreamFrame cfg f).dataLenPresent = f.dataLenPresent := by
    simp only [toPRStreamFrame, apply_ite PRStreamFrame.dataLenPresent, ite_self]
  have hc : (toPRStreamFrame cfg f).ptdaC = cfg.ptadC := by
    simp only [toPRStreamFrame, apply_ite PRStreamFrame.ptdaC, ite_self]
  simp only [PRStreamFrame.length, StreamFrame.length, hid, hdl, hc, toPRStreamFrame_offset,
    toPRStreamFrame_data]
  split_ifs <;> omega

@[simp] theorem outFrame_offset (f : StreamFrame) : (outFrame cfg f).offset = f.offset := by
  unfold outFrame; split_ifs <;> simp

@[simp] theorem outFrame_data (f : StreamFrame) : (outFrame cfg f).data = f.data := by
  unfold outFrame; split_ifs <;> simp

@[simp] theorem outFrame_fin (f : StreamFrame) : (outFrame cfg f).fin = f.fin := by
  unfold outFrame; split_ifs <;> simp

theorem outFrame_length (f : StreamFrame) :
    (outFrame cfg f).length = if cfg.enabled then f.length + 1 + varintLen cfg.ptadC else f.length := by
  unfold outFrame; split_ifs <;> simp [toPRStreamFrame_length]

/-! ## What a pop does -/

/-- How `maybeGetRetransmission` shares the queue's head `f` between the frame it hands out
and the queue it leaves: whole, or split after `n` bytes. -/
inductive Splits (f : StreamFrame) (rest : List StreamFrame) :
    StreamFrame → List StreamFrame → Prop where
  | whole : Splits f rest f rest
  /-- the head keeps `f`'s buffer, what is left takes a fresh pooled one -/
  | split (n : Nat) (hn : 0 < n) (hlt : f.data.length < 2 ^ 14 → n < f.data.length) :
      Splits f rest { f with data := f.data.take n, fin := false }
        ({ f with
          data := f.data.drop n
          offset := f.offset + n
          fromPool := true
          cap := pc.maxPacketBufferSize } :: rest)

/-- The new frame's data `d` is taken from the front of the buffered frame followed by the
writer's slice; `nf` and `dfw` are what is left of them. -/
structure TakesNew (s : SendStream) (w : Nat) (d : List UInt8) (nf : Option StreamFrame)
    (dfw : List UInt8) : Prop where
  buffer : s.nextFrameData ++ s.dataForWriting = d ++ ((nf.map StreamFrame.data).getD [] ++ dfw)
  suffix : dfw <:+ s.dataForWriting
  window : d.length ≤ w
  nextOffset : ∀ t ∈ nf, t.offset = s.writeOffset + d.length
  /-- the data fits the buffered frame, or a fresh pooled buffer -/
  size : d.length ≤ max s.nextFrameData.length pc.maxPacketBufferSize
  /-- what stays buffered is part of what was -/
  shrinks : ((nf.map StreamFrame.data).getD []).length ≤ s.nextFrameData.length

/-- Everything `popNewOrRetransmittedStreamFrame` can do, given the window `w`. -/
inductive PopSpec (s : SendStream) (w : Nat) : Popped StreamFrame → Prop where
  /-- no frame; at most the flow controller's blocked mark changes, and a STREAM_DATA_BLOCKED
  may be queued -/
  | none (fc : FlowController) (more : Bool) (ups : List Upcall)
      (hsent : fc.bytesSent = s.flowController.bytesSent)
      (hwin : fc.sendWindow = s.flowController.sendWindow)
      (hups : ups = [] ∨ ∃ o, ups = [.queueControlFrame (.streamDataBlocked s.streamID o)]) :
      PopSpec s w ⟨none, more, { s with flowController := fc }, ups⟩
  /-- the head of the retransmission queue, or its first part -/
  | retransmit (f : StreamFrame) (rest rq : List StreamFrame) (g : StreamFrame)
      (hactive : s.canceledWrite = false) (hshut : s.closeForShutdownErr = none)
      (hq : s.retransmissionQueue = f :: rest) (hsplit : Splits pc f rest g rq) :
      PopSpec s w ⟨some g, true, { s with retransmissionQueue := rq }, []⟩
  /-- the data-less FIN frame -/
  | fin (hactive : s.canceledWrite = false) (hshut : s.closeForShutdownErr = none)
      (hq : s.retransmissionQueue = [])
      (hd : s.dataForWriting = []) (hn : s.nextFrame = none)
      (hw : s.finishedWriting = true) (hf : s.finSent = false) :
      PopSpec s w ⟨some (finFrame s), false, { s with finSent := true }, []⟩
  /-- a new frame carrying `d` -/
  | new (d dfw : List UInt8) (nf : Option StreamFrame) (g : StreamFrame) (more wc : Bool)
      (hactive : s.canceledWrite = false) (hshut : s.closeForShutdownErr = none)
      (hq : s.retransmissionQueue = []) (htake : TakesNew pc s w d nf dfw)
      (hoff : g.offset = s.nextOffset) (hdata : g.data = d)
      (hfin : g.fin = (s.finishedWriting && dfw.isEmpty && nf.isNone && !s.finSent))
      (hmore : s.dataForWriting ≠ [] ∨ s.nextFrame ≠ none) (hw : w ≠ 0) :
      PopSpec s w ⟨some g, more, { s with
        nextFrame := nf
        dataForWriting := dfw
        writeOffset := s.writeOffset + d.length
        flowController := s.flowController.addBytesSent d.length
        finSent := s.finSent || g.fin
        writeChan := wc }, []⟩

theorem getDataForWriting_spec {s : SendStream} {f f' : StreamFrame} {k : Nat} {s' : SendStream}
    (h : getDataForWriting pc s f k = ok (f', s')) :
    (s.dataForWriting.take k).length ≤ f.cap ∧ ∃ wc, f' = { f with data := s.dataForWriting.take k } ∧
      s' = { s with dataForWriting := s.dataForWriting.drop k, writeChan := wc } := by
  unfold getDataForWriting at h
  dsimp only at h
  split_ifs at h with h1 h2 h3 h4 <;> cases h
  · exact ⟨by simp; omega, true, by simp [List.take_of_length_le h1],
      by simp [List.drop_of_length_le h1]⟩
  all_goals exact ⟨by simp; omega, _, rfl, rfl⟩

theorem popNewStreamFrameWithoutBuffer_spec {s : SendStream} {f f' : StreamFrame} {mb : Int}
    {w : Nat} {more : Bool} {s' : SendStream}
    (h : popNewStreamFrameWithoutBuffer pc s f mb w = ok (f', more, s')) :
    f' = f ∧ s' = s ∨ ∃ k wc, k ≤ w ∧ (s.dataForWriting.take k).length ≤ f.cap ∧
      f' = { f with data := s.dataForWriting.take k } ∧
      s' = { s with dataForWriting := s.dataForWriting.drop k, writeChan := wc } := by
  unfold popNewStreamFrameWithoutBuffer at h
  dsimp only at h
  split_ifs at h
  · cases h; exact .inl ⟨rfl, rfl⟩
  · rcases hg : getDataForWriting pc s f (min (f.maxDataLen mb) w) with ⟨f1, s1⟩ | _ | _ <;>
      rw [hg] at h <;> cases h
    obtain ⟨hcap, wc, rfl, rfl⟩ := getDataForWriting_spec pc hg
    exact .inr ⟨_, wc, Nat.min_le_right _ _, hcap, rfl, rfl⟩

theorem popNewStreamFrame_spec {s : SendStream} {mb : Int} {w : Nat} {g : StreamFrame}
    {more : Bool} {s' : SendStream}
    (h : popNewStreamFrame pc s mb w = ok (some g, more, s')) :
    ∃ d nf dfw wc, TakesNew pc s w d nf dfw ∧ g.offset = s.nextOffset ∧ g.data = d ∧
      s' = { s with nextFrame := nf, dataForWriting := dfw, writeChan := wc } := by
  unfold popNewStreamFrame at h
  rcases hn : s.nextFrame with _ | nf0 <;> simp only [hn] at h
  · obtain ⟨⟨f1, m1, s1⟩, hp, h⟩ := bind_eq_ok.1 h
    rcases popNewStreamFrameWithoutBuffer_spec pc hp with ⟨rfl, rfl⟩ | ⟨k, wc, hk, hcap, rfl, rfl⟩
    · simp [StreamFrame.putBack] at h
    · split at h
      · simp [StreamFrame.putBack] at h
      cases h
      refine ⟨s.dataForWriting.take k, none, s.dataForWriting.drop k, wc,
        ⟨by simp [nextFrameData, hn], List.drop_suffix _ _, by simp; omega, by simp, ?_, by simp⟩,
        by simp [nextOffset, hn], rfl, by simp [hn]⟩
      simp only [getStreamFrame_cap] at hcap
      exact hcap.trans (Nat.le_max_right _ _)
  · have hnd : s.nextFrameData = nf0.data := by simp [nextFrameData_eq, hn]
    split_ifs at h with h1 h2 <;> cases h
    · have hlen : (nf0.data.take (min w (nf0.maxDataLen mb))).length = min w (nf0.maxDataLen mb) :=
        List.length_take_of_le h1.le
      refine ⟨_, some _, s.dataForWriting, s.writeChan, ⟨?_, List.suffix_refl _, ?_, ?_, ?_, ?_⟩,
        by simp [nextOffset, hn], rfl, rfl⟩
      · simp [hnd, ← List.append_assoc]
      · exact hlen.trans_le (Nat.min_le_left _ _)
      · rintro _ ⟨⟩; exact congrArg _ hlen.symm
      · rw [hnd]; exact (List.length_take_le' _ _).trans (Nat.le_max_left _ _)
      · rw [hnd]; exact (List.length_drop _ _).trans_le (Nat.sub_le _ _)
    · exact ⟨_, none, s.dataForWriting, true, ⟨by simp [nextFrameData, hn], List.suffix_refl _,
        by omega, by simp, by simp [nextFrameData, hn], by simp⟩, by simp [nextOffset, hn], rfl,
        rfl⟩

theorem accountNewFrame_eq (s : SendStream) (f : StreamFrame) :
    accountNewFrame s f =
      let fin := s.finishedWriting && s.dataForWriting.isEmpty && s.nextFrame.isNone && !s.finSent
      ({ f with fin }, { s with
        writeOffset := s.writeOffset + f.data.length
        flowController := s.flowController.addBytesSent f.data.length
        finSent := s.finSent || fin }) := by
  unfold accountNewFrame
  rcases Nat.eq_zero_or_pos f.data.length with hd | hd <;>
    simp only [hd, gt_iff_lt, lt_self_iff_false, ↓reduceIte, Nat.add_zero,
      FlowController.addBytesSent_zero] <;>
    cases s.finishedWriting && s.dataForWriting.isEmpty && s.nextFrame.isNone && !s.finSent <;>
    simp only [Bool.false_eq_true, ↓reduceIte, Bool.or_false, Bool.or_true]

theorem popNewOrRetransmittedStreamFrame_spec {s : SendStream} {mb : Int} {w : Nat}
    {r : Popped StreamFrame} (h : popNewOrRetransmittedStreamFrame pc s mb w = ok r) :
    PopSpec pc s w r := by
  unfold popNewOrRetransmittedStreamFrame at h
  by_cases hc : (s.canceledWrite || s.closeForShutdownErr.isSome) = true
  · rw [if_pos hc] at h; cases h; exact .none s.flowController false [] rfl rfl (.inl rfl)
  rw [if_neg hc] at h
  have hact : s.canceledWrite = false := by revert hc; cases s.canceledWrite <;> simp
  have hshut : s.closeForShutdownErr = none := by
    revert hc; cases s.closeForShutdownErr <;> simp
  split at h
  · rename_i f rest hq
    obtain ⟨⟨g?, b, s1⟩, hm, h⟩ := bind_eq_ok.1 h
    obtain ⟨⟨nf, split, f'⟩, hsp, hm⟩ := bind_eq_ok.1 hm
    cases h
    rcases f.maybeSplitOffFrame_cases pc hsp with ⟨h1, -⟩ | ⟨h1, -⟩ | ⟨hlt, hn, h1⟩ <;> cases h1 <;>
      cases hm
    · exact .retransmit f rest rest f hact hshut hq .whole
    · rw [← hq]; exact .none s.flowController true [] rfl rfl (.inl rfl)
    · exact .retransmit f rest _ _ hact hshut hq
        (.split _ hn (f.maxDataLen_lt mb (not_le_of_lt hlt) hn.ne'))
  · rename_i hq
    split_ifs at h with he hfin hw
    · cases h
      simp only [Bool.and_eq_true, List.isEmpty_iff, Option.isNone_iff_eq_none,
        Bool.not_eq_true'] at he hfin
      exact .fin hact hshut hq he.1 he.2 hfin.1 hfin.2
    · cases h; exact .none s.flowController false [] rfl rfl (.inl rfl)
    · obtain ⟨hs, hwin⟩ := s.flowController.isNewlyBlocked_bytesSent
      rcases hnb : s.flowController.isNewlyBlocked with ⟨b, o, fc⟩
      rw [hnb] at h hs hwin
      dsimp only at h
      split_ifs at h <;> cases h
      · exact .none fc _ _ hs hwin (.inr ⟨_, rfl⟩)
      · exact .none fc _ _ hs hwin (.inl rfl)
    · obtain ⟨⟨fo, more, s1⟩, hp, h1⟩ := bind_eq_ok.1 h
      obtain ⟨g0, hg, h2⟩ := bind_eq_ok.1 h1
      rw [deref_eq_ok] at hg; subst hg
      obtain ⟨d, nf, dfw, wc, htake, hoff, rfl, rfl⟩ := popNewStreamFrame_spec pc hp
      rw [accountNewFrame_eq] at h2
      cases h2
      exact .new _ dfw nf _ more wc hact hshut hq htake hoff rfl rfl
        (by simpa [imp_iff_not_or] using he) hw

/-- STREAM_DATA_BLOCKED is queued only for a stream that is not canceled and has data to
frame. -/
theorem popNewOrRetransmittedStreamFrame_upcalls {s : SendStream} {mb : Int} {w : Nat}
    {r : Popped StreamFrame} (h : popNewOrRetransmittedStreamFrame pc s mb w = ok r) :
    r.upcalls = [] ∨ s.canceledWrite = false ∧ (s.dataForWriting ≠ [] ∨ s.nextFrame ≠ none) := by
  unfold popNewOrRetransmittedStreamFrame at h
  by_cases hc : (s.canceledWrite || s.closeForShutdownErr.isSome) = true
  · rw [if_pos hc] at h; cases h; exact .inl rfl
  rw [if_neg hc] at h
  have hact : s.canceledWrite = false := by revert hc; cases s.canceledWrite <;> simp
  split at h
  · obtain ⟨_, -, h⟩ := bind_eq_ok.1 h
    cases h; exact .inl rfl
  · split_ifs at h with he hfin
    · cases h; exact .inl rfl
    · cases h; exact .inl rfl
    all_goals exact .inr ⟨hact, by simpa [imp_iff_not_or] using he⟩

theorem popStreamFrame_spec {s : SendStream} {mb w : Nat} {r : Popped OutFrame}
    (h : popStreamFrame pc cfg s mb w = ok r) :
    ∃ r0, PopSpec pc s w r0 ∧ r = ⟨r0.frame.map (outFrame cfg), r0.hasMoreData,
      if r0.frame.isSome then
        { r0.stream with numOutstandingFrames := r0.stream.numOutstandingFrames + 1 }
      else r0.stream, r0.upcalls⟩ := by
  obtain ⟨r0, h0, h1⟩ := bind_eq_ok.1 h
  exact ⟨r0, popNewOrRetransmittedStreamFrame_spec pc h0, (ok.inj h1).symm⟩

theorem popStreamFrame_upcalls {s : SendStream} {mb w : Nat} {r : Popped OutFrame}
    (h : popStreamFrame pc cfg s mb w = ok r) :
    r.upcalls = [] ∨ s.canceledWrite = false ∧ (s.dataForWriting ≠ [] ∨ s.nextFrame ≠ none) := by
  obtain ⟨r0, h0, h1⟩ := bind_eq_ok.1 h
  cases ok.inj h1
  exact popNewOrRetransmittedStreamFrame_upcalls pc h0

end SendStream

end PrQuic.Stream
