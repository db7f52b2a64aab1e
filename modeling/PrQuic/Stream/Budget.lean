import PrQuic.Stream.Shape

/-!
# A pop hands out a valid frame within its budget

With a budget from `protocol.MinStreamFrameSize` to a packet buffer, `popStreamFrame` does not
panic, and a frame it hands out carries data or a FIN and is at most the budget long, with PR's
`PTDA` byte and `ptdaC` varint covered by the nine bytes kept back.  This rests on `Framed`:
the buffered frame has data, and every frame queued or in flight has data or a FIN, which runs
keep while their pops stay in the assembler's range (`FramerReachable`); a budget below every
header makes `popNewStreamFrame` cut a frame with neither.
-/

namespace PrQuic.Stream

open Wire GoResult

namespace SendStream

variable (pc : Protocol) (cfg : PRConfig)

/-! ## One pop -/

/-- A retransmission handed out whole or split off carries data or a FIN and fits. -/
theorem maybeGetRetransmission_fits {s s' : SendStream} {f g : StreamFrame}
    {rest : List StreamFrame} {mb : Int} {b : Bool}
    (hm : maybeGetRetransmission pc s f rest mb = ok (some g, b, s'))
    (hmb : 19 ≤ mb) (hmax : mb < 2 ^ 14) (hf : f.data ≠ [] ∨ f.fin = true) :
    (g.data ≠ [] ∨ g.fin = true) ∧ (g.length : Int) ≤ mb := by
  obtain ⟨⟨nf, split, f'⟩, hsp, hm⟩ := bind_eq_ok.1 hm
  rcases StreamFrame.maybeSplitOffFrame_cases pc hsp with ⟨h1, hle⟩ | ⟨h1, -⟩ | ⟨-, -, h1⟩ <;>
    cases h1 <;> cases hm
  · exact ⟨hf, hle⟩
  · obtain ⟨hd, hl⟩ := StreamFrame.maybeSplitOffFrame_head pc hsp hmb hmax
    exact ⟨.inl hd, hl⟩

theorem maybeGetRetransmission_nextFrame {s s' : SendStream} {f : StreamFrame}
    {rest : List StreamFrame} {mb : Int} {g? : Option StreamFrame} {b : Bool}
    (hm : maybeGetRetransmission pc s f rest mb = ok (g?, b, s')) : s'.nextFrame = s.nextFrame := by
  obtain ⟨⟨nf, split, f'⟩, -, hm⟩ := bind_eq_ok.1 hm
  cases split <;> cases hm <;> rfl

/-- A queued frame of at most a packet buffer's bytes is handed out, whole or split, without a
panic. -/
theorem maybeGetRetransmission_ok (s : SendStream) (f : StreamFrame) (rest : List StreamFrame)
    (mb : Int) (hd : f.data.length ≤ pc.maxPacketBufferSize) :
    ∃ r, maybeGetRetransmission pc s f rest mb = ok r := by
  obtain ⟨⟨nf, split, f'⟩, hsp⟩ := f.maybeSplitOffFrame_ok pc mb hd
  unfold maybeGetRetransmission
  rw [hsp, ok_bind]
  cases split <;> exact ⟨_, rfl⟩

/-- Past every header, a fresh frame takes `min maxDataLen sendWindow` bytes of the offered
data. -/
theorem popNewStreamFrameWithoutBuffer_takes {s s' : SendStream} {f f' : StreamFrame} {mb : Int}
    {w : Nat} {more : Bool} (hmb : 19 ≤ mb)
    (h : popNewStreamFrameWithoutBuffer pc s f mb w = ok (f', more, s')) :
    0 < f.maxDataLen mb ∧ ∃ wc,
      f' = { f with data := s.dataForWriting.take (min (f.maxDataLen mb) w) } ∧
      s' = { s with
        dataForWriting := s.dataForWriting.drop (min (f.maxDataLen mb) w), writeChan := wc } := by
  have hpos := f.maxDataLen_pos mb hmb
  unfold popNewStreamFrameWithoutBuffer at h
  dsimp only at h
  rw [if_neg (Nat.pos_iff_ne_zero.mp hpos)] at h
  obtain ⟨⟨f2, s2⟩, hd, h⟩ := bind_eq_ok.1 h
  obtain ⟨-, wc, rfl, rfl⟩ := getDataForWriting_spec pc hd
  cases h
  exact ⟨hpos, wc, rfl, rfl⟩

/-- A new frame carries data and fits, and what stays buffered has data, once the window is
open and the budget is past every header. -/
theorem popNewStreamFrame_fits {s s' : SendStream} {mb : Int} {w : Nat} {g : StreamFrame}
    {more : Bool} (h : popNewStreamFrame pc s mb w = ok (some g, more, s')) (hw : w ≠ 0)
    (hmb : 19 ≤ mb) (hmax : mb < 2 ^ 14) (hn : ∀ t ∈ s.nextFrame, t.data ≠ []) :
    g.data ≠ [] ∧ (g.length : Int) ≤ mb ∧ ∀ t ∈ s'.nextFrame, t.data ≠ [] := by
  unfold popNewStreamFrame at h
  rcases hnf : s.nextFrame with _ | nf0 <;> simp only [hnf] at h
  · obtain ⟨⟨f1, m1, s1⟩, hp, h⟩ := bind_eq_ok.1 h
    obtain ⟨-, wc, rfl, rfl⟩ := popNewStreamFrameWithoutBuffer_takes pc hmb hp
    split at h
    · simp [StreamFrame.putBack] at h
    cases h
    rename_i hne
    simp only [Bool.not_false, Bool.and_true, List.isEmpty_iff] at hne
    exact ⟨hne, StreamFrame.length_le_of_maxDataLen _ mb _ hne
      ((List.length_take_le _ _).trans (Nat.min_le_left _ _)) hmax, by simp [hnf]⟩
  · have hne := hn nf0 hnf
    have hpos := nf0.maxDataLen_pos mb hmb
    split_ifs at h with h1 h2 <;> cases h
    · have hk : 0 < min w (nf0.maxDataLen mb) := by omega
      have hd : nf0.data.take (min w (nf0.maxDataLen mb)) ≠ [] := by simp [hne]; omega
      refine ⟨hd, StreamFrame.length_le_of_maxDataLen _ mb _ hd
        ((List.length_take_le _ _).trans (Nat.min_le_right _ _)) hmax, ?_⟩
      rintro t ⟨⟩
      simp only [ne_eq, List.drop_eq_nil_iff, not_le]
      exact h1
    · exact ⟨hne, StreamFrame.length_le_of_maxDataLen _ mb _ hne (by omega) hmax, by simp⟩

theorem getDataForWriting_not_isPanic {s : SendStream} {f : StreamFrame} {k : Nat}
    (hk : k ≤ f.cap) : ¬(getDataForWriting pc s f k).IsPanic := by
  unfold getDataForWriting
  split_ifs <;> first | omega | simp

/-- `popNewStreamFrame` re-slices within capacity when the budget fits a packet buffer and so
does the buffered frame. -/
theorem popNewStreamFrame_not_isPanic {s : SendStream} {mb : Int} (w : Nat)
    (hcap : mb ≤ pc.maxPacketBufferSize)
    (hsize : s.nextFrameData.length ≤ pc.maxPacketBufferSize) :
    ¬(popNewStreamFrame pc s mb w).IsPanic := by
  unfold popNewStreamFrame
  rcases hnf : s.nextFrame with _ | nf0
  · simp only [isPanic_bind, not_or, not_exists, not_and]
    refine ⟨?_, fun x hp => ?_⟩
    swap
    · -- the empty frame goes back to the pool it came from
      rcases popNewStreamFrameWithoutBuffer_spec pc hp with ⟨hx, -⟩ | ⟨k, wc, -, -, hx, -⟩ <;>
        split <;> simp [hx, StreamFrame.putBack]
    unfold popNewStreamFrameWithoutBuffer
    dsimp only
    split_ifs
    · simp
    · simp only [isPanic_bind, not_or, not_exists, not_and]
      refine ⟨getDataForWriting_not_isPanic pc ?_, fun _ _ => by simp⟩
      have := StreamFrame.maxDataLen_le
        { getStreamFrame pc with
          fin := false, streamID := s.streamID, offset := s.writeOffset, dataLenPresent := true }
        mb
      dsimp only at this ⊢
      simp only [getStreamFrame_cap] at this ⊢
      omega
  · simp only [nextFrameData, hnf] at hsize
    dsimp only
    split_ifs with h1 h2
    · simp only [getStreamFrame_cap] at h2; omega
    · simp
    · simp

/-- With data to frame and the window open, `popNewStreamFrame` returns a frame, so the
dereference that follows it does not panic. -/
theorem popNewStreamFrame_ne_none {s s' : SendStream} {mb : Int} {w : Nat} {more : Bool}
    (hw : w ≠ 0) (hmb : 19 ≤ mb) (hd : s.dataForWriting ≠ [] ∨ s.nextFrame ≠ none) :
    popNewStreamFrame pc s mb w ≠ ok (none, more, s') := by
  intro h
  unfold popNewStreamFrame at h
  rcases hnf : s.nextFrame with _ | nf0 <;> simp only [hnf] at h
  · have hdfw : s.dataForWriting ≠ [] := by simpa [hnf] using hd
    obtain ⟨⟨f1, m1, s1⟩, hp, h⟩ := bind_eq_ok.1 h
    obtain ⟨hpos, wc, rfl, rfl⟩ := popNewStreamFrameWithoutBuffer_takes pc hmb hp
    split at h
    · rename_i hne
      simp only [Bool.not_false, Bool.and_true, List.isEmpty_iff, List.take_eq_nil_iff] at hne
      rcases hne with h0 | h0
      · omega
      · exact hdfw h0
    · cases h
  · split_ifs at h <;> cases h

/-- What `popNewOrRetransmittedStreamFrame` hands out with a budget past every header, on a
stream whose buffered frame has data and whose queued frames have data or a FIN: a frame with
data or a FIN that fits, and what stays buffered still has data. -/
theorem popNewOrRetransmittedStreamFrame_fits {s : SendStream} {mb : Int} {w : Nat}
    {r : Popped StreamFrame} (h : popNewOrRetransmittedStreamFrame pc s mb w = ok r)
    (hmb : 19 ≤ mb) (hmax : mb < 2 ^ 14) (hn : ∀ t ∈ s.nextFrame, t.data ≠ [])
    (hq : ∀ f ∈ s.retransmissionQueue, f.data ≠ [] ∨ f.fin = true) :
    (∀ g ∈ r.frame, (g.data ≠ [] ∨ g.fin = true) ∧ (g.length : Int) ≤ mb) ∧
      ∀ t ∈ r.stream.nextFrame, t.data ≠ [] := by
  unfold popNewOrRetransmittedStreamFrame at h
  by_cases hc : (s.canceledWrite || s.closeForShutdownErr.isSome) = true
  · rw [if_pos hc] at h
    cases h
    exact ⟨by simp, hn⟩
  rw [if_neg hc] at h
  split at h
  · rename_i f rest hqr
    obtain ⟨⟨g?, b, s2⟩, hm, h⟩ := bind_eq_ok.1 h
    cases h
    refine ⟨fun g hg => ?_, by rw [maybeGetRetransmission_nextFrame pc hm]; exact hn⟩
    cases Option.mem_def.1 hg
    exact maybeGetRetransmission_fits pc hm hmb hmax (hq f (by simp [hqr]))
  · split_ifs at h with he hfin hw
    · cases h
      refine ⟨?_, hn⟩
      rintro g ⟨⟩
      exact ⟨.inr rfl, by have := (finFrame s).length_le_of_data_nil rfl; omega⟩
    · cases h
      exact ⟨by simp, hn⟩
    · rcases s.flowController.isNewlyBlocked with ⟨b, o, fc⟩
      dsimp only at h
      split_ifs at h <;> cases h <;> exact ⟨by simp, hn⟩
    · obtain ⟨⟨fo, more, s1⟩, hp, h1⟩ := bind_eq_ok.1 h
      obtain ⟨g0, hg, h2⟩ := bind_eq_ok.1 h1
      rw [deref_eq_ok] at hg
      subst hg
      obtain ⟨hd, hl, hn'⟩ := popNewStreamFrame_fits pc hp hw hmb hmax hn
      rw [accountNewFrame_eq] at h2
      cases h2
      refine ⟨?_, hn'⟩
      rintro g ⟨⟩
      exact ⟨.inl hd, hl⟩

theorem popNewOrRetransmittedStreamFrame_not_isPanic {s : SendStream} {mb : Int} (w : Nat)
    (hmb : 19 ≤ mb) (hcap : mb ≤ pc.maxPacketBufferSize)
    (hsize : s.nextFrameData.length ≤ pc.maxPacketBufferSize)
    (hqsize : ∀ f ∈ s.retransmissionQueue, f.data.length ≤ pc.maxPacketBufferSize) :
    ¬(popNewOrRetransmittedStreamFrame pc s mb w).IsPanic := by
  unfold popNewOrRetransmittedStreamFrame
  by_cases hc : (s.canceledWrite || s.closeForShutdownErr.isSome) = true
  · rw [if_pos hc]
    simp
  rw [if_neg hc]
  split
  · rename_i f rest hqr
    obtain ⟨r, hr⟩ := maybeGetRetransmission_ok pc s f rest mb (hqsize f (by simp [hqr]))
    simp [hr]
  split_ifs with he hfin hw
  · simp
  · simp
  · rcases s.flowController.isNewlyBlocked with ⟨b, o, fc⟩
    dsimp only
    split_ifs <;> simp
  · simp only [isPanic_bind, not_or, not_exists, not_and]
    refine ⟨popNewStreamFrame_not_isPanic pc w hcap hsize, ?_⟩
    rintro ⟨_ | g, more, s1⟩ hp
    · exact absurd hp (popNewStreamFrame_ne_none pc hw hmb (by simpa [imp_iff_not_or] using he))
    · simp [deref]

/-- `popStreamFrame` with a budget in the packet assembler's range, on a stream whose buffered
frame has data and fits a packet buffer and whose queued frames have data or a FIN: it does not
panic, and a frame it hands out has data or a FIN and is at most `maxBytes` long; what stays
buffered still has data. -/
theorem popStreamFrame_fits {s : SendStream} {mb : Nat} (w : Nat)
    (hmin : minStreamFrameSize ≤ mb) (hmax : mb ≤ pc.maxPacketBufferSize)
    (hn : ∀ t ∈ s.nextFrame, t.data ≠ [])
    (hsize : s.nextFrameData.length ≤ pc.maxPacketBufferSize)
    (hq : ∀ f ∈ s.retransmissionQueue, f.data ≠ [] ∨ f.fin = true)
    (hqsize : ∀ f ∈ s.retransmissionQueue, f.data.length ≤ pc.maxPacketBufferSize) :
    ¬(s.popStreamFrame pc cfg mb w).IsPanic ∧
      ∀ r, s.popStreamFrame pc cfg mb w = ok r →
        (∀ f ∈ r.frame, (f.data ≠ [] ∨ f.fin = true) ∧ f.length ≤ mb) ∧
          ∀ t ∈ r.stream.nextFrame, t.data ≠ [] := by
  have hlt := pc.maxPacketBufferSize_lt
  have h8 := varintLen_le_eight cfg.ptadC
  unfold minStreamFrameSize at hmin
  have hlo : (19 : Int) ≤ if cfg.enabled then (mb : Int) - (1 + 8) else mb := by
    split_ifs <;> omega
  have hhi : (if cfg.enabled then (mb : Int) - (1 + 8) else mb) ≤ pc.maxPacketBufferSize := by
    split_ifs <;> omega
  refine ⟨?_, fun r h => ?_⟩
  · simp only [popStreamFrame, isPanic_bind, not_or, not_exists, not_and]
    exact ⟨popNewOrRetransmittedStreamFrame_not_isPanic pc w hlo hhi hsize hqsize,
      fun _ _ => by simp⟩
  · obtain ⟨r0, h0, h1⟩ := bind_eq_ok.1 h
    cases h1
    obtain ⟨hf, hn'⟩ := popNewOrRetransmittedStreamFrame_fits pc h0 hlo (by omega) hn hq
    refine ⟨?_, by split_ifs <;> exact hn'⟩
    simp only [Option.mem_map]
    rintro _ ⟨g, hg, rfl⟩
    obtain ⟨hd, hl⟩ := hf g hg
    refine ⟨by simpa using hd, ?_⟩
    rw [outFrame_length]
    split_ifs at hl ⊢ <;> omega

end SendStream

/-! ## Along a run -/

/-- What the stream holds has something to send: the buffered frame has data, and every frame
queued for retransmission or in flight has data or a FIN. -/
structure Framed (s : Sys) : Prop where
  next : ∀ f ∈ s.stream.nextFrame, f.data ≠ []
  queue : ∀ f ∈ s.stream.retransmissionQueue, f.data ≠ [] ∨ f.fin = true
  inFlight : ∀ f ∈ s.inFlight, f.data ≠ [] ∨ f.fin = true

namespace Framed

variable {pc : Protocol} {cfg : PRConfig} {s s' : Sys}

theorem init (streamID initialWindow : Nat) : Framed (Sys.init streamID initialWindow) :=
  ⟨by simp [Sys.init, newSendStream], by simp [Sys.init, newSendStream], by simp [Sys.init]⟩

/-- A step that keeps the buffered frame and adds no frame to the queue or to those in flight
keeps the invariant. -/
theorem quiet (h : Framed s) (hN : s'.stream.nextFrame = s.stream.nextFrame)
    (hQ : s'.stream.retransmissionQueue ⊆ s.stream.retransmissionQueue)
    (hI : s'.inFlight ⊆ s.inFlight) : Framed s' :=
  ⟨hN ▸ h.next, fun f hf => h.queue f (hQ hf), fun f hf => h.inFlight f (hI hf)⟩

/-- A pass of `Write` buffers a frame only with the data it copies. -/
theorem writeSpec {t : SendStream} {now : Nat} {p : List UInt8} {r : SendStream × WriteStep}
    (h : SendStream.WriteSpec pc t now p r) (hn : ∀ f ∈ t.nextFrame, f.data ≠ []) :
    ∀ f ∈ r.1.nextFrame, f.data ≠ [] := by
  cases h with
  | copied nf hbuf hd hdata hoff =>
    rintro f ⟨⟩
    simp [hdata, hd]
  | deadline => exact hn
  | returned => exact hn
  | wait => exact hn

/-- A pop with a budget in the packet assembler's range hands out a frame with data or a FIN,
buffers only data, and splits a queued frame into two parts with data. -/
theorem pop_step {mb w : Nat} (h : Framed s) (hsh : Shape pc s)
    (hmb : minStreamFrameSize ≤ mb ∧ mb ≤ pc.maxPacketBufferSize)
    (hn : s.next pc cfg (.pop mb w) = some (ok s')) : Framed s' := by
  obtain ⟨-, r, hr, rfl⟩ := Sys.next_pop hn
  obtain ⟨hframe, hnext⟩ := (SendStream.popStreamFrame_fits pc cfg w hmb.1 hmb.2 h.next
    hsh.nextSize h.queue hsh.queueSize).2 r hr
  have hq : ∀ f ∈ r.stream.retransmissionQueue, f.data ≠ [] ∨ f.fin = true := by
    obtain ⟨r0, hspec, rfl⟩ := SendStream.popStreamFrame_spec pc cfg hr
    suffices ∀ f ∈ r0.stream.retransmissionQueue, f.data ≠ [] ∨ f.fin = true by
      dsimp only; split_ifs <;> exact this
    cases hspec with
    | none => exact h.queue
    | retransmit f rest rq g hact hshut hq' hsplit =>
      have hrest : ∀ x ∈ rest, x.data ≠ [] ∨ x.fin = true :=
        fun x hx => h.queue x (by simp [hq', hx])
      cases hsplit with
      | whole => exact hrest
      | split n hpos hlt =>
        have hlen := hsh.queueSize f (by simp [hq'])
        have := pc.maxPacketBufferSize_lt
        rintro x (_ | ⟨_, hx⟩)
        · exact .inl (by simp; omega)
        · exact hrest x hx
    | fin => exact h.queue
    | new => exact h.queue
  refine ⟨hnext, hq, ?_⟩
  simp only [List.mem_append, Option.mem_toList]
  rintro f (hf | hf)
  · exact h.inFlight f hf
  · exact (hframe f hf).1

theorem step {e : Event} (h : Framed s) (hsh : Shape pc s) (he : e.inFramerRange pc = true)
    (hn : s.next pc cfg e = some (ok s')) : Framed s' := by
  cases e with
  | write p =>
    obtain ⟨-, r, hr, rfl⟩ := Sys.next_write hn
    rcases SendStream.writeEntry_spec pc hr with ⟨e, rfl⟩ | ⟨-, -, -, -, hw⟩
    · exact h.quiet rfl (fun _ => id) (fun _ => id)
    · obtain ⟨nf, dfw, hst⟩ := hw.frame
      refine ⟨?_, ?_, ?_⟩ <;> simp only [Sys.afterWritePass_stream, Sys.afterWritePass_inFlight]
      · exact writeSpec hw h.next
      · rw [hst]; exact h.queue
      · exact h.inFlight
  | wake b =>
    obtain ⟨p, timer, st, r, -, hst, hr, rfl⟩ := Sys.next_wake hn
    have hw := SendStream.writeLoopIteration_spec pc hr
    obtain ⟨nf, dfw, hr1⟩ := hw.frame
    have hst' : st.nextFrame = s.stream.nextFrame ∧
        st.retransmissionQueue = s.stream.retransmissionQueue := by
      rcases hst with ⟨-, -, -, rfl⟩ | ⟨-, -, rfl⟩ <;> simp
    refine ⟨?_, ?_, ?_⟩ <;> simp only [Sys.afterWritePass_stream, Sys.afterWritePass_inFlight]
    · exact writeSpec hw (hst'.1 ▸ h.next)
    · rw [hr1]; exact hst'.2 ▸ h.queue
    · exact h.inFlight
  | close =>
    rw [Sys.next_close hn]
    unfold SendStream.close
    split_ifs <;> exact h.quiet rfl (fun _ => id) (fun _ => id)
  | cancelWrite c | stopSending c =>
    rcases Sys.next_cancel (c := c) (by simp) hn with ⟨-, rfl⟩ | ⟨-, err, rfl⟩
    · exact h
    · exact h.quiet rfl (by simp) (fun _ => id)
  | updateSendWindow l =>
    rw [Sys.next_updateSendWindow hn]
    exact h.quiet rfl (fun _ => id) (fun _ => id)
  | pop mb w => exact h.pop_step hsh (by simpa [Event.inFramerRange] using he) hn
  | acked i =>
    obtain ⟨f, st, ups, -, hr, rfl⟩ := Sys.next_acked hn
    have hI : s.inFlight.eraseIdx i ⊆ s.inFlight := fun _ => List.mem_of_mem_eraseIdx
    rcases SendStream.onAcked_spec hr with ⟨-, rfl, -⟩ | ⟨-, -, b, hb, -⟩
    · exact h.quiet rfl (fun _ => id) hI
    · rw [SendStream.isNewlyCompleted_eq] at hb
      cases hb
      exact h.quiet rfl (fun _ => id) hI
  | lost i r =>
    obtain ⟨f, st, ups, hget, hr, rfl⟩ := Sys.next_lost hn
    have hI : s.inFlight.eraseIdx i ⊆ s.inFlight := fun _ => List.mem_of_mem_eraseIdx
    rcases SendStream.onLost_spec hr with ⟨-, rfl, -⟩ | ⟨-, -, -, ⟨g, hg, rfl⟩ | ⟨n, -, rfl⟩⟩
    · exact h.quiet rfl (fun _ => id) hI
    · refine ⟨h.next, ?_, fun x hx => h.inFlight x (hI hx)⟩
      simp only [List.mem_append, List.mem_singleton]
      rintro x (hx | rfl)
      · exact h.queue x hx
      · rw [hg.data, hg.fin]
        exact h.inFlight f (List.get?_mem hget)
    · exact h.quiet rfl (fun _ => id) hI
  | tick | closeForShutdown err | setWriteDeadline t =>
    simp only [Sys.next, Option.some.injEq, ok.injEq] at hn
    subst hn
    exact h.quiet rfl (fun _ => id) (fun _ => id)

theorem reachable (hs : FramerReachable pc cfg s) : Framed s :=
  FramerReachable.induction init
    (fun _ _ _ hs h he hn => h.step (Shape.reachable hs.reachable) he hn) hs

end Framed

section Properties

/-- With a budget in the packet assembler's range, a pop never panics, and a frame it hands out
carries data or a FIN and is at most `maxBytes` long, the PR_STREAM frame's `PTDA` byte and
`ptdaC` varint included, on the retransmission, buffered, `dataForWriting` and FIN paths
alike. -/
theorem pop_within_budget {pc : Protocol} {cfg : PRConfig} {s : Sys}
    (hs : FramerReachable pc cfg s) {mb : Nat} (hmin : minStreamFrameSize ≤ mb)
    (hmax : mb ≤ pc.maxPacketBufferSize) (w : Nat) :
    ¬(s.stream.popStreamFrame pc cfg mb w).IsPanic ∧
      ∀ r, s.stream.popStreamFrame pc cfg mb w = ok r →
        ∀ f ∈ r.frame, (f.data ≠ [] ∨ f.fin = true) ∧ f.length ≤ mb := by
  have h := Framed.reachable hs
  have hsh := Shape.reachable hs.reachable
  obtain ⟨hp, hfits⟩ := SendStream.popStreamFrame_fits pc cfg w hmin hmax h.next hsh.nextSize
    h.queue hsh.queueSize
  exact ⟨hp, fun r hr => (hfits r hr).1⟩

set_option maxRecDepth 2000 in
/-- A lost 200-byte frame popped again under the smallest budget, with the shipped settings:
the frame handed out is cut to fit it. -/
theorem pop_within_budget_split : ∃ s, FramerReachable .quicGo .shipped s ∧
    s.stream.retransmissionQueue.map (fun f => f.data.length) = [200] ∧
    (∃ r, s.stream.popStreamFrame .quicGo .shipped 128 200 = ok r ∧ r.frame.isSome) ∧
    ¬(s.stream.popStreamFrame .quicGo .shipped 128 200).IsPanic ∧
      ∀ r, s.stream.popStreamFrame .quicGo .shipped 128 200 = ok r →
        ∀ f ∈ r.frame, (f.data ≠ [] ∨ f.fin = true) ∧ f.length ≤ 128 := by
  obtain ⟨s, hrun, hq, hpop⟩ : ∃ s, (Sys.init 0 1452).run .quicGo .shipped
      [.write (List.replicate 200 0), .pop 1452 200, .lost 0 0] = some (ok s) ∧
      s.stream.retransmissionQueue.map (fun f => f.data.length) = [200] ∧
      ∃ r, s.stream.popStreamFrame .quicGo .shipped 128 200 = ok r ∧ r.frame.isSome :=
    ⟨_, rfl, rfl, _, rfl, rfl⟩
  have hs := (FramerReachable.init 0 1452).run (by decide) hrun
  exact ⟨s, hs, hq, hpop, pop_within_budget hs (by decide) (by decide) 200⟩

end Properties

end PrQuic.Stream
