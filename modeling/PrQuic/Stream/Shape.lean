import PrQuic.Stream.Log

/-!
# Where the stream's frames sit

Two facts every run keeps, canceled or not.  The buffered `nextFrame` starts at the write
offset, so a frame popped from it starts where the last new frame ended.  Every frame the
stream holds or has handed out fits a packet buffer: the buffered frame because `Write` copies
only what fits, a frame of `dataForWriting` because re-slicing a pooled buffer beyond its
capacity would panic.  With `Protocol.maxPacketBufferSize_lt`, a frame is shorter than
`2^14` bytes, so splitting it for a retransmission leaves data in the second part.
-/

namespace PrQuic.Stream

open Wire GoResult

/-- Facts of every reachable state about the frames of the stream. -/
structure Shape (pc : Protocol) (s : Sys) : Prop where
  /-- the buffered frame starts at the write offset -/
  nextOffset : ∀ f ∈ s.stream.nextFrame, f.offset = s.stream.writeOffset
  /-- and fits a packet buffer -/
  nextSize : s.stream.nextFrameData.length ≤ pc.maxPacketBufferSize
  /-- so do the frames in flight -/
  inFlightSize : ∀ f ∈ s.inFlight, f.data.length ≤ pc.maxPacketBufferSize
  /-- and those queued for retransmission -/
  queueSize : ∀ f ∈ s.stream.retransmissionQueue, f.data.length ≤ pc.maxPacketBufferSize

namespace SendStream

theorem nextOffset_eq {s : SendStream} (h : ∀ f ∈ s.nextFrame, f.offset = s.writeOffset) :
    s.nextOffset = s.writeOffset := by
  unfold nextOffset; split <;> simp_all

end SendStream

namespace Shape

variable {pc : Protocol} {cfg : PRConfig}

theorem init (streamID initialWindow : Nat) : Shape pc (Sys.init streamID initialWindow) :=
  ⟨by simp [Sys.init, newSendStream], by simp [Sys.init, newSendStream, SendStream.nextFrameData],
    by simp [Sys.init], by simp [Sys.init, newSendStream]⟩

/-- A pass of `Write` keeps the shape: it copies into the buffered frame only what fits. -/
theorem writeSpec {t : SendStream} {now : Nat} {p : List UInt8} {r : SendStream × WriteStep}
    (h : SendStream.WriteSpec pc t now p r)
    (ho : ∀ f ∈ t.nextFrame, f.offset = t.writeOffset)
    (hs : t.nextFrameData.length ≤ pc.maxPacketBufferSize) :
    (∀ f ∈ r.1.nextFrame, f.offset = r.1.writeOffset) ∧
      r.1.nextFrameData.length ≤ pc.maxPacketBufferSize ∧
      r.1.writeOffset = t.writeOffset ∧ r.1.retransmissionQueue = t.retransmissionQueue := by
  cases h with
  | copied nf hbuf hd hdata hoff =>
    refine ⟨by simp [hoff, SendStream.nextOffset_eq ho], ?_, rfl, rfl⟩
    simp only [SendStream.canBufferStreamFrame, decide_eq_true_eq] at hbuf
    simpa [SendStream.nextFrameData, hdata] using hbuf
  | deadline => exact ⟨ho, by simpa [SendStream.nextFrameData] using hs, rfl, rfl⟩
  | returned => exact ⟨ho, hs, rfl, rfl⟩
  | wait => exact ⟨ho, hs, rfl, rfl⟩

/-- A pop hands out only frames that fit a packet buffer, and what it leaves buffered starts at
the new write offset. -/
theorem pop_step {s s' : Sys} {mb w : Nat} (h : Shape pc s)
    (hn : s.next pc cfg (.pop mb w) = some (ok s')) : Shape pc s' := by
  obtain ⟨ho, hs, hf, hq⟩ := h
  obtain ⟨-, r, hr, rfl⟩ := Sys.next_pop hn
  obtain ⟨r0, hspec, rfl⟩ := SendStream.popStreamFrame_spec pc cfg hr
  cases hspec with
  | none => exact ⟨ho, hs, by simpa using hf, hq⟩
  | retransmit f rest rq g hact hshut hq' hsplit =>
    have hfs := hq f (by simp [hq'])
    refine ⟨ho, hs, ?_, ?_⟩
    · simp only [Option.isSome_some, if_true, Option.map_some', Option.toList_some,
        List.mem_append, List.mem_singleton]
      rintro x (hx | rfl)
      · exact hf x hx
      · cases hsplit <;> simp <;> omega
    · cases hsplit with
      | whole => exact fun x hx => hq x (by rw [hq']; exact List.mem_cons_of_mem f hx)
      | split n hn hlt =>
        intro x hx
        rcases List.mem_cons.1 hx with rfl | hx
        · simp; omega
        · exact hq x (by rw [hq']; exact List.mem_cons_of_mem f hx)
  | fin =>
    refine ⟨ho, hs, ?_, hq⟩
    simp only [Option.isSome_some, if_true, Option.map_some', Option.toList_some,
      List.mem_append, List.mem_singleton]
    rintro x (hx | rfl)
    · exact hf x hx
    · simp [SendStream.finFrame]
  | new d dfw nf g more wc hact hshut hq' htake hoff hdata =>
    have hsz := htake.size
    have hsh := htake.shrinks.trans hs
    refine ⟨fun x hx => ?_, ?_, ?_, hq⟩
    · simpa using htake.nextOffset x hx
    · simpa [SendStream.nextFrameData_eq] using hsh
    · simp only [Option.isSome_some, if_true, Option.map_some', Option.toList_some,
        List.mem_append, List.mem_singleton]
      rintro x (hx | rfl)
      · exact hf x hx
      · simp only [SendStream.outFrame_data, hdata]
        exact hsz.trans (max_le hs le_rfl)

theorem step {s s' : Sys} {e : Event} (h : Shape pc s) (hn : s.next pc cfg e = some (ok s')) :
    Shape pc s' := by
  obtain ⟨ho, hs, hf, hq⟩ := h
  cases e with
  | write p =>
    obtain ⟨-, r, hr, rfl⟩ := Sys.next_write hn
    rcases SendStream.writeEntry_spec pc hr with ⟨e, rfl⟩ | ⟨-, -, -, -, hw⟩
    · exact ⟨ho, hs, hf, hq⟩
    · obtain ⟨h1, h2, -, h4⟩ := writeSpec hw ho hs
      exact ⟨by simpa using h1, by simpa using h2, by simpa using hf, by simpa [h4] using hq⟩
  | wake b =>
    obtain ⟨p, timer, st, r, -, hst, hr, rfl⟩ := Sys.next_wake hn
    have hst' : st.nextFrame = s.stream.nextFrame ∧ st.writeOffset = s.stream.writeOffset ∧
        st.retransmissionQueue = s.stream.retransmissionQueue := by
      rcases hst with ⟨-, -, -, rfl⟩ | ⟨-, -, rfl⟩ <;> simp
    obtain ⟨h1, h2, -, h4⟩ := writeSpec (SendStream.writeLoopIteration_spec pc hr)
      (by rw [hst'.1, hst'.2.1]; exact ho) (by simpa [SendStream.nextFrameData, hst'.1] using hs)
    exact ⟨by simpa using h1, by simpa using h2, by simpa using hf,
      by simpa [h4, hst'.2.2] using hq⟩
  | close =>
    rw [Sys.next_close hn]
    unfold SendStream.close
    split_ifs <;> exact ⟨ho, hs, hf, hq⟩
  | cancelWrite c | stopSending c =>
    rcases Sys.next_cancel (c := c) (by simp) hn with ⟨-, rfl⟩ | ⟨-, err, rfl⟩
    · exact ⟨ho, hs, hf, hq⟩
    · exact ⟨ho, hs, hf, by simp⟩
  | updateSendWindow l =>
    rw [Sys.next_updateSendWindow hn]
    exact ⟨ho, hs, hf, hq⟩
  | pop mb w => exact pop_step ⟨ho, hs, hf, hq⟩ hn
  | acked i =>
    obtain ⟨f, st, ups, -, hr, rfl⟩ := Sys.next_acked hn
    have hf' : ∀ x ∈ s.inFlight.eraseIdx i, x.data.length ≤ pc.maxPacketBufferSize :=
      fun x hx => hf x (List.mem_of_mem_eraseIdx hx)
    rcases SendStream.onAcked_spec hr with ⟨-, rfl, -⟩ | ⟨-, -, b, hb, -⟩
    · exact ⟨ho, hs, hf', hq⟩
    · rw [SendStream.isNewlyCompleted_eq] at hb
      cases hb
      exact ⟨ho, hs, hf', hq⟩
  | lost i r =>
    obtain ⟨f, st, ups, hget, hr, rfl⟩ := Sys.next_lost hn
    have hf' : ∀ x ∈ s.inFlight.eraseIdx i, x.data.length ≤ pc.maxPacketBufferSize :=
      fun x hx => hf x (List.mem_of_mem_eraseIdx hx)
    rcases SendStream.onLost_spec hr with ⟨-, rfl, -⟩ | ⟨-, -, -, ⟨g, hg, rfl⟩ | ⟨n, -, rfl⟩⟩
    · exact ⟨ho, hs, hf', hq⟩
    · refine ⟨ho, hs, hf', ?_⟩
      simp only [List.mem_append, List.mem_singleton]
      rintro x (hx | rfl)
      · exact hq x hx
      · rw [hg.data]; exact hf f (List.get?_mem hget)
    · exact ⟨ho, hs, hf', hq⟩
  | _ =>
    simp only [Sys.next, Option.some.injEq, ok.injEq] at hn; subst hn
    exact ⟨ho, hs, hf, hq⟩

theorem reachable {s : Sys} (hs : Reachable pc cfg s) : Shape pc s :=
  Reachable.induction init (fun _ _ _ _ h hn => h.step hn) hs

end Shape

end PrQuic.Stream
