import PrQuic.Stream.Shape

/-!
# What the frames carry

Up to a cancellation or a shutdown, every frame handed out carries, at its offset, the bytes
`Write` accepted (`Sys.acceptedBytes`: `p[:n]` of each returned call, then the slice of a call
in progress).  `Content` cuts them into the bytes the new frames carried (`newData`), which end
at the write offset, the buffered frame's data, and the rest of `dataForWriting`.  A pop moves
bytes from the last two parts to the first, a pass of `Write` from the third to the second, and
every frame popped, in flight or queued is a piece of the first part at its offset.
-/

namespace PrQuic.Stream

open Wire GoResult

/-! ## Bytes at an offset -/

/-- The bytes `d` are those of `P` from offset `o` on. -/
def FramedIn (P : List UInt8) (o : Nat) (d : List UInt8) : Prop :=
  o + d.length ≤ P.length ∧ (P.drop o).take d.length = d

namespace FramedIn

variable {P d : List UInt8} {o : Nat}

theorem append (h : FramedIn P o d) (Q : List UInt8) : FramedIn (P ++ Q) o d := by
  obtain ⟨h1, h2⟩ := h
  refine ⟨by simp only [List.length_append]; omega, ?_⟩
  rw [List.drop_append_of_le_length (by omega),
    List.take_append_of_le_length (by simp only [List.length_drop]; omega)]
  exact h2

theorem take (h : FramedIn P o d) (n : Nat) : FramedIn P o (d.take n) := by
  obtain ⟨h1, h2⟩ := h
  refine ⟨by simp only [List.length_take]; omega, ?_⟩
  rw [List.length_take, ← List.take_take, h2]

theorem drop (h : FramedIn P o d) {n : Nat} (hn : n ≤ d.length) :
    FramedIn P (o + n) (d.drop n) := by
  obtain ⟨h1, h2⟩ := h
  refine ⟨by simp only [List.length_drop]; omega, ?_⟩
  conv_rhs => rw [← h2]
  rw [List.length_drop, List.drop_take, List.drop_drop]

theorem nil (h : o ≤ P.length) : FramedIn P o [] :=
  ⟨by simpa using h, rfl⟩

theorem end_append (P d : List UInt8) : FramedIn (P ++ d) P.length d :=
  ⟨by simp, by simp⟩

end FramedIn

/-- A split of a frame's data is framed where the frame was: both parts, when the frame is
short enough for the split to leave data in the second. -/
theorem SendStream.Splits.framedIn {pc : Protocol} {P : List UInt8} {f g : StreamFrame}
    {rest rq : List StreamFrame} (hs : SendStream.Splits pc f rest g rq)
    (hf : FramedIn P f.offset f.data) (hrest : ∀ x ∈ rest, FramedIn P x.offset x.data)
    (hsz : f.data.length < 2 ^ 14) :
    FramedIn P g.offset g.data ∧ ∀ x ∈ rq, FramedIn P x.offset x.data := by
  cases hs with
  | whole => exact ⟨hf, hrest⟩
  | split n hn hlt =>
    refine ⟨hf.take n, ?_⟩
    rintro x (_ | ⟨_, hx⟩)
    · exact hf.drop (hlt hsz).le
    · exact hrest x hx

/-! ## The bytes accepted -/

/-- The slice of the `Write` call in progress, installed as `dataForWriting`. -/
def Writer.pending : Writer → List UInt8
  | .idle => []
  | .waiting p _ => p

namespace Sys

/-- The bytes `Write` accepted: `p[:n]` of each returned call, then the slice of the call in
progress. -/
def acceptedBytes (s : Sys) : List UInt8 :=
  accepted s.log ++ s.writer.pending

/-- The stream is neither canceled nor shut down. -/
def Active (s : Sys) : Prop :=
  s.stream.canceledWrite = false ∧ s.stream.closedForShutdown = false

variable {pc : Protocol} {cfg : PRConfig}

/-- A state is active only after an active one. -/
theorem active_of_next {s s' : Sys} {e : Event} (hn : s.next pc cfg e = some (ok s'))
    (h : s'.Active) : s.Active := by
  obtain ⟨hc, hd⟩ := flags_of_next hn
  unfold Active at *
  cases hc' : s.stream.canceledWrite <;> cases hd' : s.stream.closedForShutdown <;> simp_all

end Sys

/-! ## The invariant -/

/-- What the frames of an active run carry. -/
structure Content (s : Sys) : Prop where
  /-- the bytes accepted are those the new frames carried, then the buffered ones, then what is
  left of the slice of the call in progress -/
  buffer : newData s.log ++ (s.stream.nextFrameData ++ s.stream.dataForWriting) = s.acceptedBytes
  /-- the new frames carried the bytes before the write offset -/
  length : (newData s.log).length = s.stream.writeOffset
  /-- what is left is the end of the slice of the call in progress -/
  suffix : s.stream.dataForWriting <:+ s.writer.pending
  /-- every frame popped carries those bytes at its offset -/
  popped : ∀ f ∈ poppedFrames s.log, FramedIn (newData s.log) f.offset f.data
  /-- and so does every frame in flight -/
  inFlight : ∀ f ∈ s.inFlight, FramedIn (newData s.log) f.offset f.data
  /-- and every frame queued for retransmission -/
  queue : ∀ f ∈ s.stream.retransmissionQueue, FramedIn (newData s.log) f.offset f.data

/-- A pass of `Write(p)` on the stream `t`, whose buffered bytes and `dataForWriting` complete
the bytes accepted before the call to `p`, keeps the bytes accepted cut in the same way. -/
theorem SendStream.WriteSpec.content {pc : Protocol} {t : SendStream} {now : Nat}
    {p : List UInt8} {r : SendStream × WriteStep} (hw : SendStream.WriteSpec pc t now p r)
    (s : Sys) (first : Bool) (hc : t.canceledWrite = false) (hsd : t.closedForShutdown = false)
    (hb : newData s.log ++ (t.nextFrameData ++ t.dataForWriting) = accepted s.log ++ p)
    (hsuf : t.dataForWriting <:+ p) :
    newData s.log ++ (r.1.nextFrameData ++ r.1.dataForWriting) =
        (s.afterWritePass p first r).acceptedBytes ∧
      r.1.dataForWriting <:+ (s.afterWritePass p first r).writer.pending := by
  cases first <;> cases hw with
  | copied nf hbuf hd hdata hoff =>
    simpa [Sys.afterWritePass, Sys.acceptedBytes, Writer.pending,
        SendStream.nextFrameData, hdata] using hb
  | deadline hd =>
    obtain ⟨q, rfl⟩ := hsuf
    rw [← List.append_assoc, ← List.append_assoc, List.append_left_inj] at hb
    simpa [Sys.afterWritePass, Sys.acceptedBytes, Writer.pending] using hb
  | returned hd h =>
    have hD : t.dataForWriting = [] := by simpa [hc, hsd] using h
    simpa [Sys.afterWritePass, Sys.acceptedBytes, Writer.pending, hD] using hb
  | wait => exact ⟨by simpa [Sys.afterWritePass, Sys.acceptedBytes, Writer.pending] using hb, hsuf⟩

namespace Content

variable {pc : Protocol} {cfg : PRConfig}

theorem init (streamID initialWindow : Nat) : Content (Sys.init streamID initialWindow) := by
  refine ⟨?_, rfl, ?_, ?_, ?_, ?_⟩ <;>
    simp [Sys.init, newSendStream, SendStream.nextFrameData, Sys.acceptedBytes, Writer.pending,
      newData]

/-- A step that logs neither accepted bytes nor popped frames, keeps the buffered bytes, the
write offset and the writer, and keeps in flight or queued only frames that carry bytes
already sent at their offsets, keeps the invariant. -/
theorem quiet {s s' : Sys} (h : Content s)
    (hlog : ∃ M, s'.log = s.log ++ M ∧ accepted M = [] ∧ poppedFrames M = [] ∧ newFrames M = [])
    (hN : s'.stream.nextFrame = s.stream.nextFrame)
    (hD : s'.stream.dataForWriting = s.stream.dataForWriting)
    (hW : s'.stream.writeOffset = s.stream.writeOffset) (hw : s'.writer = s.writer)
    (hI : ∀ f ∈ s'.inFlight, f ∈ s.inFlight)
    (hQ : ∀ f ∈ s'.stream.retransmissionQueue, FramedIn (newData s.log) f.offset f.data) :
    Content s' := by
  obtain ⟨M, hlog, hA, hP, hF⟩ := hlog
  have hnd : newData s'.log = newData s.log := by simp [hlog, newData, hF]
  refine ⟨?_, by rw [hnd, hW]; exact h.length, by rw [hD, hw]; exact h.suffix, ?_,
    fun f hf => hnd ▸ h.inFlight f (hI f hf), hnd ▸ hQ⟩
  · rw [hnd, SendStream.nextFrameData_eq, hN, hD, ← SendStream.nextFrameData_eq,
      Sys.acceptedBytes, hlog, accepted_append, hA, List.append_nil, hw]
    exact h.buffer
  · rw [hnd, hlog, poppedFrames_append, hP, List.append_nil]
    exact h.popped

theorem write_step {s s' : Sys} {p : List UInt8} (h : Content s) (ha : s'.Active)
    (hn : s.next pc cfg (.write p) = some (ok s')) : Content s' := by
  obtain ⟨hidle, r, hr, rfl⟩ := Sys.next_write hn
  obtain ⟨nf, dfw, hst⟩ := SendStream.writeEntry_frame pc hr
  have hpend : s.stream.dataForWriting = [] := by
    simpa [hidle, Writer.pending] using h.suffix
  have hcut : newData s.log ++ (r.1.nextFrameData ++ r.1.dataForWriting) =
        (s.afterWritePass p true r).acceptedBytes ∧
      r.1.dataForWriting <:+ (s.afterWritePass p true r).writer.pending := by
    rcases SendStream.writeEntry_spec pc hr with ⟨e, rfl⟩ | ⟨-, -, -, -, hw⟩
    · simpa [Sys.afterWritePass, Sys.acceptedBytes, Writer.pending, hidle, hpend] using h.buffer
    · have ha' : r.1.canceledWrite = false ∧ r.1.closedForShutdown = false := by
        simpa [Sys.Active] using ha
      refine hw.content s true (by simpa [hst] using ha'.1) (by simpa [hst] using ha'.2) ?_
        (List.suffix_refl p)
      have hb := h.buffer
      simp only [Sys.acceptedBytes, Writer.pending, hidle, hpend, List.append_nil] at hb
      simp [SendStream.nextFrameData_eq, ← List.append_assoc, ← hb]
  refine ⟨by simpa using hcut.1, by simpa [hst] using h.length, by simpa using hcut.2, ?_, ?_, ?_⟩
  · simpa using h.popped
  · simpa using h.inFlight
  · simpa [hst] using h.queue

theorem wake_step {s s' : Sys} {b : Bool} (h : Content s) (ha : s'.Active)
    (hn : s.next pc cfg (.wake b) = some (ok s')) : Content s' := by
  obtain ⟨p, timer, st, r, hw, hst, hr, rfl⟩ := Sys.next_wake hn
  obtain ⟨nf, dfw, hr1⟩ := (SendStream.writeLoopIteration_spec pc hr).frame
  have hst' : st.nextFrame = s.stream.nextFrame ∧ st.dataForWriting = s.stream.dataForWriting ∧
      st.canceledWrite = s.stream.canceledWrite ∧
      st.closedForShutdown = s.stream.closedForShutdown := by
    rcases hst with ⟨-, -, -, rfl⟩ | ⟨-, -, rfl⟩ <;> simp
  have ha' : r.1.canceledWrite = false ∧ r.1.closedForShutdown = false := by
    simpa [Sys.Active] using ha
  have hcut := (SendStream.writeLoopIteration_spec pc hr).content s false
    (by simpa [hr1] using ha'.1) (by simpa [hr1] using ha'.2)
    (by simpa [SendStream.nextFrameData_eq, hst', Sys.acceptedBytes, hw, Writer.pending]
      using h.buffer)
    (by simpa [hst', hw, Writer.pending] using h.suffix)
  have hW : r.1.writeOffset = s.stream.writeOffset ∧
      r.1.retransmissionQueue = s.stream.retransmissionQueue := by
    rcases hst with ⟨-, -, -, rfl⟩ | ⟨-, -, rfl⟩ <;> simp [hr1]
  refine ⟨by simpa using hcut.1, by simpa [hW.1] using h.length, by simpa using hcut.2,
    ?_, ?_, ?_⟩
  · simpa using h.popped
  · simpa using h.inFlight
  · simpa [hW.2] using h.queue

theorem pop_step {s s' : Sys} {mb w : Nat} (h : Content s) (hsh : Shape pc s)
    (hn : s.next pc cfg (.pop mb w) = some (ok s')) : Content s' := by
  obtain ⟨-, r, hr, rfl⟩ := Sys.next_pop hn
  obtain ⟨r0, hspec, rfl⟩ := SendStream.popStreamFrame_spec pc cfg hr
  obtain ⟨hb, hl, hs, hp, hf, hq⟩ := h
  cases hspec with
  | none fc more ups hsent hwin hups =>
    exact Content.quiet ⟨hb, hl, hs, hp, hf, hq⟩ ⟨_, rfl, by simp, by simp, by simp⟩ rfl rfl rfl
      rfl (by simp) hq
  | retransmit f rest rq g hact hshut hq' hsplit =>
    have hretr : s.stream.popsRetransmission = true := by
      simp [SendStream.popsRetransmission, hact, hshut, hq']
    have hsz : f.data.length < 2 ^ 14 :=
      lt_of_le_of_lt (hsh.queueSize f (by simp [hq'])) pc.maxPacketBufferSize_lt
    obtain ⟨hg, hrq⟩ := hsplit.framedIn (hq f (by simp [hq']))
      (fun x hx => hq x (by simp [hq', hx])) hsz
    exact ⟨by simpa [hretr, Sys.acceptedBytes, SendStream.nextFrameData_eq] using hb,
      by simpa [hretr] using hl, by simpa using hs,
      by simpa [hretr, or_imp, forall_and] using And.intro hp hg,
      by simpa [hretr, or_imp, forall_and] using And.intro hf hg, by simpa [hretr] using hrq⟩
  | fin hact hshut hq' hd hnf hw hfs =>
    have hretr : s.stream.popsRetransmission = false := by
      simp [SendStream.popsRetransmission, hq']
    have hW : FramedIn (newData s.log) s.stream.writeOffset [] := FramedIn.nil hl.ge
    exact ⟨by simpa [hretr, SendStream.finFrame, Sys.acceptedBytes,
        SendStream.nextFrameData_eq] using hb,
      by simpa [hretr, SendStream.finFrame] using hl, by simpa using hs,
      by simpa [hretr, or_imp, forall_and, SendStream.finFrame] using And.intro hp hW,
      by simpa [hretr, or_imp, forall_and, SendStream.finFrame] using And.intro hf hW,
      by simpa [hretr, SendStream.finFrame] using hq⟩
  | new d dfw nf g more wc hact hshut hq' htake hoff hdata hfin =>
    have hretr : s.stream.popsRetransmission = false := by
      simp [SendStream.popsRetransmission, hq']
    have hg : FramedIn (newData s.log ++ d) g.offset g.data := by
      rw [hoff, SendStream.nextOffset_eq hsh.nextOffset, ← hl, hdata]
      exact FramedIn.end_append _ _
    have hbuf : newData s.log ++ d ++ ((nf.map StreamFrame.data).getD [] ++ dfw) =
        s.acceptedBytes := by
      rw [List.append_assoc, ← htake.buffer, hb]
    exact ⟨by simpa [hretr, hdata, Sys.acceptedBytes, SendStream.nextFrameData_eq] using hbuf,
      by simp [hretr, hdata, hl], by simpa using htake.suffix.trans hs,
      by simpa [hretr, hdata, or_imp, forall_and] using
        And.intro (fun x hx => (hp x hx).append d) hg,
      by simpa [hretr, hdata, or_imp, forall_and] using
        And.intro (fun x hx => (hf x hx).append d) hg,
      by simp [hq']⟩

theorem acked_step {s s' : Sys} {i : Nat} (h : Content s)
    (hn : s.next pc cfg (.acked i) = some (ok s')) : Content s' := by
  obtain ⟨f, st, ups, -, hr, rfl⟩ := Sys.next_acked hn
  obtain ⟨hN, hD, hW, hQ⟩ : st.nextFrame = s.stream.nextFrame ∧
      st.dataForWriting = s.stream.dataForWriting ∧ st.writeOffset = s.stream.writeOffset ∧
      st.retransmissionQueue = s.stream.retransmissionQueue := by
    rcases SendStream.onAcked_spec hr with ⟨-, rfl, -⟩ | ⟨-, -, b, hb, -⟩
    · exact ⟨rfl, rfl, rfl, rfl⟩
    · rw [SendStream.isNewlyCompleted_eq] at hb
      cases hb
      exact ⟨rfl, rfl, rfl, rfl⟩
  exact h.quiet ⟨_, rfl, by simp, by simp, by simp⟩ hN hD hW rfl
    (fun _ => List.mem_of_mem_eraseIdx) (hQ ▸ h.queue)

theorem lost_step {s s' : Sys} {i r : Nat} (h : Content s)
    (hn : s.next pc cfg (.lost i r) = some (ok s')) : Content s' := by
  obtain ⟨f, st, ups, hget, hr, rfl⟩ := Sys.next_lost hn
  have hf : FramedIn (newData s.log) f.offset f.data := h.inFlight f (List.get?_mem hget)
  obtain ⟨hN, hD, hW, hQ⟩ : st.nextFrame = s.stream.nextFrame ∧
      st.dataForWriting = s.stream.dataForWriting ∧ st.writeOffset = s.stream.writeOffset ∧
      ∀ x ∈ st.retransmissionQueue, FramedIn (newData s.log) x.offset x.data := by
    rcases SendStream.onLost_spec hr with ⟨-, rfl, -⟩ | ⟨-, -, -, ⟨g, hg, rfl⟩ | ⟨n, -, rfl⟩⟩
    · exact ⟨rfl, rfl, rfl, h.queue⟩
    · refine ⟨rfl, rfl, rfl, ?_⟩
      simpa [or_imp, forall_and, hg.offset, hg.data] using And.intro h.queue hf
    · exact ⟨rfl, rfl, rfl, h.queue⟩
  exact h.quiet ⟨_, rfl, by simp, by simp, by simp⟩ hN hD hW rfl
    (fun _ => List.mem_of_mem_eraseIdx) hQ

theorem step {s s' : Sys} {e : Event} (h : Content s) (hsh : Shape pc s) (ha : s.Active)
    (ha' : s'.Active) (hn : s.next pc cfg e = some (ok s')) : Content s' := by
  cases e with
  | write p => exact h.write_step ha' hn
  | wake b => exact h.wake_step ha' hn
  | pop mb w => exact h.pop_step hsh hn
  | acked i => exact h.acked_step hn
  | lost i r => exact h.lost_step hn
  | close =>
    rw [Sys.next_close hn]
    unfold SendStream.close
    split_ifs <;> exact h.quiet ⟨_, List.append_assoc .., by simp, by simp, by simp⟩ rfl rfl rfl rfl
      (fun _ => id) h.queue
  | cancelWrite c | stopSending c =>
    rcases Sys.next_cancel (c := c) (by simp) hn with ⟨hc, rfl⟩ | ⟨-, err, rfl⟩
    · simp [ha.1] at hc
    · simp [Sys.Active] at ha'
  | closeForShutdown err =>
    simp only [Sys.next, Option.some.injEq, ok.injEq] at hn; subst hn
    simp [Sys.Active, SendStream.closeForShutdown] at ha'
  | updateSendWindow l =>
    rw [Sys.next_updateSendWindow hn]
    exact h.quiet ⟨_, rfl, by simp, by simp, by simp⟩ rfl rfl rfl rfl (fun _ => id) h.queue
  | tick | setWriteDeadline t =>
    simp only [Sys.next, Option.some.injEq, ok.injEq] at hn; subst hn
    exact ⟨h.buffer, h.length, h.suffix, h.popped, h.inFlight, h.queue⟩

theorem reachable {s : Sys} (hs : Reachable pc cfg s) (ha : s.Active) : Content s :=
  Reachable.induction (P := fun s => s.Active → Content s) (fun _ _ _ => init _ _)
    (fun _ _ _ hs h hn ha' =>
      have ha := Sys.active_of_next hn ha'
      (h ha).step (Shape.reachable hs) ha ha' hn) hs ha

end Content


/-- A pop originates its frame, if any, at the write offset. -/
theorem Sys.pop_originates_at_writeOffset {pc : Protocol} {cfg : PRConfig} {s s' : Sys}
    {mb w : Nat} (hsh : Shape pc s) (hn : s.next pc cfg (.pop mb w) = some (ok s')) :
    ∃ fs, newFrames s'.log = newFrames s.log ++ fs ∧ ∀ f ∈ fs, f.offset = s.stream.writeOffset := by
  obtain ⟨-, r, hr, rfl⟩ := Sys.next_pop hn
  obtain ⟨r0, hspec, rfl⟩ := SendStream.popStreamFrame_spec pc cfg hr
  cases hspec with
  | none => exact ⟨[], by simp, by simp⟩
  | retransmit f rest rq g hact hshut hq =>
    exact ⟨[], by simp [SendStream.popsRetransmission, hact, hshut, hq], by simp⟩
  | fin hact hshut hq =>
    exact ⟨[SendStream.outFrame cfg (SendStream.finFrame s.stream)],
      by simp [SendStream.popsRetransmission, hq], by simp [SendStream.finFrame]⟩
  | new d dfw nf g more wc hact hshut hq htake hoff =>
    exact ⟨[SendStream.outFrame cfg g], by simp [SendStream.popsRetransmission, hq],
      by simp [hoff, SendStream.nextOffset_eq hsh.nextOffset]⟩

section Properties

variable {pc : Protocol} {cfg : PRConfig}

/-- Up to a cancellation or a shutdown, every frame popped ends before the write offset and
carries the bytes `Write` accepted at its offset; the new frames carried exactly the bytes
before the write offset; and a pop originates its frame at the write offset. -/
theorem content_integrity {s : Sys} (hs : Reachable pc cfg s) (ha : s.Active) :
    (∀ f ∈ poppedFrames s.log, f.offset + f.data.length ≤ s.stream.writeOffset ∧
        f.data = (s.acceptedBytes.drop f.offset).take f.data.length) ∧
      newData s.log = s.acceptedBytes.take s.stream.writeOffset ∧
      ∀ mb w s', s.next pc cfg (.pop mb w) = some (ok s') →
        ∃ fs, newFrames s'.log = newFrames s.log ++ fs ∧
          ∀ f ∈ fs, f.offset = s.stream.writeOffset := by
  have h := Content.reachable hs ha
  refine ⟨fun f hf => ?_, ?_, fun mb w s' hn => Sys.pop_originates_at_writeOffset
    (Shape.reachable hs) hn⟩
  · have hB := (h.popped f hf).append (s.stream.nextFrameData ++ s.stream.dataForWriting)
    rw [h.buffer] at hB
    exact ⟨h.length ▸ (h.popped f hf).1, hB.2.symm⟩
  · rw [← h.buffer, ← h.length, List.take_left]

/-- On `halvedRetransmission` the five frames popped, the lost frame's halves among them, each
carry the bytes written at their offsets. -/
theorem content_integrity_halved : ∃ s,
    (Sys.init 0 1452).run .quicGo .shipped halvedRetransmission = some (ok s) ∧
    Reachable .quicGo .shipped s ∧ s.Active ∧
    (poppedFrames s.log).map (fun f => (f.offset, f.data.length)) =
      [(0, 2), (2, 1), (0, 1), (1, 1), (3, 0)] ∧
    (∀ f ∈ poppedFrames s.log, f.offset + f.data.length ≤ s.stream.writeOffset ∧
        f.data = (s.acceptedBytes.drop f.offset).take f.data.length) ∧
      newData s.log = s.acceptedBytes.take s.stream.writeOffset ∧
      ∀ mb w s', s.next .quicGo .shipped (.pop mb w) = some (ok s') →
        ∃ fs, newFrames s'.log = newFrames s.log ++ fs ∧
          ∀ f ∈ fs, f.offset = s.stream.writeOffset := by
  obtain ⟨s, hrun, ha, hp⟩ : ∃ s, (Sys.init 0 1452).run .quicGo .shipped halvedRetransmission =
      some (ok s) ∧ s.Active ∧ (poppedFrames s.log).map (fun f => (f.offset, f.data.length)) =
        [(0, 2), (2, 1), (0, 1), (1, 1), (3, 0)] :=
    ⟨_, rfl, ⟨rfl, rfl⟩, by decide⟩
  have hs := (Reachable.init 0 1452).run hrun
  exact ⟨s, hrun, hs, ha, hp, content_integrity hs ha⟩

end Properties

end PrQuic.Stream
