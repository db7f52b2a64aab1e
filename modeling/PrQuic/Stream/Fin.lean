import PrQuic.Stream.Content

/-!
# The FIN

A new frame carries FIN when its pop leaves nothing to frame after a `Close`, and `finSent` keeps
a second one from being made.  `FinInvariant` says that one new frame carried FIN exactly when
`finSent` holds, that `finishedWriting` was set by a `Close` that returned nil, that nothing is
left to frame after FIN, and that the FIN frame follows that `Close` in the log, ends at the
write offset and has no data in new frames after it, in every run.  Up to a cancellation or a
shutdown, `Content` then makes the write offset the number of bytes `Write` accepted.
-/

namespace PrQuic.Stream

open Wire GoResult

/-- A position in a log that a step extended by `M` is one of the old log or one of `M`. -/
theorem eq_append_cons_of_append {α : Type} {log M l₁ l₂ : List α} {x : α}
    (h : log ++ M = l₁ ++ x :: l₂) :
    (∃ l, log = l₁ ++ x :: l ∧ l₂ = l ++ M) ∨ ∃ m, l₁ = log ++ m ∧ M = m ++ x :: l₂ := by
  rcases List.append_eq_append_iff.1 h with ⟨m, rfl, hM⟩ | ⟨c, rfl, hc⟩
  · exact .inr ⟨m, rfl, hM⟩
  · cases c with
    | nil => exact .inr ⟨[], by simp, by simpa using hc.symm⟩
    | cons y c =>
      obtain ⟨rfl, rfl⟩ := List.cons.inj hc
      exact .inl ⟨c, rfl, rfl⟩

/-- A pass of `Write` with nothing left to buffer keeps the buffered frame and leaves nothing. -/
theorem SendStream.WriteSpec.drained {pc : Protocol} {t : SendStream} {now : Nat}
    {p : List UInt8} {r : SendStream × WriteStep} (hw : SendStream.WriteSpec pc t now p r)
    (hD : t.dataForWriting = []) : r.1.nextFrame = t.nextFrame ∧ r.1.dataForWriting = [] := by
  cases hw <;> simp_all

/-- Where the FIN is, in every run. -/
structure FinInvariant (s : Sys) : Prop where
  /-- one new frame carried FIN once `finSent` holds, and none before -/
  count : ((newFrames s.log).filter OutFrame.fin).length = if s.stream.finSent then 1 else 0
  /-- only a `Close` that returned nil sets `finishedWriting` -/
  closed : s.stream.finishedWriting = true → .closeReturned none ∈ s.log
  /-- FIN is sent after `Close` -/
  finished : s.stream.finSent = true → s.stream.finishedWriting = true
  /-- and leaves nothing to frame -/
  drained : s.stream.finSent = true → s.stream.nextFrame = none ∧ s.stream.dataForWriting = []
  /-- the FIN frame came after the `Close`, ends at the write offset, and the new frames after
  it carry no data -/
  history : ∀ l₁ l₂ f more, s.log = l₁ ++ .popped (some f) more false :: l₂ → f.fin = true →
    .closeReturned none ∈ l₁ ∧ f.offset + f.data.length = s.stream.writeOffset ∧
      ∀ g ∈ newFrames l₂, g.data = []

namespace FinInvariant

variable {pc : Protocol} {cfg : PRConfig} {s s' : Sys}

theorem init (streamID initialWindow : Nat) : FinInvariant (Sys.init streamID initialWindow) :=
  ⟨rfl, by simp [Sys.init, newSendStream], by simp [Sys.init, newSendStream],
    by simp [Sys.init, newSendStream], by simp [Sys.init]⟩

theorem finSent_of_mem (h : FinInvariant s) {f : OutFrame} (hf : f ∈ newFrames s.log)
    (hfin : f.fin = true) : s.stream.finSent = true := by
  have hpos : 0 < ((newFrames s.log).filter OutFrame.fin).length :=
    List.length_pos.2 (List.ne_nil_of_mem (List.mem_filter.2 ⟨hf, hfin⟩))
  by_contra hne
  simp [h.count, hne] at hpos

/-- A step that originates no frame and keeps the FIN state and the write offset keeps the
invariant; it may set `finishedWriting` when it logs a `Close` that returned nil. -/
theorem quiet (h : FinInvariant s) (hlog : ∃ M, s'.log = s.log ++ M ∧ newFrames M = [])
    (hfs : s'.stream.finSent = s.stream.finSent)
    (hfw : s'.stream.finishedWriting = s.stream.finishedWriting ∨
      s'.stream.finishedWriting = true ∧ .closeReturned none ∈ s'.log)
    (hdr : s.stream.finSent = true →
      s'.stream.nextFrame = none ∧ s'.stream.dataForWriting = [])
    (hW : s'.stream.writeOffset = s.stream.writeOffset) : FinInvariant s' := by
  obtain ⟨M, hlog, hM⟩ := hlog
  refine ⟨by simpa [hlog, hM, hfs] using h.count, fun hw => ?_, fun hf => ?_,
    fun hf => hdr (hfs ▸ hf), ?_⟩
  · rcases hfw with hfw | ⟨-, hc⟩
    · exact hlog ▸ List.mem_append_left _ (h.closed (hfw ▸ hw))
    · exact hc
  · rcases hfw with hfw | ⟨hfw, -⟩
    · exact hfw ▸ h.finished (hfs ▸ hf)
    · exact hfw
  · intro l₁ l₂ f more hl hfin
    rcases eq_append_cons_of_append (hlog.symm.trans hl) with ⟨l, hl', rfl⟩ | ⟨m, -, rfl⟩
    · obtain ⟨hc, ho, hd⟩ := h.history l₁ l f more hl' hfin
      exact ⟨hc, hW ▸ ho, by simpa [hM] using hd⟩
    · simp at hM

/-- A pop that originates `f` before any FIN was sent keeps the invariant when it sets
`finSent` exactly if `f` carries FIN, and a FIN frame comes after a `Close`, leaves nothing to
frame and ends at the new write offset. -/
theorem emit (h : FinInvariant s) (ups : List Upcall) (f : OutFrame) (more : Bool)
    (hlog : s'.log = s.log ++ (ups.map .upcall ++ [.popped (some f) more false]))
    (hfs0 : s.stream.finSent = false) (hfs : s'.stream.finSent = f.fin)
    (hfw : s'.stream.finishedWriting = s.stream.finishedWriting)
    (hfin : f.fin = true → s.stream.finishedWriting = true ∧ s'.stream.nextFrame = none ∧
      s'.stream.dataForWriting = [] ∧ f.offset + f.data.length = s'.stream.writeOffset) :
    FinInvariant s' := by
  have h0 : (newFrames s.log).filter OutFrame.fin = [] := by
    simpa [hfs0] using h.count
  refine ⟨?_, fun hw => ?_, fun hf => hfw ▸ (hfin (hfs ▸ hf)).1,
    fun hf => ⟨(hfin (hfs ▸ hf)).2.1, (hfin (hfs ▸ hf)).2.2.1⟩, ?_⟩
  · cases hf : f.fin <;> simp [hlog, h0, hfs, hf]
  · exact hlog ▸ List.mem_append_left _ (h.closed (hfw ▸ hw))
  · intro l₁ l₂ g more' hl hg
    rcases eq_append_cons_of_append (hlog.symm.trans hl) with ⟨l, hl', -⟩ | ⟨m, rfl, hM⟩
    · have := h.finSent_of_mem (by simp [hl']) hg
      simp [hfs0] at this
    · have hnf := congrArg newFrames hM
      simp only [newFrames_append, newFrames_map_upcall, newFrames_cons, newFrames_nil,
        Observation.newFrame, Bool.false_eq_true, if_false, Option.toList_some,
        List.nil_append, List.append_nil, List.cons_eq_append_iff] at hnf
      obtain ⟨rfl, hl₂⟩ : g = f ∧ newFrames l₂ = [] := by
        rcases hnf with ⟨-, hgf⟩ | ⟨a, -, ha⟩
        · exact List.cons.inj hgf
        · simp at ha
      obtain ⟨hw, -, -, ho⟩ := hfin hg
      exact ⟨List.mem_append_left _ (h.closed hw), ho, by simp [hl₂]⟩

/-- A pop keeps the invariant: it originates a FIN frame only once, when nothing is left to
frame after a `Close`, and a frame it takes from the retransmission queue is not new. -/
theorem pop_step {mb w : Nat} (h : FinInvariant s) (hsh : Shape pc s)
    (hn : s.next pc cfg (.pop mb w) = some (ok s')) : FinInvariant s' := by
  obtain ⟨-, r, hr, rfl⟩ := Sys.next_pop hn
  obtain ⟨r0, hspec, rfl⟩ := SendStream.popStreamFrame_spec pc cfg hr
  cases hspec with
  | none fc more ups => exact h.quiet ⟨_, rfl, by simp⟩ rfl (.inl rfl) h.drained rfl
  | retransmit f rest rq g hact hshut hq =>
    exact h.quiet ⟨_, rfl, by simp [SendStream.popsRetransmission, hact, hshut, hq]⟩ rfl
      (.inl rfl) h.drained rfl
  | fin hact hshut hq hd hnf hw hf =>
    exact h.emit [] (SendStream.outFrame cfg (SendStream.finFrame s.stream)) false
      (by simp [SendStream.popsRetransmission, hq]) hf
      (by simp [SendStream.finFrame]) rfl
      (fun _ => ⟨hw, hnf, hd, by simp [SendStream.finFrame]⟩)
  | new d dfw nf g more wc hact hshut hq htake hoff hdata hfin hmore =>
    have hfs0 : s.stream.finSent = false := by
      by_contra hne
      obtain ⟨hN, hD⟩ := h.drained (by simpa using hne)
      simp [hN, hD] at hmore
    refine h.emit [] (SendStream.outFrame cfg g) more
      (by simp [SendStream.popsRetransmission, hq])
      hfs0 (by simp [hfs0]) rfl (fun hg => ?_)
    simp only [SendStream.outFrame_fin, hfin, hfs0, Bool.not_false, Bool.and_true,
      Bool.and_eq_true, List.isEmpty_iff, Option.isNone_iff_eq_none] at hg
    obtain ⟨⟨hw, hdfw⟩, hnf⟩ := hg
    exact ⟨hw, hnf, hdfw, by simp [hoff, SendStream.nextOffset_eq hsh.nextOffset, hdata]⟩

theorem step {e : Event} (h : FinInvariant s) (hsh : Shape pc s)
    (hn : s.next pc cfg e = some (ok s')) : FinInvariant s' := by
  cases e with
  | write p =>
    obtain ⟨-, r, hr, rfl⟩ := Sys.next_write hn
    rcases SendStream.writeEntry_spec pc hr with ⟨e, rfl⟩ | ⟨hfw, -, -, -, hw⟩
    · exact h.quiet ⟨_, rfl, by simp⟩ rfl (.inl rfl) h.drained rfl
    · have hfs : s.stream.finSent = false := by
        by_contra hne
        simp [h.finished (by simpa using hne)] at hfw
      obtain ⟨nf, dfw, hst⟩ := hw.frame
      exact h.quiet (afterWritePass_log s p true r) (by simp [hst])
        (.inl (by simp [hst])) (by simp [hfs]) (by simp [hst])
  | wake b =>
    obtain ⟨p, timer, st, r, -, hst, hr, rfl⟩ := Sys.next_wake hn
    have hw := SendStream.writeLoopIteration_spec pc hr
    obtain ⟨nf, dfw, hr1⟩ := hw.frame
    have hst' : st.nextFrame = s.stream.nextFrame ∧ st.dataForWriting = s.stream.dataForWriting ∧
        st.finSent = s.stream.finSent ∧ st.finishedWriting = s.stream.finishedWriting ∧
        st.writeOffset = s.stream.writeOffset := by
      rcases hst with ⟨-, -, -, rfl⟩ | ⟨-, -, rfl⟩ <;> simp
    refine h.quiet (afterWritePass_log s p false r) (by simp [hr1, hst'])
      (.inl (by simp [hr1, hst'])) (fun hf => ?_) (by simp [hr1, hst'])
    obtain ⟨hN, hD⟩ := h.drained hf
    simpa [hst', hN] using hw.drained (by rw [hst'.2.1, hD])
  | close =>
    rw [Sys.next_close hn]
    unfold SendStream.close
    split_ifs <;> exact h.quiet ⟨_, List.append_assoc .., by simp⟩ rfl (by simp) h.drained rfl
  | cancelWrite c | stopSending c =>
    rcases Sys.next_cancel (c := c) (by simp) hn with ⟨-, rfl⟩ | ⟨-, err, rfl⟩
    · exact h
    · exact h.quiet ⟨_, rfl, by simp⟩ rfl (.inl rfl) h.drained rfl
  | updateSendWindow l =>
    rw [Sys.next_updateSendWindow hn]
    exact h.quiet ⟨_, rfl, by simp⟩ rfl (.inl rfl) h.drained rfl
  | pop mb w => exact h.pop_step hsh hn
  | acked i =>
    obtain ⟨f, st, ups, -, hr, rfl⟩ := Sys.next_acked hn
    rcases SendStream.onAcked_spec hr with ⟨-, rfl, -⟩ | ⟨-, -, b, hb, -⟩
    · exact h.quiet ⟨_, rfl, by simp⟩ rfl (.inl rfl) h.drained rfl
    · rw [SendStream.isNewlyCompleted_eq] at hb
      cases hb
      exact h.quiet ⟨_, rfl, by simp⟩ rfl (.inl rfl) h.drained rfl
  | lost i r =>
    obtain ⟨f, st, ups, -, hr, rfl⟩ := Sys.next_lost hn
    rcases SendStream.onLost_spec hr with ⟨-, rfl, -⟩ | ⟨-, -, -, ⟨g, -, rfl⟩ | ⟨n, -, rfl⟩⟩ <;>
      exact h.quiet ⟨_, rfl, by simp⟩ rfl (.inl rfl) h.drained rfl
  | tick | closeForShutdown err | setWriteDeadline t =>
    simp only [Sys.next, Option.some.injEq, ok.injEq] at hn; subst hn
    exact h.quiet ⟨[], by simp, rfl⟩ rfl (.inl rfl) h.drained rfl

theorem reachable (hs : Reachable pc cfg s) : FinInvariant s :=
  Reachable.induction init (fun _ _ _ hs h hn => h.step (Shape.reachable hs) hn) hs

end FinInvariant

section Properties

variable {pc : Protocol} {cfg : PRConfig}

/-- One new frame carries FIN, exactly once `finSent` holds.  It comes after a `Close` that
returned nil, ends at the write offset, which up to a cancellation or a shutdown is the number
of bytes `Write` accepted, and no new frame after it carries data. -/
theorem single_fin_at_final_size {s : Sys} (hs : Reachable pc cfg s) :
    ((newFrames s.log).filter OutFrame.fin).length = (if s.stream.finSent then 1 else 0) ∧
      ∀ l₁ l₂ f more, s.log = l₁ ++ .popped (some f) more false :: l₂ → f.fin = true →
        .closeReturned none ∈ l₁ ∧ f.offset + f.data.length = s.stream.writeOffset ∧
          (s.Active → s.stream.writeOffset = s.acceptedBytes.length) ∧
          ∀ g ∈ newFrames l₂, g.data = [] := by
  have h := FinInvariant.reachable hs
  refine ⟨h.count, fun l₁ l₂ f more hl hfin => ?_⟩
  obtain ⟨hc, ho, hd⟩ := h.history l₁ l₂ f more hl hfin
  refine ⟨hc, ho, fun ha => ?_, hd⟩
  obtain ⟨hN, hD⟩ := h.drained (h.finSent_of_mem (by simp [hl]) hfin)
  have hc := Content.reachable hs ha
  rw [← hc.length, ← hc.buffer]
  simp [SendStream.nextFrameData_eq, hN, hD]

/-- On `halvedRetransmission` FIN goes out once, at the final size three, after `Close`
returned. -/
theorem single_fin_at_final_size_halved : ∃ s,
    (Sys.init 0 1452).run .quicGo .shipped halvedRetransmission = some (ok s) ∧
    Reachable .quicGo .shipped s ∧ s.stream.finSent = true ∧ s.stream.writeOffset = 3 ∧
    ((newFrames s.log).filter OutFrame.fin).length = (if s.stream.finSent then 1 else 0) ∧
      ∀ l₁ l₂ f more, s.log = l₁ ++ .popped (some f) more false :: l₂ → f.fin = true →
        .closeReturned none ∈ l₁ ∧ f.offset + f.data.length = s.stream.writeOffset ∧
          (s.Active → s.stream.writeOffset = s.acceptedBytes.length) ∧
          ∀ g ∈ newFrames l₂, g.data = [] := by
  obtain ⟨s, hrun, hf, hw⟩ : ∃ s, (Sys.init 0 1452).run .quicGo .shipped halvedRetransmission =
      some (ok s) ∧ s.stream.finSent = true ∧ s.stream.writeOffset = 3 :=
    ⟨_, rfl, rfl, rfl⟩
  have hs := (Reachable.init 0 1452).run hrun
  exact ⟨s, hrun, hs, hf, hw, single_fin_at_final_size hs⟩

end Properties

end PrQuic.Stream
