import PrQuic.Stream.Budget
import PrQuic.Stream.Accounting
import PrQuic.Wire.PRStreamFramePool

/-!
# Buffers stay within their capacity

`nextFrame` and the tail a split moves out of it come from the STREAM frame pool, with capacity
`MaxPacketBufferSize` (`SendStream.NextFramePooled`), and `canBufferStreamFrame` keeps their data
within it, so the re-slices of `Write`, `popNewStreamFrame` and `getDataForWriting` stay in
bounds; a pop can still panic only on the nil frame of a budget no byte fits.  Every frame
queued or in flight that came from a pool keeps its capacity (`FramesKeepPoolCap`), so the
`PutBack` of an acknowledgement returns and, with `Accounting`'s count, no acknowledgement
panics in a reachable state (`Sys.acked_not_isPanic`).
-/

namespace PrQuic.Stream

open Wire GoResult

namespace SendStream

variable (pc : Protocol) (cfg : PRConfig)

/-- The buffered frame's buffer is a pooled one, of a packet buffer's capacity. -/
def NextFramePooled (s : SendStream) : Prop :=
  ∀ f ∈ s.nextFrame, f.cap = pc.maxPacketBufferSize

/-! ## What buffers a frame -/

theorem bufferDataForWriting_pooled {s s' : SendStream} (h : bufferDataForWriting pc s = ok s')
    (hp : NextFramePooled pc s) : NextFramePooled pc s' := by
  unfold bufferDataForWriting at h
  rcases hn : s.nextFrame with _ | nf0 <;> simp only [hn] at h <;> split_ifs at h <;> cases h
  · rintro f ⟨⟩; rfl
  · rintro f ⟨⟩; exact hp nf0 hn

theorem writeLoopIteration_pooled {s : SendStream} {now : Nat} {p : List UInt8}
    {r : SendStream × WriteStep} (h : writeLoopIteration pc s now p = ok r)
    (hp : NextFramePooled pc s) : NextFramePooled pc r.1 := by
  unfold writeLoopIteration at h
  by_cases hb : (canBufferStreamFrame pc s && !s.dataForWriting.isEmpty) = true
  · rw [if_pos hb] at h
    obtain ⟨s1, h1, h⟩ := bind_eq_ok.1 h
    cases h
    have := bufferDataForWriting_pooled pc h1 hp
    exact this
  · rw [if_neg hb] at h
    dsimp only at h
    split_ifs at h <;> cases h <;> exact hp

theorem writeEntry_pooled {s : SendStream} {now : Nat} {p : List UInt8}
    {r : SendStream × WriteStep} (h : writeEntry pc s now p = ok r)
    (hp : NextFramePooled pc s) : NextFramePooled pc r.1 := by
  rcases writeEntry_cases pc h with ⟨e, rfl⟩ | ⟨-, -, -, -, hw⟩
  · exact hp
  · exact writeLoopIteration_pooled pc hw hp

/-- After `popNewStreamFrame` the buffered frame, if any, is the fresh pooled frame that took
the tail of the old one. -/
theorem popNewStreamFrame_pooled {s s' : SendStream} {mb : Int} {w : Nat}
    {g : Option StreamFrame} {more : Bool} (h : popNewStreamFrame pc s mb w = ok (g, more, s')) :
    NextFramePooled pc s' := by
  unfold popNewStreamFrame at h
  rcases hnf : s.nextFrame with _ | nf0 <;> simp only [hnf] at h
  · obtain ⟨⟨f1, m1, s1⟩, hp, h⟩ := bind_eq_ok.1 h
    have hs1 : s1.nextFrame = none := by
      rcases popNewStreamFrameWithoutBuffer_spec pc hp with ⟨-, rfl⟩ | ⟨-, -, -, -, -, rfl⟩ <;>
        exact hnf
    split at h
    · obtain ⟨_, -, h⟩ := bind_eq_ok.1 h
      cases h; simp [NextFramePooled, hs1]
    · cases h; simp [NextFramePooled, hs1]
  · split_ifs at h <;> cases h
    · rintro f ⟨⟩; rfl
    · simp [NextFramePooled]

theorem popNewOrRetransmittedStreamFrame_pooled {s : SendStream} {mb : Int} {w : Nat}
    {r : Popped StreamFrame} (h : popNewOrRetransmittedStreamFrame pc s mb w = ok r)
    (hp : NextFramePooled pc s) : NextFramePooled pc r.stream := by
  unfold popNewOrRetransmittedStreamFrame at h
  by_cases hc : (s.canceledWrite || s.closeForShutdownErr.isSome) = true
  · rw [if_pos hc] at h
    cases h
    exact hp
  rw [if_neg hc] at h
  split at h
  · obtain ⟨⟨g?, b, s2⟩, hm, h⟩ := bind_eq_ok.1 h
    cases h
    exact fun f hf => hp f (maybeGetRetransmission_nextFrame pc hm ▸ hf)
  · split_ifs at h
    · cases h; exact hp
    · cases h; exact hp
    · rcases s.flowController.isNewlyBlocked with ⟨b, o, fc⟩
      dsimp only at h
      split_ifs at h <;> cases h <;> exact hp
    · obtain ⟨⟨fo, more, s1⟩, hp', h1⟩ := bind_eq_ok.1 h
      obtain ⟨g0, -, h2⟩ := bind_eq_ok.1 h1
      rw [accountNewFrame_eq] at h2
      cases h2
      have := popNewStreamFrame_pooled pc hp'
      exact this

theorem popStreamFrame_pooled {s : SendStream} {mb w : Nat} {r : Popped OutFrame}
    (h : s.popStreamFrame pc cfg mb w = ok r) (hp : NextFramePooled pc s) :
    NextFramePooled pc r.stream := by
  obtain ⟨r0, h0, h1⟩ := bind_eq_ok.1 h
  cases h1
  have := popNewOrRetransmittedStreamFrame_pooled pc h0 hp
  dsimp only
  split_ifs <;> exact this

/-! ## The re-slices stay within capacity -/

/-- `Write` extends or creates the buffered frame only when the result fits a packet buffer,
which a pooled buffer holds. -/
theorem bufferDataForWriting_not_isPanic {s : SendStream} (hp : NextFramePooled pc s)
    (hb : canBufferStreamFrame pc s = true) : ¬(bufferDataForWriting pc s).IsPanic := by
  simp only [canBufferStreamFrame, decide_eq_true_eq] at hb
  unfold bufferDataForWriting
  rcases hn : s.nextFrame with _ | nf0
  · simp only [nextFrameData, hn, List.length_nil, Nat.zero_add] at hb
    dsimp only
    split_ifs with hc
    · exact absurd hb (by simp only [getStreamFrame_cap] at hc; omega)
    · exact not_isPanic_ok _
  · simp only [nextFrameData, hn] at hb
    have := hp nf0 hn
    dsimp only
    split_ifs with hc
    · exact absurd hb (by omega)
    · exact not_isPanic_ok _

/-- A pooled frame filled with at most `MaxDataLen` bytes of a budget that fits a packet
buffer. -/
theorem getDataForWriting_pooled_not_isPanic (s : SendStream) {f : StreamFrame} {mb : Int}
    (w : Nat) (hf : f.cap = pc.maxPacketBufferSize) (hmb : mb ≤ pc.maxPacketBufferSize) :
    ¬(getDataForWriting pc s f (min (f.maxDataLen mb) w)).IsPanic := by
  apply getDataForWriting_not_isPanic
  have := f.maxDataLen_le mb
  omega

/-- With a budget that fits a packet buffer, the only panic of a pop is the dereference of the
nil frame `popNewStreamFrame` returns when no byte fits. -/
theorem popNewOrRetransmittedStreamFrame_panic {s : SendStream} {mb : Int} {w : Nat} {m : String}
    (h : popNewOrRetransmittedStreamFrame pc s mb w = .panic m)
    (hmb : mb ≤ pc.maxPacketBufferSize)
    (hsize : s.nextFrameData.length ≤ pc.maxPacketBufferSize)
    (hqsize : ∀ f ∈ s.retransmissionQueue, f.data.length ≤ pc.maxPacketBufferSize) :
    m = nilDereference := by
  unfold popNewOrRetransmittedStreamFrame at h
  by_cases hc : (s.canceledWrite || s.closeForShutdownErr.isSome) = true
  · rw [if_pos hc] at h
    cases h
  rw [if_neg hc] at h
  split at h
  · rename_i f rest hqr
    obtain ⟨r, hr⟩ := maybeGetRetransmission_ok pc s f rest mb (hqsize f (by simp [hqr]))
    rw [hr] at h
    cases h
  by_cases he : (s.dataForWriting.isEmpty && s.nextFrame.isNone) = true
  · rw [if_pos he] at h
    split_ifs at h
  rw [if_neg he] at h
  by_cases hw : w = 0
  · rw [if_pos hw] at h
    rcases s.flowController.isNewlyBlocked with ⟨b, o, fc⟩
    dsimp only at h
    split_ifs at h
  rw [if_neg hw] at h
  rcases hp : popNewStreamFrame pc s mb w with ⟨fo, more, s1⟩ | e | m'
  · rw [hp, ok_bind] at h
    cases fo with
    | none => exact (panic.inj h).symm
    | some g => cases h
  · rw [hp] at h; cases h
  · exact absurd (hp ▸ trivial) (popNewStreamFrame_not_isPanic pc w hmb hsize)

theorem popStreamFrame_panic {s : SendStream} {mb w : Nat} {m : String}
    (h : s.popStreamFrame pc cfg mb w = .panic m) (hmb : mb ≤ pc.maxPacketBufferSize)
    (hsize : s.nextFrameData.length ≤ pc.maxPacketBufferSize)
    (hqsize : ∀ f ∈ s.retransmissionQueue, f.data.length ≤ pc.maxPacketBufferSize) :
    m = nilDereference := by
  unfold popStreamFrame at h
  dsimp only at h
  rcases h0 : popNewOrRetransmittedStreamFrame pc s
    (if cfg.enabled then (mb : Int) - (1 + 8) else mb) w with r | e | m' <;>
    rw [h0] at h <;> cases h
  exact popNewOrRetransmittedStreamFrame_panic pc h0 (by split_ifs <;> omega) hsize hqsize

/-! ## Frames keep the pool's capacity -/

/-- A retransmission handed out whole or split off, and what stays queued, keep the pool's
capacity when the queue did. -/
theorem maybeGetRetransmission_keepsPoolCap {s s' : SendStream} {f : StreamFrame}
    {rest : List StreamFrame} {mb : Int} {g? : Option StreamFrame} {b : Bool}
    (hm : maybeGetRetransmission pc s f rest mb = ok (g?, b, s'))
    (hf : f.KeepsPoolCap pc) (hrest : ∀ x ∈ rest, x.KeepsPoolCap pc) :
    (∀ g ∈ g?, g.KeepsPoolCap pc) ∧ ∀ x ∈ s'.retransmissionQueue, x.KeepsPoolCap pc := by
  obtain ⟨⟨nf, split, f'⟩, hsp, hm⟩ := bind_eq_ok.1 hm
  obtain ⟨hh, ht⟩ := StreamFrame.maybeSplitOffFrame_keepsPoolCap pc hf hsp
  cases split <;> cases hm
  · exact ⟨fun g hg => Option.some.inj hg ▸ hf, hrest⟩
  · exact ⟨hh, fun x hx => (List.mem_cons.1 hx).elim (· ▸ ht) (hrest x)⟩

/-- A new frame is a fresh pooled frame or the buffered one, both of the pool's capacity, and
taking it leaves the retransmission queue alone. -/
theorem popNewStreamFrame_cap {s s' : SendStream} {mb : Int} {w : Nat} {g : StreamFrame}
    {more : Bool} (h : popNewStreamFrame pc s mb w = ok (some g, more, s'))
    (hp : NextFramePooled pc s) :
    g.cap = pc.maxPacketBufferSize ∧ s'.retransmissionQueue = s.retransmissionQueue := by
  unfold popNewStreamFrame at h
  rcases hnf : s.nextFrame with _ | nf0 <;> simp only [hnf] at h
  · obtain ⟨⟨f1, m1, s1⟩, hpop, h⟩ := bind_eq_ok.1 h
    have hf1 : f1.cap = pc.maxPacketBufferSize ∧ s1.retransmissionQueue = s.retransmissionQueue := by
      rcases popNewStreamFrameWithoutBuffer_spec pc hpop with ⟨rfl, rfl⟩ | ⟨k, wc, -, -, rfl, rfl⟩ <;>
        exact ⟨rfl, rfl⟩
    split at h
    · obtain ⟨_, -, h⟩ := bind_eq_ok.1 h
      cases h
    · cases h
      exact hf1
  · have hcap := hp _ hnf
    split_ifs at h <;> cases h <;> exact ⟨hcap, rfl⟩

/-- What a pop hands out and what it leaves queued keep the pool's capacity: a retransmission
or a split of one, the data-less FIN frame, which is not pooled, or a new frame. -/
theorem popNewOrRetransmittedStreamFrame_keepsPoolCap {s : SendStream} {mb : Int} {w : Nat}
    {r : Popped StreamFrame} (h : popNewOrRetransmittedStreamFrame pc s mb w = ok r)
    (hp : NextFramePooled pc s) (hq : ∀ f ∈ s.retransmissionQueue, f.KeepsPoolCap pc) :
    (∀ g ∈ r.frame, g.KeepsPoolCap pc) ∧ ∀ f ∈ r.stream.retransmissionQueue, f.KeepsPoolCap pc := by
  unfold popNewOrRetransmittedStreamFrame at h
  by_cases hc : (s.canceledWrite || s.closeForShutdownErr.isSome) = true
  · rw [if_pos hc] at h
    cases h
    exact ⟨by simp, hq⟩
  rw [if_neg hc] at h
  split at h
  · rename_i f rest hqr
    obtain ⟨⟨g?, b, s2⟩, hm, h⟩ := bind_eq_ok.1 h
    cases h
    exact maybeGetRetransmission_keepsPoolCap pc hm (hq f (by simp [hqr]))
      fun x hx => hq x (by simp [hqr, hx])
  · split_ifs at h
    · cases h
      exact ⟨by rintro g ⟨⟩; simp [StreamFrame.KeepsPoolCap, finFrame], hq⟩
    · cases h
      exact ⟨by simp, hq⟩
    · rcases s.flowController.isNewlyBlocked with ⟨b, o, fc⟩
      dsimp only at h
      split_ifs at h <;> cases h <;> exact ⟨by simp, hq⟩
    · obtain ⟨⟨fo, more, s1⟩, hp', h1⟩ := bind_eq_ok.1 h
      obtain ⟨g0, hg, h2⟩ := bind_eq_ok.1 h1
      rw [deref_eq_ok] at hg
      subst hg
      obtain ⟨hcap, hq1⟩ := popNewStreamFrame_cap pc hp' hp
      rw [accountNewFrame_eq] at h2
      cases h2
      exact ⟨by rintro g ⟨⟩; exact fun _ => hcap, by simpa [hq1] using hq⟩

/-- A lost STREAM frame goes back on the queue with its buffer; a lost PR_STREAM frame comes
back as a STREAM frame literal, which is not pooled. -/
theorem onLost_keepsPoolCap {f : OutFrame} {r : Nat} {s s' : SendStream} {ups : List Upcall}
    (h : s.onLost f r = ok (s', ups)) (hf : ∀ g, f = .plain g → g.KeepsPoolCap pc)
    (hq : ∀ x ∈ s.retransmissionQueue, x.KeepsPoolCap pc) :
    ∀ x ∈ s'.retransmissionQueue, x.KeepsPoolCap pc := by
  have happend {x : StreamFrame} (hx : x.KeepsPoolCap pc) :
      ∀ y ∈ s.retransmissionQueue ++ [x], y.KeepsPoolCap pc := fun y hy =>
    (List.mem_append.1 hy).elim (hq y) fun hy => List.mem_singleton.1 hy ▸ hx
  cases f with
  | plain g =>
    rcases queueRetransmission_spec h with ⟨-, rfl, -⟩ | ⟨-, -, -, rfl⟩
    · exact hq
    · exact happend (hf g rfl)
  | pr g =>
    simp only [onLost, prQueueRetransmission] at h
    split_ifs at h
    · rcases queueRetransmission_spec h with ⟨-, rfl, -⟩ | ⟨-, -, -, rfl⟩
      · exact hq
      · exact happend fun h => by simp [retransmissionOf] at h
    · rcases queueRetransmissionWith_spec h with ⟨-, rfl, -⟩ | ⟨-, -, rfl, -⟩
      · exact hq
      · exact hq

end SendStream

/-! ## Along a run -/

namespace Sys

variable {pc : Protocol} {cfg : PRConfig} {s s' : Sys}

theorem nextFramePooled_step {e : Event} (h : s.stream.NextFramePooled pc)
    (hn : s.next pc cfg e = some (ok s')) : s'.stream.NextFramePooled pc := by
  cases e with
  | write p =>
    obtain ⟨-, r, hr, rfl⟩ := next_write hn
    simpa using SendStream.writeEntry_pooled pc hr h
  | wake b =>
    obtain ⟨p, timer, st, r, -, hst, hr, rfl⟩ := next_wake hn
    have hst' : st.nextFrame = s.stream.nextFrame := by
      rcases hst with ⟨-, -, -, rfl⟩ | ⟨-, -, rfl⟩ <;> rfl
    simpa using SendStream.writeLoopIteration_pooled pc hr fun f hf => h f (hst' ▸ hf)
  | close =>
    rw [next_close hn]
    unfold SendStream.close
    split_ifs <;> exact h
  | cancelWrite c | stopSending c =>
    rcases next_cancel (c := c) (by simp) hn with ⟨-, rfl⟩ | ⟨-, err, rfl⟩ <;> exact h
  | updateSendWindow l =>
    rw [next_updateSendWindow hn]
    exact h
  | pop mb w =>
    obtain ⟨-, r, hr, rfl⟩ := next_pop hn
    exact SendStream.popStreamFrame_pooled pc cfg hr h
  | acked i =>
    obtain ⟨f, st, ups, -, hr, rfl⟩ := next_acked hn
    rcases SendStream.onAcked_spec hr with ⟨-, rfl, -⟩ | ⟨-, -, b, hb, -⟩
    · exact h
    · rw [SendStream.isNewlyCompleted_eq] at hb
      cases hb
      exact h
  | lost i r =>
    obtain ⟨f, st, ups, -, hr, rfl⟩ := next_lost hn
    rcases SendStream.onLost_spec hr with ⟨-, rfl, -⟩ | ⟨-, -, -, ⟨g, -, rfl⟩ | ⟨n, -, rfl⟩⟩ <;>
      exact h
  | _ =>
    simp only [next, Option.some.injEq, ok.injEq] at hn
    subst hn
    exact h

theorem nextFramePooled_reachable (hs : Reachable pc cfg s) : s.stream.NextFramePooled pc :=
  Reachable.induction (fun _ _ => by simp [SendStream.NextFramePooled, init, newSendStream])
    (fun _ _ _ _ h hn => nextFramePooled_step h hn) hs

/-! ## The frames held keep the pool's capacity -/

/-- The frames a stream holds for retransmission and has in flight keep the pool's capacity,
the one `PutBack` checks when they are acknowledged. -/
structure FramesKeepPoolCap (pc : Protocol) (s : Sys) : Prop where
  queue : ∀ f ∈ s.stream.retransmissionQueue, f.KeepsPoolCap pc
  plain : ∀ g, OutFrame.plain g ∈ s.inFlight → g.KeepsPoolCap pc
  pr : ∀ g, OutFrame.pr g ∈ s.inFlight → g.KeepsPoolCap pc

namespace FramesKeepPoolCap

theorem init (streamID initialWindow : Nat) : (init streamID initialWindow).FramesKeepPoolCap pc :=
  ⟨by simp [Sys.init, newSendStream], by simp [Sys.init], by simp [Sys.init]⟩

/-- Frames leave flight and keep their buffers. -/
theorem erase (h : s.FramesKeepPoolCap pc) {i : Nat} {st : SendStream}
    (hq : ∀ f ∈ st.retransmissionQueue, f.KeepsPoolCap pc) :
    FramesKeepPoolCap pc { s with stream := st, inFlight := s.inFlight.eraseIdx i, log := l } :=
  ⟨hq, fun g hg => h.plain g (List.mem_of_mem_eraseIdx hg),
    fun g hg => h.pr g (List.mem_of_mem_eraseIdx hg)⟩

/-- A pop hands out a frame that keeps the pool's capacity, as a STREAM frame or as a PR_STREAM
frame, which is not pooled. -/
theorem pop_step {mb w : Nat} (h : s.FramesKeepPoolCap pc) (hp : s.stream.NextFramePooled pc)
    (hn : s.next pc cfg (.pop mb w) = some (ok s')) : s'.FramesKeepPoolCap pc := by
  obtain ⟨-, r, hr, rfl⟩ := next_pop hn
  obtain ⟨r0, h0, h1⟩ := bind_eq_ok.1 hr
  cases h1
  obtain ⟨hg, hq⟩ := SendStream.popNewOrRetransmittedStreamFrame_keepsPoolCap pc h0 hp h.queue
  have hnew {f : OutFrame} (hf : f ∈ (r0.frame.map (SendStream.outFrame cfg)).toList) :
      ∃ g ∈ r0.frame, f = SendStream.outFrame cfg g := by
    obtain ⟨g, hg, rfl⟩ := Option.mem_map.1 (Option.mem_toList.1 hf)
    exact ⟨g, hg, rfl⟩
  refine ⟨by dsimp only; split_ifs <;> exact hq, fun g hf => ?_, fun g hf => ?_⟩ <;>
    rcases List.mem_append.1 hf with hf | hf
  · exact h.plain g hf
  · obtain ⟨g0, hg0, he⟩ := hnew hf
    unfold SendStream.outFrame at he
    split_ifs at he
    cases he
    exact hg g hg0
  · exact h.pr g hf
  · obtain ⟨g0, -, he⟩ := hnew hf
    unfold SendStream.outFrame at he
    split_ifs at he
    cases he
    simp [PRStreamFrame.KeepsPoolCap]

theorem step {e : Event} (h : s.FramesKeepPoolCap pc) (hp : s.stream.NextFramePooled pc)
    (hn : s.next pc cfg e = some (ok s')) : s'.FramesKeepPoolCap pc := by
  cases e with
  | write p =>
    obtain ⟨nf, dfw, hst, hin⟩ := next_write_stream hn
    exact ⟨by rw [hst]; exact h.queue, by rw [hin]; exact h.plain, by rw [hin]; exact h.pr⟩
  | wake b =>
    obtain ⟨nf, dfw, wc, hst, hin⟩ := next_wake_stream hn
    exact ⟨by rw [hst]; exact h.queue, by rw [hin]; exact h.plain, by rw [hin]; exact h.pr⟩
  | close =>
    rw [next_close hn]
    unfold SendStream.close
    split_ifs <;> exact ⟨h.queue, h.plain, h.pr⟩
  | cancelWrite c | stopSending c =>
    rcases next_cancel (c := c) (by simp) hn with ⟨-, rfl⟩ | ⟨-, err, rfl⟩
    · exact h
    · exact ⟨by simp, h.plain, h.pr⟩
  | updateSendWindow l =>
    rw [next_updateSendWindow hn]
    exact ⟨h.queue, h.plain, h.pr⟩
  | pop mb w => exact h.pop_step hp hn
  | acked i =>
    obtain ⟨f, st, ups, -, hr, rfl⟩ := next_acked hn
    refine h.erase fun x hx => h.queue x ?_
    rcases SendStream.onAcked_spec hr with ⟨-, rfl, -⟩ | ⟨-, -, b, hb, -⟩
    · exact hx
    · rw [SendStream.isNewlyCompleted_eq] at hb
      cases hb
      exact hx
  | lost i r =>
    obtain ⟨f, st, ups, hf, hr, rfl⟩ := next_lost hn
    refine h.erase (SendStream.onLost_keepsPoolCap pc hr ?_ h.queue)
    rintro g rfl
    exact h.plain g (List.get?_mem hf)
  | _ =>
    simp only [next, Option.some.injEq, ok.injEq] at hn
    subst hn
    exact ⟨h.queue, h.plain, h.pr⟩

theorem reachable (hs : Reachable pc cfg s) : s.FramesKeepPoolCap pc :=
  Reachable.induction (fun _ _ => init _ _)
    (fun _ _ _ hs h hn => h.step (nextFramePooled_reachable hs) hn) hs

end FramesKeepPoolCap

/-- In every reachable state an acknowledgement never panics: `PutBack` of the frame in flight
finds the pool's capacity, STREAM frame or PR_STREAM frame, and the count it decrements counts
the frame. -/
theorem acked_not_isPanic (hs : Reachable pc cfg s) (i : Nat) {r : GoResult Sys}
    (hn : s.next pc cfg (.acked i) = some r) : ¬r.IsPanic := by
  have hout := (Accounting.reachable hs).outstanding
  have hpool := FramesKeepPoolCap.reachable hs
  simp only [next] at hn
  split at hn
  · cases hn
  rename_i f hf
  cases hn
  have hcount : s.stream.canceledWrite = false → 1 ≤ s.stream.numOutstandingFrames := by
    intro hc
    have := (List.get?_eq_some.1 hf).1
    rw [hout, if_neg (by simp [hc])]
    omega
  rw [isPanic_map]
  cases f with
  | plain g =>
    have hpb := (g.putBack_eq_ok_iff pc).mpr (hpool.plain g (List.get?_mem hf))
    simp only [SendStream.onAcked, SendStream.frameAcked, hpb]
    exact SendStream.frameAckedWith_not_isPanic hcount
  | pr g =>
    have hpb := (g.putBack_eq_ok_iff pc).mpr (hpool.pr g (List.get?_mem hf))
    simp only [SendStream.onAcked, SendStream.prStreamframeAcked, hpb]
    exact SendStream.frameAckedWith_not_isPanic hcount

end Sys

section Properties

variable {pc : Protocol} {cfg : PRConfig} {s : Sys}

/-- In every reachable state the buffered frame holds at most a packet buffer's bytes in a
buffer of a packet buffer's capacity, so the re-slices of the buffering path never panic:
`Write` extending or creating the buffered frame whenever `canBufferStreamFrame` holds,
whatever it offers; `popNewStreamFrame` moving its tail into a fresh pooled frame, and
`getDataForWriting` filling a pooled frame with `min(MaxDataLen, sendWindow)` bytes, for every
budget that fits a packet buffer; and a pop with such a budget panics on nothing but the nil
frame. -/
theorem buffered_frame_within_capacity (hs : Reachable pc cfg s) :
    (∀ f ∈ s.stream.nextFrame,
      f.data.length ≤ pc.maxPacketBufferSize ∧ pc.maxPacketBufferSize ≤ f.cap) ∧
    (∀ t : SendStream, t.nextFrame = s.stream.nextFrame → t.canBufferStreamFrame pc = true →
      ¬(t.bufferDataForWriting pc).IsPanic) ∧
    (∀ (mb : Int) (w : Nat), mb ≤ pc.maxPacketBufferSize →
      ¬(s.stream.popNewStreamFrame pc mb w).IsPanic) ∧
    (∀ (f : StreamFrame) (mb : Int) (w : Nat), f.cap = pc.maxPacketBufferSize →
      mb ≤ pc.maxPacketBufferSize →
        ¬(s.stream.getDataForWriting pc f (min (f.maxDataLen mb) w)).IsPanic) ∧
    ∀ (mb w : Nat) (m : String), mb ≤ pc.maxPacketBufferSize →
      s.stream.popStreamFrame pc cfg mb w = .panic m → m = nilDereference := by
  have hp := Sys.nextFramePooled_reachable hs
  have hsize := (Shape.reachable hs).nextSize
  have hqsize := (Shape.reachable hs).queueSize
  refine ⟨fun f hf => ⟨?_, (hp f hf).ge⟩, fun t ht hb => ?_, fun mb w hmb => ?_,
    fun f mb w hf hmb => ?_, fun mb w m hmb h => ?_⟩
  · simpa [SendStream.nextFrameData, Option.mem_def.mp hf] using hsize
  · exact SendStream.bufferDataForWriting_not_isPanic pc (fun f hf => hp f (ht ▸ hf)) hb
  · exact SendStream.popNewStreamFrame_not_isPanic pc w hmb hsize
  · exact SendStream.getDataForWriting_pooled_not_isPanic pc _ w hf hmb
  · exact SendStream.popStreamFrame_panic pc cfg h hmb hsize hqsize

/-- A `Write` of one byte on a fresh stream buffers it in a pooled frame. -/
theorem buffered_frame_within_capacity_written :
    ∃ s : Sys, Reachable .quicGo .shipped s ∧ s.stream.nextFrameData = [0] ∧
      (∀ f ∈ s.stream.nextFrame, f.data.length ≤ 1452 ∧ 1452 ≤ f.cap) ∧
      ∀ (mb w : Nat) (m : String), mb ≤ 1452 →
        s.stream.popStreamFrame .quicGo .shipped mb w = .panic m → m = nilDereference :=
  have hs : Reachable .quicGo .shipped _ := .step (.write [0]) (.init 0 1452) rfl
  ⟨_, hs, rfl, (buffered_frame_within_capacity hs).1, (buffered_frame_within_capacity hs).2.2.2.2⟩

end Properties

end PrQuic.Stream
