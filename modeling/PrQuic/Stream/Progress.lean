import PrQuic.Stream.NoPanic

/-!
# Progress: pops frame everything, closed streams complete

On a stream neither canceled nor shut down, whose window covers the data it holds, a pop with a
budget in the packet assembler's range returns and takes something from what is left to frame
(`SendStream.leftToFrame`).  So at most that many pops, each given the window of the state it
runs on (`Sys.popWindows`), leave nothing queued, buffered or offered, with the FIN sent once
`Close` was called; a closed stream is then completed by one acknowledgement per frame in
flight, and `onStreamCompleted` is called once.  A blocked `Write` waits on the same pops
(`Stream.WriteReturns`).
-/

namespace PrQuic.Stream

open Wire GoResult

/-- A computation that neither panics nor returns an error returns a value. -/
theorem eq_ok_of_not_isPanic {α : Type} {x : GoResult α} (hp : ¬x.IsPanic)
    (he : ∀ e, x ≠ err e) : ∃ a, x = ok a := by
  rcases x with a | e | m
  · exact ⟨a, rfl⟩
  · exact absurd rfl (he e)
  · exact absurd trivial hp

/-- A computation whose first step never returns an error, and whose continuation never does
on any value, never returns an error. -/
theorem bind_ne_err {α β : Type} {x : GoResult α} {f : α → GoResult β}
    (hx : ∀ e, x ≠ err e) (hf : ∀ a e, f a ≠ err e) (e : GoError) : x >>= f ≠ err e := by
  rcases x with a | e' | m
  · exact hf a e
  · exact absurd rfl (hx e')
  · simp

namespace SendStream

variable (pc : Protocol) (cfg : PRConfig)

/-- What is left to frame: the bytes of each queued retransmission and one more for its frame,
the buffered and offered bytes, and the FIN once `Close` was called and until it is sent. -/
def leftToFrame (s : SendStream) : Nat :=
  (s.retransmissionQueue.map fun f => f.data.length + 1).sum + s.nextFrameData.length +
    s.dataForWriting.length + if s.finishedWriting && !s.finSent then 1 else 0

/-- Nothing is left to frame exactly when nothing is queued, buffered or offered, and the FIN is
sent once `Close` was called. -/
theorem leftToFrame_eq_zero {s : SendStream} (hn : ∀ t ∈ s.nextFrame, t.data ≠ []) :
    s.leftToFrame = 0 ↔ s.retransmissionQueue = [] ∧ s.nextFrame = none ∧
      s.dataForWriting = [] ∧ (s.finishedWriting = true → s.finSent = true) := by
  have hq : (s.retransmissionQueue.map fun f => f.data.length + 1).sum = 0 ↔
      s.retransmissionQueue = [] := by
    cases s.retransmissionQueue <;> simp
  have hnd : s.nextFrameData.length = 0 ↔ s.nextFrame = none := by
    rcases hnf : s.nextFrame with _ | t
    · simp [nextFrameData, hnf]
    · simpa [nextFrameData, hnf] using hn t hnf
  have hfin : (if (s.finishedWriting && !s.finSent) = true then 1 else 0) = 0 ↔
      (s.finishedWriting = true → s.finSent = true) := by
    cases s.finishedWriting <;> cases s.finSent <;> simp
  simp only [leftToFrame, Nat.add_eq_zero_iff, hq, hnd, List.length_eq_zero, hfin, and_assoc]

/-! ## A pop returns, and hands out a frame -/

theorem getDataForWriting_ne_err {s : SendStream} {f : StreamFrame} {k : Nat} (e : GoError) :
    getDataForWriting pc s f k ≠ err e := by
  unfold getDataForWriting
  split_ifs <;> simp

theorem popNewStreamFrameWithoutBuffer_ne_err {s : SendStream} {f : StreamFrame} {mb : Int}
    {w : Nat} (e : GoError) : popNewStreamFrameWithoutBuffer pc s f mb w ≠ err e := by
  unfold popNewStreamFrameWithoutBuffer
  dsimp only
  split_ifs
  · simp
  · exact bind_ne_err (getDataForWriting_ne_err pc) (fun ⟨_, _⟩ _ => by simp) e

theorem popNewStreamFrame_ne_err {s : SendStream} {mb : Int} {w : Nat} (e : GoError) :
    popNewStreamFrame pc s mb w ≠ err e := by
  unfold popNewStreamFrame
  split
  · dsimp only
    split_ifs <;> simp
  · refine bind_ne_err (popNewStreamFrameWithoutBuffer_ne_err pc) (fun a _ => ?_) e
    rcases a with ⟨f, more, s1⟩
    dsimp only
    split
    · exact bind_ne_err (f.putBack_ne_err pc) (fun _ _ => by simp) _
    · simp

/-- With a budget past every header that fits a packet buffer, `popNewOrRetransmittedStreamFrame`
returns. -/
theorem popNewOrRetransmittedStreamFrame_ok {s : SendStream} {mb : Int} (w : Nat)
    (hmb : 19 ≤ mb) (hcap : mb ≤ pc.maxPacketBufferSize)
    (hsize : s.nextFrameData.length ≤ pc.maxPacketBufferSize)
    (hqsize : ∀ f ∈ s.retransmissionQueue, f.data.length ≤ pc.maxPacketBufferSize) :
    ∃ r, popNewOrRetransmittedStreamFrame pc s mb w = ok r := by
  unfold popNewOrRetransmittedStreamFrame
  by_cases hc : (s.canceledWrite || s.closeForShutdownErr.isSome) = true
  · rw [if_pos hc]; exact ⟨_, rfl⟩
  rw [if_neg hc]
  split
  · rename_i f rest hqr
    obtain ⟨r, hr⟩ := maybeGetRetransmission_ok pc s f rest mb (hqsize f (by simp [hqr]))
    exact ⟨_, by rw [hr]; rfl⟩
  split_ifs with he hfin hw
  · exact ⟨_, rfl⟩
  · exact ⟨_, rfl⟩
  · rcases s.flowController.isNewlyBlocked with ⟨b, o, fc⟩
    dsimp only
    split_ifs <;> exact ⟨_, rfl⟩
  · obtain ⟨⟨fo, more, s1⟩, hp⟩ := eq_ok_of_not_isPanic
      (popNewStreamFrame_not_isPanic pc w hcap hsize) (popNewStreamFrame_ne_err pc)
    cases fo with
    | none => exact absurd hp (popNewStreamFrame_ne_none pc hw hmb (by simpa [imp_iff_not_or] using he))
    | some g => exact ⟨_, by rw [hp]; rfl⟩

/-- A queued frame is handed out whole or in part once the budget is past every header. -/
theorem maybeGetRetransmission_isSome {s s' : SendStream} {f : StreamFrame}
    {rest : List StreamFrame} {mb : Int} {g? : Option StreamFrame} {b : Bool}
    (hm : maybeGetRetransmission pc s f rest mb = ok (g?, b, s')) (hmb : 19 ≤ mb) : g?.isSome := by
  obtain ⟨⟨nf, split, f'⟩, hsp, hm⟩ := bind_eq_ok.1 hm
  have := StreamFrame.maybeSplitOffFrame_isSome pc hsp hmb
  cases split <;> cases hm
  · rfl
  · exact this rfl

/-- On an active stream with something left to frame, a pop with a budget past every header
and a window that covers the buffered and offered data hands out a frame. -/
theorem popNewOrRetransmittedStreamFrame_frame {s : SendStream} {mb : Int} {w : Nat}
    {r : Popped StreamFrame} (h : popNewOrRetransmittedStreamFrame pc s mb w = ok r)
    (hc : s.canceledWrite = false) (hshut : s.closeForShutdownErr = none)
    (hleft : 0 < s.leftToFrame) (hmb : 19 ≤ mb)
    (hw : s.nextFrameData.length + s.dataForWriting.length ≤ w)
    (hn : ∀ t ∈ s.nextFrame, t.data ≠ []) : r.frame.isSome := by
  unfold popNewOrRetransmittedStreamFrame at h
  rw [if_neg (by simp [hc, hshut])] at h
  split at h
  · obtain ⟨⟨g?, b, s2⟩, hm, h⟩ := bind_eq_ok.1 h
    cases h
    exact maybeGetRetransmission_isSome pc hm hmb
  · rename_i hq
    split_ifs at h with he hfin hw0
    · cases h; rfl
    · -- nothing queued, buffered or offered, and no FIN to send
      simp only [Bool.and_eq_true, List.isEmpty_iff, Option.isNone_iff_eq_none] at he
      rw [leftToFrame, if_neg hfin] at hleft
      simp [hq, he.1, he.2, nextFrameData] at hleft
    · -- the window is closed, but there is data
      simp only [Bool.and_eq_true, List.isEmpty_iff, Option.isNone_iff_eq_none, not_and_or] at he
      rcases he with he | he
      · have := List.length_pos.2 he; omega
      · obtain ⟨t, ht⟩ := Option.ne_none_iff_exists'.1 he
        have := List.length_pos.2 (hn t ht)
        simp only [nextFrameData, ht] at hw
        omega
    · obtain ⟨⟨fo, more, s1⟩, -, h1⟩ := bind_eq_ok.1 h
      obtain ⟨g0, -, h2⟩ := bind_eq_ok.1 h1
      rw [accountNewFrame_eq] at h2
      cases h2
      rfl

/-! ## A pop takes something from what is left -/

/-- Sending a frame never makes the FIN pending again. -/
theorem finPending_le (fw fs gf : Bool) :
    (if (fw && !(fs || gf)) = true then 1 else 0) ≤ (if (fw && !fs) = true then 1 else 0) := by
  cases fw <;> cases fs <;> cases gf <;> decide

/-- A pop that hands out a frame with data or a FIN takes it from what is left to frame. -/
theorem PopSpec.leftToFrame_lt {s : SendStream} {w : Nat} {r : Popped StreamFrame}
    (h : PopSpec pc s w r) {g : StreamFrame} (hg : r.frame = some g)
    (hd : g.data ≠ [] ∨ g.fin = true)
    (hq : ∀ f ∈ s.retransmissionQueue, f.data.length < 2 ^ 14) :
    r.stream.leftToFrame < s.leftToFrame := by
  cases h with
  | none => cases hg
  | retransmit f rest rq g' _ _ hqr hsplit =>
    cases hsplit with
    | whole => simp only [leftToFrame, nextFrameData_eq, hqr, List.map_cons, List.sum_cons]; omega
    | split n hn hlt =>
      have := hlt (hq f (by simp [hqr]))
      simp only [leftToFrame, nextFrameData_eq, hqr, List.map_cons, List.sum_cons,
        List.length_drop]
      omega
  | fin _ _ hqr hdfw hnf hw hf => simp [leftToFrame, hqr, hdfw, hnf, hw, hf, nextFrameData]
  | new d dfw nf g' more wc _ _ hqr htake _ hdata hfin =>
    cases hg
    have hlen := congrArg List.length htake.buffer
    have hfinle := finPending_le s.finishedWriting s.finSent g.fin
    simp only [List.length_append] at hlen
    simp only [leftToFrame, nextFrameData_eq] at hlen ⊢
    rw [hdata] at hd
    rcases hd with hd | hg
    · have := List.length_pos.2 hd
      omega
    · rw [hg, eq_comm, Bool.and_eq_true, Bool.and_eq_true, Bool.and_eq_true] at hfin
      simp [hg, hfin.1.1.1, hfin.2]
      omega

/-! ## An acknowledgement returns -/

theorem frameAckedWith_ne_err {pb : GoResult Unit} (hpb : ∀ e, pb ≠ err e) (s : SendStream)
    (e : GoError) : frameAckedWith pb s ≠ err e := by
  refine bind_ne_err hpb (fun _ e => ?_) e
  dsimp only
  split_ifs <;> simp

/-- An acknowledgement callback never returns an error: `PutBack` and the count's check can only
panic. -/
theorem onAcked_ne_err (f : OutFrame) (s : SendStream) (e : GoError) : s.onAcked pc f ≠ err e := by
  cases f with
  | plain g => exact frameAckedWith_ne_err (g.putBack_ne_err pc) s e
  | pr g =>
    refine frameAckedWith_ne_err (fun e => ?_) s e
    simp only [PRStreamFrame.putBack, putPRStreamFrame]
    split_ifs <;> simp

end SendStream

/-! ## Along a run of pops -/

namespace Sys

variable {pc : Protocol} {cfg : PRConfig} {s : Sys}

/-- The window the flow controller grants. -/
def window (s : Sys) : Nat :=
  s.stream.flowController.sendWindow - s.stream.flowController.bytesSent

/-- What a pop given the whole window does on an active stream with something left to frame and
a window that covers its data: it returns, takes something from what is left, and leaves the
stream active with a window that still covers its data. -/
theorem pop_takes (hs : FramerReachable pc cfg s) (hc : s.stream.canceledWrite = false)
    (hshut : s.stream.closeForShutdownErr = none) (hleft : 0 < s.stream.leftToFrame)
    (hwin : s.stream.nextFrameData.length + s.stream.dataForWriting.length ≤ s.window)
    {mb : Nat} (hmin : minStreamFrameSize ≤ mb) (hmax : mb ≤ pc.maxPacketBufferSize) :
    ∃ s', s.next pc cfg (.pop mb s.window) = some (ok s') ∧
      s'.stream.leftToFrame < s.stream.leftToFrame ∧ s'.stream.canceledWrite = false ∧
      s'.stream.closeForShutdownErr = none ∧
      s'.stream.nextFrameData.length + s'.stream.dataForWriting.length ≤ s'.window ∧
      s'.inFlight.length = s.inFlight.length + 1 := by
  have hf := Framed.reachable hs
  have hsh := Shape.reachable hs.reachable
  have hlt := pc.maxPacketBufferSize_lt
  unfold minStreamFrameSize at hmin
  have hlo : (19 : Int) ≤ if cfg.enabled then (mb : Int) - (1 + 8) else mb := by
    split_ifs <;> omega
  have hhi : (if cfg.enabled then (mb : Int) - (1 + 8) else mb) ≤ pc.maxPacketBufferSize := by
    split_ifs <;> omega
  obtain ⟨r0, h0⟩ := SendStream.popNewOrRetransmittedStreamFrame_ok pc s.window hlo hhi
    hsh.nextSize hsh.queueSize
  have hspec := SendStream.popNewOrRetransmittedStreamFrame_spec pc h0
  obtain ⟨g, hg⟩ := Option.isSome_iff_exists.1
    (SendStream.popNewOrRetransmittedStreamFrame_frame pc h0 hc hshut hleft hlo hwin hf.next)
  have hgd := ((SendStream.popNewOrRetransmittedStreamFrame_fits pc h0 hlo (by omega) hf.next
    hf.queue).1 g hg).1
  have hless := hspec.leftToFrame_lt pc hg hgd
    (fun f hf' => lt_of_le_of_lt (hsh.queueSize f hf') hlt)
  obtain ⟨r, hr, hrs, hrf⟩ : ∃ r, s.stream.popStreamFrame pc cfg mb s.window = ok r ∧
      r.stream = { r0.stream with numOutstandingFrames := r0.stream.numOutstandingFrames + 1 } ∧
      r.frame.isSome :=
    ⟨_, by simp only [SendStream.popStreamFrame, h0, ok_bind, hg, Option.isSome_some, if_true]; rfl,
      by rfl, by rfl⟩
  refine ⟨_, by rw [next, if_pos (show s.window ≤ s.stream.flowController.sendWindow -
    s.stream.flowController.bytesSent from le_refl _), hr]; rfl, ?_⟩
  have hlen : (s.inFlight ++ r.frame.toList).length = s.inFlight.length + 1 := by
    obtain ⟨o, ho⟩ := Option.isSome_iff_exists.1 hrf
    simp [ho]
  dsimp only
  rw [hrs]
  refine ⟨hless, ?_⟩
  cases hspec with
  | none => cases hg
  | retransmit => exact ⟨hc, hshut, hwin, hlen⟩
  | fin _ _ _ hd hn => exact ⟨hc, hshut, by simp [SendStream.nextFrameData, hd, hn], hlen⟩
  | new d dfw nf g' more wc _ _ _ htake =>
    refine ⟨hc, hshut, ?_, hlen⟩
    have hlen := congrArg List.length htake.buffer
    simp only [List.length_append, SendStream.nextFrameData_eq] at hlen hwin ⊢
    simp only [window] at hwin ⊢
    simp only [FlowController.addBytesSent_sendWindow, FlowController.addBytesSent_bytesSent]
    omega

/-- What a pop leaves as it is: the writer, the clock, the deadline, and whether `Close` was
called. -/
structure PopKeeps (s s' : Sys) : Prop where
  writer : s'.writer = s.writer
  now : s'.now = s.now
  deadline : s'.stream.deadline = s.stream.deadline
  finishedWriting : s'.stream.finishedWriting = s.stream.finishedWriting

theorem PopKeeps.refl (s : Sys) : PopKeeps s s := ⟨rfl, rfl, rfl, rfl⟩

theorem PopKeeps.trans {s₁ s₂ s₃ : Sys} (h₁ : PopKeeps s₁ s₂) (h₂ : PopKeeps s₂ s₃) :
    PopKeeps s₁ s₃ :=
  ⟨h₂.writer.trans h₁.writer, h₂.now.trans h₁.now, h₂.deadline.trans h₁.deadline,
    h₂.finishedWriting.trans h₁.finishedWriting⟩

theorem pop_keeps {s' : Sys} {mb w : Nat} (h : s.next pc cfg (.pop mb w) = some (ok s')) :
    PopKeeps s s' := by
  obtain ⟨-, r, hr, rfl⟩ := next_pop h
  obtain ⟨r0, h0, rfl⟩ := SendStream.popStreamFrame_spec pc cfg hr
  refine ⟨rfl, rfl, ?_, ?_⟩ <;> dsimp only <;> split <;> cases h0 <;> rfl

/-- The packet assembler popping the stream `n` times with the budget `maxBytes`, each pop given
the whole window left on the state it runs on. -/
def popWindows (pc : Protocol) (cfg : PRConfig) (maxBytes : Nat) : Nat → Sys → Option (GoResult Sys)
  | 0, s => some (ok s)
  | n + 1, s =>
    match s.next pc cfg (.pop maxBytes s.window) with
    | some (ok t) => popWindows pc cfg maxBytes n t
    | r => r

theorem popWindows_succ {mb n : Nat} {t : Sys}
    (h : s.next pc cfg (.pop mb s.window) = some (ok t)) :
    s.popWindows pc cfg mb (n + 1) = t.popWindows pc cfg mb n := by
  rw [popWindows, h]

/-- Where a run of `n` pops that frames everything leaves the stream `s`. -/
structure Drained (pc : Protocol) (cfg : PRConfig) (s : Sys) (n : Nat) (s' : Sys) : Prop where
  reachable : FramerReachable pc cfg s'
  framed : s'.stream.leftToFrame = 0
  active : s'.stream.canceledWrite = false
  inFlight : s'.inFlight.length = s.inFlight.length + n
  keeps : PopKeeps s s'

/-- The run of pops behind `pops_frame_everything`: each pop takes something from what is left
and puts one more frame in flight. -/
theorem pops_drain (hs : FramerReachable pc cfg s)
    (hc : s.stream.canceledWrite = false) (hshut : s.stream.closeForShutdownErr = none)
    (hwin : s.stream.nextFrameData.length + s.stream.dataForWriting.length ≤ s.window)
    {mb : Nat} (hmin : minStreamFrameSize ≤ mb) (hmax : mb ≤ pc.maxPacketBufferSize) :
    ∃ n ≤ s.stream.leftToFrame, ∃ s',
      s.popWindows pc cfg mb n = some (ok s') ∧ Drained pc cfg s n s' := by
  obtain ⟨k, hk⟩ : ∃ k, s.stream.leftToFrame = k := ⟨_, rfl⟩
  induction k using Nat.strong_induction_on generalizing s with
  | _ k ih =>
    rcases Nat.eq_zero_or_pos k with rfl | hpos
    · exact ⟨0, Nat.zero_le _, s, rfl, hs, hk, hc, rfl, .refl s⟩
    obtain ⟨s₁, hstep, hless, hc₁, hshut₁, hwin₁, hlen₁⟩ :=
      pop_takes hs hc hshut (hk ▸ hpos) hwin hmin hmax
    have hs₁ : FramerReachable pc cfg s₁ :=
      hs.step _ (by simp [Event.inFramerRange, hmin, hmax]) hstep
    obtain ⟨n, hlen, t, hrun, hd⟩ := ih _ (hk ▸ hless) hs₁ hc₁ hshut₁ hwin₁ rfl
    exact ⟨n + 1, by omega, t, by rw [popWindows_succ hstep]; exact hrun, hd.reachable, hd.framed,
      hd.active, by rw [hd.inFlight, hlen₁]; omega, (pop_keeps hstep).trans hd.keeps⟩

/-! ## Along a run of acknowledgements -/

theorem run_append {es₁ : List Event} (es₂ : List Event) {t : Sys}
    (h : s.run pc cfg es₁ = some (ok t)) : s.run pc cfg (es₁ ++ es₂) = t.run pc cfg es₂ := by
  induction es₁ generalizing s with
  | nil => cases h; rfl
  | cons e es ih =>
    rcases hn : s.next pc cfg e with _ | (s₁ | _ | _) <;> simp [run, hn] at h ⊢
    exact ih h

/-- An acknowledgement of a frame in flight returns. -/
theorem next_acked_ok (hs : Reachable pc cfg s) {i : Nat} {f : OutFrame}
    (hf : s.inFlight.get? i = some f) : ∃ s', s.next pc cfg (.acked i) = some (ok s') := by
  have hnext : s.next pc cfg (.acked i) = some ((fun (st, ups) => { s with
      stream := st
      inFlight := s.inFlight.eraseIdx i
      log := s.log ++ (.acked f :: ups.map .upcall) }) <$> s.stream.onAcked pc f) := by
    simp only [next, hf]
  obtain ⟨a, ha⟩ := eq_ok_of_not_isPanic
    (fun hp => acked_not_isPanic hs i hnext (by rw [isPanic_map]; exact hp))
    (SendStream.onAcked_ne_err pc f s.stream)
  exact ⟨_, by rw [hnext, ha]; rfl⟩

/-- An acknowledgement of the oldest frame in flight on a stream that is not canceled returns
and takes the frame out of flight; it leaves the stream uncanceled, with its FIN and its
retransmission queue, and completes it once nothing is in flight, the FIN is sent and nothing
is queued. -/
theorem ack_oldest (hs : Reachable pc cfg s) (hc : s.stream.canceledWrite = false)
    (hI : s.inFlight ≠ []) :
    ∃ s', s.next pc cfg (.acked 0) = some (ok s') ∧ s'.inFlight.length + 1 = s.inFlight.length ∧
      s'.stream.canceledWrite = false ∧ s'.stream.finSent = s.stream.finSent ∧
      s'.stream.retransmissionQueue = s.stream.retransmissionQueue ∧
      (s'.inFlight = [] → s.stream.finSent = true → s.stream.retransmissionQueue = [] →
        s'.stream.completed = true) := by
  obtain ⟨f, hf⟩ : ∃ f, s.inFlight.get? 0 = some f := by
    cases h : s.inFlight with
    | nil => exact absurd h hI
    | cons f _ => exact ⟨f, rfl⟩
  obtain ⟨s', hn⟩ := next_acked_ok hs hf
  obtain ⟨f', st, ups, -, ha, rfl⟩ := next_acked hn
  rcases SendStream.onAcked_spec ha with ⟨hc', -⟩ | ⟨-, -, b, hb, -⟩
  · rw [hc] at hc'; cases hc'
  rw [SendStream.isNewlyCompleted_eq] at hb
  cases hb
  have hout := (Accounting.reachable hs).outstanding
  rw [if_neg (by simp [hc])] at hout
  have hlen := length_eraseIdx_of_get? hf
  have hpos := (List.get?_eq_some.1 hf).1
  refine ⟨_, hn, by dsimp only; omega, hc, rfl, rfl, fun he hfin hq => ?_⟩
  have hone : s.stream.numOutstandingFrames = 1 := by
    rw [show s.inFlight.eraseIdx 0 = [] from he, List.length_nil] at hlen
    omega
  simp [hone, hfin, hq]

/-- On a stream that is not canceled, whose FIN is sent and whose retransmission queue is empty,
acknowledging the frames in flight oldest first completes it. -/
theorem acks_complete (hs : Reachable pc cfg s) (hc : s.stream.canceledWrite = false)
    (hfin : s.stream.finSent = true) (hq : s.stream.retransmissionQueue = [])
    (hI : s.inFlight ≠ []) : ∃ s', s.run pc cfg (List.replicate s.inFlight.length (.acked 0)) =
      some (ok s') ∧ s'.stream.completed = true := by
  obtain ⟨n, hn⟩ : ∃ n, s.inFlight.length = n + 1 :=
    Nat.exists_eq_succ_of_ne_zero (by simpa using hI)
  induction n generalizing s with
  | zero =>
    obtain ⟨s', hstep, hlen, -, -, -, hdone⟩ := ack_oldest hs hc hI
    have he : s'.inFlight = [] := List.eq_nil_of_length_eq_zero (by omega)
    exact ⟨s', by simp only [hn, List.replicate_one, run, hstep], hdone he hfin hq⟩
  | succ n ih =>
    obtain ⟨s', hstep, hlen, hc', hfin', hq', -⟩ := ack_oldest hs hc hI
    obtain ⟨t, hrun, ht⟩ := ih (hs.step _ hstep) hc' (hfin' ▸ hfin) (hq' ▸ hq)
      (List.ne_nil_of_length_pos (by omega)) (by omega)
    rw [show s'.inFlight.length = n + 1 by omega] at hrun
    refine ⟨t, ?_, ht⟩
    rw [hn, List.replicate_succ, run, hstep]
    exact hrun

end Sys

section Properties

variable {pc : Protocol} {cfg : PRConfig} {s : Sys}

/-- On a stream that is neither canceled nor shut down, and whose window covers the data it
holds, at most `leftToFrame` pops with a budget in the packet assembler's range, each given the
whole window left, each hand out a frame and together leave nothing queued for retransmission,
buffered or offered, and the FIN sent once `Close` was called. -/
theorem pops_frame_everything (hs : FramerReachable pc cfg s)
    (hc : s.stream.canceledWrite = false) (hshut : s.stream.closeForShutdownErr = none)
    (hwin : s.stream.nextFrameData.length + s.stream.dataForWriting.length ≤ s.window)
    {mb : Nat} (hmin : minStreamFrameSize ≤ mb) (hmax : mb ≤ pc.maxPacketBufferSize) :
    ∃ n ≤ s.stream.leftToFrame, ∃ s', s.popWindows pc cfg mb n = some (ok s') ∧
      s'.inFlight.length = s.inFlight.length + n ∧
      s'.stream.retransmissionQueue = [] ∧ s'.stream.nextFrame = none ∧
      s'.stream.dataForWriting = [] ∧
      (s'.stream.finishedWriting = true → s'.stream.finSent = true) := by
  obtain ⟨n, hlen, s', hrun, hd⟩ := Sys.pops_drain hs hc hshut hwin hmin hmax
  exact ⟨n, hlen, s', hrun, hd.inFlight,
    (SendStream.leftToFrame_eq_zero (Framed.reachable hd.reachable).next).1 hd.framed⟩

set_option maxRecDepth 8000 in
/-- A byte more than a packet buffer behind a blocked `Write`, and the stream closed: two pops
frame it all, the second with the FIN. -/
theorem pops_frame_everything_closed : ∃ s, FramerReachable .quicGo .shipped s ∧
    s.stream.canceledWrite = false ∧ s.stream.closeForShutdownErr = none ∧
    s.stream.nextFrameData.length + s.stream.dataForWriting.length ≤ s.window ∧
    ∃ n ≤ s.stream.leftToFrame, ∃ s', s.popWindows .quicGo .shipped 1452 n = some (ok s') ∧
      s'.inFlight.length = s.inFlight.length + n ∧
      s'.stream.retransmissionQueue = [] ∧ s'.stream.nextFrame = none ∧
      s'.stream.dataForWriting = [] ∧
      (s'.stream.finishedWriting = true → s'.stream.finSent = true) := by
  obtain ⟨s, hrun, hc, hshut, hwin⟩ : ∃ s,
      (Sys.init 0 2000).run .quicGo .shipped [.write (List.replicate 1453 0), .close] =
        some (ok s) ∧
      s.stream.canceledWrite = false ∧ s.stream.closeForShutdownErr = none ∧
      s.stream.nextFrameData.length + s.stream.dataForWriting.length ≤ s.window :=
    ⟨_, rfl, by decide⟩
  have hs := (FramerReachable.init 0 2000).run (by decide) hrun
  exact ⟨s, hs, hc, hshut, hwin, pops_frame_everything hs hc hshut hwin (by decide) (by decide)⟩

/-- A closed stream that is neither canceled nor shut down, with something left to frame or in
flight and a window that covers its data, completes: at most `leftToFrame` pops with a budget in
the packet assembler's range, each given the whole window left, and then an acknowledgement of
every frame in flight, oldest first, leave it completed, with `onStreamCompleted` called once. -/
theorem closed_stream_completes (hs : FramerReachable pc cfg s)
    (hc : s.stream.canceledWrite = false) (hshut : s.stream.closeForShutdownErr = none)
    (hclosed : s.stream.finishedWriting = true)
    (hwin : s.stream.nextFrameData.length + s.stream.dataForWriting.length ≤ s.window)
    (hpending : 0 < s.stream.leftToFrame ∨ s.inFlight ≠ [])
    {mb : Nat} (hmin : minStreamFrameSize ≤ mb) (hmax : mb ≤ pc.maxPacketBufferSize) :
    ∃ n ≤ s.stream.leftToFrame, ∃ t, s.popWindows pc cfg mb n = some (ok t) ∧ ∃ s',
      t.run pc cfg (List.replicate (s.inFlight.length + n) (.acked 0)) = some (ok s') ∧
      s'.stream.completed = true ∧ completions s'.log = 1 := by
  obtain ⟨n, hlen, t, hrun, hd⟩ := Sys.pops_drain hs hc hshut hwin hmin hmax
  obtain ⟨hq, -, -, hfin⟩ :=
    (SendStream.leftToFrame_eq_zero (Framed.reachable hd.reachable).next).1 hd.framed
  have hne : t.inFlight ≠ [] := by
    rcases Nat.eq_zero_or_pos n with rfl | hn
    · cases hrun
      exact hpending.resolve_left (by simp [hd.framed])
    · exact List.ne_nil_of_length_pos (by rw [hd.inFlight]; omega)
  obtain ⟨u, hu, hdone⟩ := Sys.acks_complete hd.reachable.reachable hd.active
    (hfin (hd.keeps.finishedWriting.trans hclosed)) hq hne
  refine ⟨n, hlen, t, hrun, u, by rw [← hd.inFlight]; exact hu, hdone, ?_⟩
  rw [(Accounting.reachable (hd.reachable.reachable.run hu)).reported, if_pos hdone]

set_option maxRecDepth 8000 in
/-- A byte more than a packet buffer behind a blocked `Write`, and the stream closed: two pops
and the acknowledgements of their frames complete it. -/
theorem closed_stream_completes_one_byte : ∃ s, FramerReachable .quicGo .shipped s ∧
    s.stream.canceledWrite = false ∧ s.stream.closeForShutdownErr = none ∧
    s.stream.finishedWriting = true ∧
    s.stream.nextFrameData.length + s.stream.dataForWriting.length ≤ s.window ∧
    (0 < s.stream.leftToFrame ∨ s.inFlight ≠ []) ∧
    ∃ n ≤ s.stream.leftToFrame, ∃ t, s.popWindows .quicGo .shipped 1452 n = some (ok t) ∧ ∃ s',
      t.run .quicGo .shipped (List.replicate (s.inFlight.length + n) (.acked 0)) =
        some (ok s') ∧ s'.stream.completed = true ∧ completions s'.log = 1 := by
  obtain ⟨s, hrun, hc, hshut, hclosed, hwin, hleft⟩ : ∃ s,
      (Sys.init 0 2000).run .quicGo .shipped [.write (List.replicate 1453 0), .close] =
        some (ok s) ∧
      s.stream.canceledWrite = false ∧ s.stream.closeForShutdownErr = none ∧
      s.stream.finishedWriting = true ∧
      s.stream.nextFrameData.length + s.stream.dataForWriting.length ≤ s.window ∧
      0 < s.stream.leftToFrame :=
    ⟨_, rfl, by decide⟩
  have hs := (FramerReachable.init 0 2000).run (by decide) hrun
  exact ⟨s, hs, hc, hshut, hclosed, hwin, .inl hleft,
    closed_stream_completes hs hc hshut hclosed hwin (.inl hleft) (by decide) (by decide)⟩

end Properties

end PrQuic.Stream
