import PrQuic.Stream.Log

/-!
# Outstanding frames and completion

`numOutstandingFrames` counts the frames handed out whose callback has not run: `popStreamFrame`
increments it, the loss detector's callbacks decrement it, and `cancelWriteImpl` resets it.
Completion is reported through `isNewlyCompleted`, which sets `completed`, so at most once;
`Accounting` holds of every reachable state.  A loss the PR policy skips decrements the count in
`prAckNotifyQueueRetransmission`, which never asks `isNewlyCompleted`: when the skipped frame
was the last in flight, the stream is done but never reports it.
-/

namespace PrQuic.Stream

open Wire GoResult

theorem length_eraseIdx_of_get? {l : List OutFrame} {i : Nat} {f : OutFrame}
    (h : l.get? i = some f) : ((l.eraseIdx i).length : Int) = l.length - 1 := by
  have hi := (List.get?_eq_some.1 h).1
  rw [List.length_eraseIdx, if_pos hi]
  omega

/-- The counts every run keeps. -/
structure Accounting (s : Sys) : Prop where
  /-- the frames in flight are counted, until the stream is canceled -/
  outstanding : s.stream.numOutstandingFrames =
    if s.stream.canceledWrite then 0 else (s.inFlight.length : Int)
  /-- completion has been reported once `completed` is set, and never before -/
  reported : completions s.log = if s.stream.completed then 1 else 0

namespace Accounting

variable {pc : Protocol} {cfg : PRConfig}

theorem init (streamID initialWindow : Nat) : Accounting (Sys.init streamID initialWindow) :=
  ⟨rfl, rfl⟩

theorem step {s s' : Sys} {e : Event} (h : Accounting s) (hn : s.next pc cfg e = some (ok s')) :
    Accounting s' := by
  obtain ⟨hout, hrep⟩ := h
  cases e with
  | write p =>
    obtain ⟨-, r, hr, rfl⟩ := Sys.next_write hn
    obtain ⟨nf, dfw, h1⟩ := SendStream.writeEntry_frame pc hr
    constructor <;> simp [h1, hout, hrep]
  | wake b =>
    obtain ⟨p, timer, st, r, -, hst, hr, rfl⟩ := Sys.next_wake hn
    obtain ⟨nf, dfw, h1⟩ := (SendStream.writeLoopIteration_spec pc hr).frame
    rcases hst with ⟨-, -, -, rfl⟩ | ⟨-, -, rfl⟩ <;> constructor <;> simp [h1, hout, hrep]
  | tick =>
    simp only [Sys.next, Option.some.injEq, ok.injEq] at hn
    subst hn; exact ⟨hout, hrep⟩
  | close =>
    rw [Sys.next_close hn]
    unfold SendStream.close
    split_ifs <;> constructor <;> simp [hout, hrep]
  | cancelWrite c | stopSending c =>
    rcases Sys.next_cancel (c := c) (by simp) hn with ⟨-, rfl⟩ | ⟨-, err, rfl⟩
    · exact ⟨hout, hrep⟩
    · refine ⟨rfl, ?_⟩
      cases hcomp : s.stream.completed <;> simp [hrep, hcomp]
  | closeForShutdown err =>
    simp only [Sys.next, Option.some.injEq, ok.injEq] at hn
    subst hn; exact ⟨hout, hrep⟩
  | setWriteDeadline t =>
    simp only [Sys.next, Option.some.injEq, ok.injEq] at hn
    subst hn; exact ⟨hout, hrep⟩
  | updateSendWindow l =>
    rw [Sys.next_updateSendWindow hn]
    simp only [Sys.withUpcalls, SendStream.updateSendWindow]
    split_ifs <;> constructor <;> simp [hout, hrep]
  | pop mb w =>
    obtain ⟨-, r, hr, rfl⟩ := Sys.next_pop hn
    obtain ⟨r0, hspec, rfl⟩ := SendStream.popStreamFrame_spec pc cfg hr
    cases hspec with
    | none fc more ups hsent hwin hups =>
      rcases hups with rfl | ⟨o, rfl⟩ <;> constructor <;> simp [hout, hrep]
    | retransmit f rest rq g hact =>
      constructor <;> simp [hout, hrep, hact]
    | fin hact =>
      constructor <;> simp [hout, hrep, hact]
    | new d dfw nf g more wc hact =>
      constructor <;> simp [hout, hrep, hact]
  | acked i =>
    obtain ⟨f, st, ups, hf, hr, rfl⟩ := Sys.next_acked hn
    have hlen := length_eraseIdx_of_get? hf
    rcases SendStream.onAcked_spec hr with ⟨hc, rfl, rfl⟩ | ⟨hc, hpos, b, hb, rfl⟩
    · constructor <;> simp [hout, hrep, hc]
    · rw [SendStream.isNewlyCompleted_eq] at hb
      cases hb
      constructor
      · simp [hout, hc, hlen]
      · cases hcomp : s.stream.completed <;> simp [hrep, hcomp]; split_ifs <;> simp
  | lost i r =>
    obtain ⟨f, st, ups, hf, hr, rfl⟩ := Sys.next_lost hn
    have hlen := length_eraseIdx_of_get? hf
    rcases SendStream.onLost_spec hr with ⟨hc, rfl, rfl⟩ | ⟨hc, hpos, rfl, ⟨g, -, rfl⟩ | ⟨n, -, rfl⟩⟩ <;>
      constructor <;> simp [hout, hrep, hc, hlen]

theorem reachable {s : Sys} (hs : Reachable pc cfg s) : Accounting s :=
  Reachable.induction init (fun _ _ _ _ h hn => h.step hn) hs

end Accounting

namespace Sys

variable {pc : Protocol} {cfg : PRConfig}

/-- Only the acknowledgment callbacks and `cancelWriteImpl` set `completed`, and they set it on
a stream with nothing left to send or to wait for. -/
theorem completes_step {s s' : Sys} {e : Event} (hn : s.next pc cfg e = some (ok s'))
    (h0 : s.stream.completed = false) (h1 : s'.stream.completed = true) :
    (s'.stream.finSent = true ∨ s'.stream.canceledWrite = true) ∧
      s'.stream.numOutstandingFrames = 0 ∧ s'.stream.retransmissionQueue = [] := by
  cases e with
  | write p =>
    obtain ⟨nf, dfw, hst, -⟩ := next_write_stream hn
    simp [hst, h0] at h1
  | wake b =>
    obtain ⟨nf, dfw, wc, hst, -⟩ := next_wake_stream hn
    simp [hst, h0] at h1
  | close =>
    rw [next_close hn] at h1
    unfold SendStream.close at h1
    split_ifs at h1 <;> simp_all
  | cancelWrite c | stopSending c =>
    rcases next_cancel (c := c) (by simp) hn with ⟨-, rfl⟩ | ⟨-, err, rfl⟩
    · simp [h0] at h1
    · simp
  | updateSendWindow l =>
    rw [next_updateSendWindow hn] at h1
    simp [withUpcalls, SendStream.updateSendWindow, h0] at h1
  | pop mb w =>
    obtain ⟨-, r, hr, rfl⟩ := next_pop hn
    obtain ⟨r0, hspec, rfl⟩ := SendStream.popStreamFrame_spec pc cfg hr
    cases hspec <;> simp [h0] at h1
  | acked i =>
    obtain ⟨f, st, ups, -, hr, rfl⟩ := next_acked hn
    rcases SendStream.onAcked_spec hr with ⟨-, rfl, -⟩ | ⟨hc, -, b, hb, -⟩
    · simp [h0] at h1
    · rw [SendStream.isNewlyCompleted_eq] at hb
      cases hb
      simp_all
  | lost i r =>
    obtain ⟨f, st, ups, -, hr, rfl⟩ := next_lost hn
    rcases SendStream.onLost_spec hr with ⟨-, rfl, -⟩ | ⟨-, -, -, ⟨g, -, rfl⟩ | ⟨n, -, rfl⟩⟩ <;>
      simp [h0] at h1
  | _ =>
    simp only [next, Option.some.injEq, ok.injEq] at hn; subst hn
    simp [SendStream.closeForShutdown, SendStream.setWriteDeadline, h0] at h1

end Sys

section Properties

variable {pc : Protocol} {cfg : PRConfig}

/-! ## The count of outstanding frames -/

/-- The count is the number of frames in flight, and zero once the stream is canceled; so it
is never negative, and no callback of a frame in flight finds it negative. -/
theorem outstanding_frames_accounted {s : Sys} (hs : Reachable pc cfg s) :
    s.stream.numOutstandingFrames =
        (if s.stream.canceledWrite then 0 else (s.inFlight.length : Int)) ∧
      0 ≤ s.stream.numOutstandingFrames ∧
      ∀ f ∈ s.inFlight, s.stream.onAcked pc f ≠ .panic numOutstandingNegative ∧
        ∀ r, s.stream.onLost f r ≠ .panic numOutstandingNegative := by
  have hout := (Accounting.reachable hs).outstanding
  have hpos : ∀ f ∈ s.inFlight, s.stream.canceledWrite = false →
      1 ≤ s.stream.numOutstandingFrames := by
    intro f hf hc
    have := List.length_pos_of_mem hf
    rw [hout, if_neg (by simp [hc])]
    omega
  refine ⟨hout, by split_ifs at hout <;> omega, fun f hf =>
    ⟨SendStream.onAcked_ne_panic (hpos f hf), fun r => SendStream.onLost_ne_panic (hpos f hf)⟩⟩

/-- With the probability policy, three one-byte frames popped; the first is given up, the third
lost, queued and popped again: two frames are in flight and the count is two. -/
theorem outstanding_frames_accounted_after_losses : ∃ s, Reachable .quicGo .probability s ∧
    s.inFlight.length = 2 ∧ s.stream.prAckNotifyRetransmissionQueue.length = 1 ∧
    s.stream.numOutstandingFrames =
        (if s.stream.canceledWrite then 0 else (s.inFlight.length : Int)) ∧
      0 ≤ s.stream.numOutstandingFrames ∧
      ∀ f ∈ s.inFlight, s.stream.onAcked .quicGo f ≠ .panic numOutstandingNegative ∧
        ∀ r, s.stream.onLost f r ≠ .panic numOutstandingNegative := by
  obtain ⟨s, hrun, hl, hn⟩ : ∃ s, (Sys.init 0 1452).run .quicGo .probability
      [.write [0, 1, 2], .pop 1452 1, .pop 1452 1, .lost 0 0, .pop 1452 1, .lost 1 9999,
        .pop 1452 1] = some (ok s) ∧ s.inFlight.length = 2 ∧
      s.stream.prAckNotifyRetransmissionQueue.length = 1 :=
    ⟨_, rfl, rfl, rfl⟩
  have hs := (Reachable.init 0 1452).run hrun
  exact ⟨s, hs, hl, hn, outstanding_frames_accounted hs⟩

/-! ## Completion is reported once, and only when the stream is done -/

/-- `onStreamCompleted` is called at most once, and a step that calls it leaves a canceled
stream, or one whose FIN went out with nothing in flight and nothing to retransmit. -/
theorem completion_reported_soundly {s : Sys} (hs : Reachable pc cfg s) :
    completions s.log ≤ 1 ∧
      ∀ e s', s.next pc cfg e = some (ok s') → completions s.log < completions s'.log →
        s'.stream.canceledWrite = true ∨
          s'.stream.finSent = true ∧ s'.inFlight = [] ∧ s'.stream.retransmissionQueue = [] := by
  have h := Accounting.reachable hs
  refine ⟨by rw [h.reported]; split_ifs <;> omega, fun e s' hn hlt => ?_⟩
  have h' := h.step hn
  rw [h.reported, h'.reported] at hlt
  rcases h0 : s.stream.completed <;> rcases h1 : s'.stream.completed <;> simp [h0, h1] at hlt
  obtain ⟨hfin, hcount, hrq⟩ := Sys.completes_step hn h0 h1
  by_cases hc : s'.stream.canceledWrite = true
  · exact .inl hc
  · have hout := h'.outstanding
    rw [if_neg hc, hcount] at hout
    exact .inr ⟨by simpa [hc] using hfin, List.length_eq_zero.1 (by omega), hrq⟩

/-- With the probability policy, one byte given up and a second acknowledged, with the FIN's
frame in flight: its acknowledgement completes the stream, and the completion is sound. -/
theorem completion_reported_soundly_given_up : ∃ s, Reachable .quicGo .probability s ∧
    completions s.log = 0 ∧
    (∃ s', s.next .quicGo .probability (.acked 0) = some (ok s') ∧ completions s'.log = 1) ∧
    completions s.log ≤ 1 ∧
      ∀ e s', s.next .quicGo .probability e = some (ok s') →
        completions s.log < completions s'.log →
        s'.stream.canceledWrite = true ∨
          s'.stream.finSent = true ∧ s'.inFlight = [] ∧ s'.stream.retransmissionQueue = [] := by
  obtain ⟨s, hrun, h0, hack⟩ : ∃ s, (Sys.init 0 1452).run .quicGo .probability
      [.write [0], .pop 1452 1, .lost 0 0, .write [1], .pop 1452 1, .close, .pop 1452 1,
        .acked 0] = some (ok s) ∧ completions s.log = 0 ∧
      ∃ s', s.next .quicGo .probability (.acked 0) = some (ok s') ∧ completions s'.log = 1 :=
    ⟨_, rfl, by decide, _, rfl, by decide⟩
  have hs := (Reachable.init 0 1452).run hrun
  exact ⟨s, hs, h0, hack, completion_reported_soundly hs⟩

/-! ## A skipped loss misses completion -/

/-- One byte written and closed, its frame popped with FIN, lost, and the loss skipped. -/
def skippedLastLoss : List Event := [.write [0], .close, .pop 1452 1452, .lost 0 0]

/-- After the run, the FIN is out and nothing is in flight or queued for retransmission, yet
`completed` is false and `onStreamCompleted` was never called. -/
theorem completion_missed_after_skipped_loss :
    ∃ s, Reachable .quicGo .probability s ∧
      s.stream.finSent = true ∧ s.stream.numOutstandingFrames = 0 ∧
      s.stream.retransmissionQueue = [] ∧ s.stream.completed = false ∧ completions s.log = 0 := by
  obtain ⟨s, hrun, hs⟩ : ∃ s, (Sys.init 0 1452).run .quicGo .probability skippedLastLoss =
      some (ok s) ∧ s.stream.finSent = true ∧ s.stream.numOutstandingFrames = 0 ∧
      s.stream.retransmissionQueue = [] ∧ s.stream.completed = false ∧ completions s.log = 0 :=
    ⟨_, rfl, by decide⟩
  exact ⟨s, (Reachable.init 0 1452).run hrun, hs⟩

end Properties

end PrQuic.Stream
