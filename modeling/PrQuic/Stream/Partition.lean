import PrQuic.Stream.Shape

/-!
# No byte range is lost or duplicated

Every frame the stream handed out is acknowledged, in flight, back on the retransmission queue,
or replaced by a PR_ACK_NOTIFY entry with its range.  Until the stream is canceled, the ranges
`[offset, offset + length)` of these pieces partition `[0, writeOffset)`, and one of them
carries FIN once FIN was sent.  A pop adds a new frame's range at the write offset, or moves a
queued range to flight, cut in two when it does not fit; a callback moves a range from flight to
the acknowledged ones, the queue or the notifications.  A cancellation empties the queue and
makes later losses no-ops, so it loses ranges.
-/

namespace PrQuic.Stream

open Wire GoResult

/-- A byte range `[offset, offset + len)` of the stream, and whether it carries FIN. -/
structure Piece where
  offset : Nat
  len : Nat
  fin : Bool
  deriving DecidableEq, Repr

namespace Piece

/-- The piece contains the byte at offset `k`. -/
def covers (k : Nat) (p : Piece) : Bool :=
  decide (p.offset ≤ k ∧ k < p.offset + p.len)

/-- The range of a queued STREAM frame. -/
def ofStreamFrame (f : StreamFrame) : Piece := ⟨f.offset, f.data.length, f.fin⟩

/-- The range a PR_ACK_NOTIFY entry stands for. -/
def ofNotify (n : PRAckNotifyFrame) : Piece := ⟨n.offset, n.prDataLen, n.fin⟩

end Piece

/-- The range of a frame handed out. -/
def OutFrame.piece (f : OutFrame) : Piece := ⟨f.offset, f.data.length, f.fin⟩

@[simp] theorem OutFrame.piece_outFrame (cfg : PRConfig) (f : StreamFrame) :
    (SendStream.outFrame cfg f).piece = Piece.ofStreamFrame f := by
  simp [OutFrame.piece, Piece.ofStreamFrame]

/-- The pieces of a run: the frames acknowledged, those in flight, those queued for
retransmission, and the PR_ACK_NOTIFY entries. -/
def Sys.pieces (s : Sys) : List Piece :=
  (ackedFrames s.log).map OutFrame.piece ++ s.inFlight.map OutFrame.piece ++
    s.stream.retransmissionQueue.map Piece.ofStreamFrame ++
    s.stream.prAckNotifyRetransmissionQueue.map Piece.ofNotify

@[simp] theorem Sys.countP_pieces (s : Sys) (p : Piece → Bool) :
    s.pieces.countP p = (ackedFrames s.log).countP (p ∘ OutFrame.piece) +
      s.inFlight.countP (p ∘ OutFrame.piece) +
      s.stream.retransmissionQueue.countP (p ∘ Piece.ofStreamFrame) +
      s.stream.prAckNotifyRetransmissionQueue.countP (p ∘ Piece.ofNotify) := by
  simp only [Sys.pieces, List.countP_append, List.countP_map]

theorem countP_eraseIdx {α : Type} {l : List α} {i : Nat} {f : α}
    (h : l.get? i = some f) (p : α → Bool) :
    l.countP p = (l.eraseIdx i).countP p + if p f then 1 else 0 := by
  obtain ⟨hi, rfl⟩ := List.get?_eq_some.1 h
  have hl : l = l.take i ++ l.get ⟨i, hi⟩ :: l.drop (i + 1) := by
    rw [List.get_eq_getElem, ← List.drop_eq_getElem_cons hi, List.take_append_drop]
  conv_lhs => rw [hl]
  rw [List.eraseIdx_eq_take_drop_succ, List.countP_append, List.countP_append, List.countP_cons]
  omega

theorem SendStream.Requeued.piece {f : OutFrame} {g : StreamFrame}
    (h : SendStream.Requeued f g) : Piece.ofStreamFrame g = f.piece := by
  simp [Piece.ofStreamFrame, OutFrame.piece, h.offset, h.data, h.fin]

theorem SendStream.Notified.piece {f : OutFrame} {n : PRAckNotifyFrame}
    (h : SendStream.Notified f n) : Piece.ofNotify n = f.piece := by
  simp [Piece.ofNotify, OutFrame.piece, h.offset, h.prDataLen, h.fin]

/-- A split of a queued frame covers what the frame covered, and carries its FIN. -/
theorem SendStream.Splits.countP {pc : Protocol} {f g : StreamFrame} {rest rq : List StreamFrame}
    (hs : SendStream.Splits pc f rest g rq) (k : Nat) :
    ((g :: rq).map Piece.ofStreamFrame).countP (Piece.covers k) =
        ((f :: rest).map Piece.ofStreamFrame).countP (Piece.covers k) ∧
      ((g :: rq).map Piece.ofStreamFrame).countP Piece.fin =
        ((f :: rest).map Piece.ofStreamFrame).countP Piece.fin := by
  cases hs with
  | whole => exact ⟨rfl, rfl⟩
  | split n =>
    simp only [List.map_cons, List.countP_cons, Piece.ofStreamFrame, Piece.covers,
      List.length_take, List.length_drop, decide_eq_true_eq, Bool.false_eq_true, if_false]
    constructor
    · split_ifs <;> omega
    · omega

/-- What the ranges of an uncanceled run satisfy. -/
structure Partition (s : Sys) : Prop where
  /-- every byte before the write offset is in exactly one piece, and no later byte is in any -/
  cover : ∀ k, s.pieces.countP (Piece.covers k) = if k < s.stream.writeOffset then 1 else 0
  /-- one piece carries FIN once FIN was sent, and none before -/
  fin : s.pieces.countP Piece.fin = if s.stream.finSent then 1 else 0

namespace Partition

variable {pc : Protocol} {cfg : PRConfig} {s s' : Sys}

theorem init (streamID initialWindow : Nat) : Partition (Sys.init streamID initialWindow) :=
  ⟨fun k => by simp [Sys.init, newSendStream], rfl⟩

/-- A step that keeps how many pieces cover each byte and carry FIN, the write offset and
`finSent` keeps the partition. -/
theorem of_countP (h : Partition s)
    (hc : ∀ k, s'.pieces.countP (Piece.covers k) = s.pieces.countP (Piece.covers k))
    (hp : s'.pieces.countP Piece.fin = s.pieces.countP Piece.fin)
    (hW : s'.stream.writeOffset = s.stream.writeOffset)
    (hf : s'.stream.finSent = s.stream.finSent) : Partition s' :=
  ⟨fun k => by rw [hc, hW, h.cover], by rw [hp, hf, h.fin]⟩

/-- A step that moves pieces around and keeps the write offset and `finSent` keeps the
partition. -/
theorem of_pieces (h : Partition s) (hp : ∀ p, s'.pieces.countP p = s.pieces.countP p)
    (hW : s'.stream.writeOffset = s.stream.writeOffset)
    (hf : s'.stream.finSent = s.stream.finSent) : Partition s' :=
  h.of_countP (fun _ => hp _) (hp _) hW hf

/-- A step that keeps the pieces, the write offset and `finSent` keeps the partition. -/
theorem of_eq (h : Partition s) (hp : s'.pieces = s.pieces)
    (hW : s'.stream.writeOffset = s.stream.writeOffset)
    (hf : s'.stream.finSent = s.stream.finSent) : Partition s' :=
  h.of_pieces (fun _ => by rw [hp]) hW hf

/-- A pop that hands out a new frame with range `[writeOffset, writeOffset + len)` and moves
the write offset past it keeps the partition, when it sets `finSent` as the frame's FIN and a
FIN frame comes first. -/
theorem of_new (h : Partition s) (x : Piece)
    (hp : ∀ p, s'.pieces.countP p = s.pieces.countP p + if p x then 1 else 0)
    (hx : x.offset = s.stream.writeOffset)
    (hW : s'.stream.writeOffset = s.stream.writeOffset + x.len)
    (hf : s'.stream.finSent = (s.stream.finSent || x.fin))
    (hfx : x.fin = true → s.stream.finSent = false) : Partition s' := by
  refine ⟨fun k => ?_, ?_⟩
  · rw [hp, h.cover, hW]
    simp only [Piece.covers, hx, decide_eq_true_eq]
    split_ifs <;> omega
  · rw [hp, h.fin, hf]
    cases hxf : x.fin <;> cases hsf : s.stream.finSent <;> simp_all

theorem pop_step {mb w : Nat} (h : Partition s) (hsh : Shape pc s)
    (hn : s.next pc cfg (.pop mb w) = some (ok s')) : Partition s' := by
  obtain ⟨-, r, hr, rfl⟩ := Sys.next_pop hn
  obtain ⟨r0, hspec, rfl⟩ := SendStream.popStreamFrame_spec pc cfg hr
  cases hspec with
  | none => exact h.of_countP (fun k => by simp) (by simp) rfl rfl
  | retransmit f rest rq g hact hshut hq hsplit =>
    have hretr : s.stream.popsRetransmission = true := by
      simp [SendStream.popsRetransmission, hact, hshut, hq]
    refine h.of_countP (fun k => ?_) ?_ rfl rfl
    · have := (hsplit.countP k).1
      simp [List.countP_cons] at this
      simp [hq, List.countP_append, List.countP_cons, hretr]
      omega
    · have := (hsplit.countP 0).2
      simp [List.countP_cons] at this
      simp [hq, List.countP_append, List.countP_cons, hretr]
      omega
  | fin hact hshut hq hd hnf hw hfs =>
    exact h.of_new ⟨s.stream.writeOffset, 0, true⟩
      (fun p => by
        simp [SendStream.finFrame, Piece.ofStreamFrame, List.countP_append, List.countP_cons]
        omega)
      rfl rfl
      (by simp) (fun _ => hfs)
  | new d dfw nf g more wc hact hshut hq htake hoff hdata hfin =>
    refine h.of_new (Piece.ofStreamFrame g)
      (fun p => by simp [List.countP_append, List.countP_cons]; omega)
      (by simp [Piece.ofStreamFrame, hoff, SendStream.nextOffset_eq hsh.nextOffset])
      (by simp [Piece.ofStreamFrame, hdata]) (by simp [Piece.ofStreamFrame]) (fun hg => ?_)
    simp only [Piece.ofStreamFrame, hfin, Bool.and_eq_true, Bool.not_eq_true'] at hg
    exact hg.2

/-- A callback moves the frame it is called for from flight to the acknowledged frames, to
the retransmission queue or to the notifications. -/
theorem callback_step {i : Nat} {f : OutFrame} {st : SendStream} {x : Observation}
    {ups : List Upcall} (h : Partition s) (hget : s.inFlight.get? i = some f)
    (hst : (x = .acked f ∧ st.retransmissionQueue = s.stream.retransmissionQueue ∧
        st.prAckNotifyRetransmissionQueue = s.stream.prAckNotifyRetransmissionQueue) ∨
      x = .lost f ∧
        ((∃ g, SendStream.Requeued f g ∧
          st.retransmissionQueue = s.stream.retransmissionQueue ++ [g] ∧
          st.prAckNotifyRetransmissionQueue = s.stream.prAckNotifyRetransmissionQueue) ∨
        (∃ n, SendStream.Notified f n ∧
          st.retransmissionQueue = s.stream.retransmissionQueue ∧
          st.prAckNotifyRetransmissionQueue = s.stream.prAckNotifyRetransmissionQueue ++ [n])))
    (hW : st.writeOffset = s.stream.writeOffset) (hf : st.finSent = s.stream.finSent) :
    Partition { s with
      stream := st
      inFlight := s.inFlight.eraseIdx i
      log := s.log ++ (x :: ups.map .upcall) } := by
  refine h.of_pieces (fun p => ?_) hW hf
  have hI := countP_eraseIdx hget (p ∘ OutFrame.piece)
  rcases hst with ⟨rfl, hq, hnq⟩ | ⟨rfl, ⟨g, hg, hq, hnq⟩ | ⟨n, hn, hq, hnq⟩⟩
  · simp [hq, hnq, List.countP_append, List.countP_cons] at hI ⊢
    omega
  · simp [hq, hnq, List.countP_append, List.countP_cons, hg.piece] at hI ⊢
    omega
  · simp [hq, hnq, List.countP_append, List.countP_cons, hn.piece] at hI ⊢
    omega

theorem step {e : Event} (h : Partition s) (hsh : Shape pc s)
    (hc : s'.stream.canceledWrite = false) (hn : s.next pc cfg e = some (ok s')) :
    Partition s' := by
  cases e with
  | write p =>
    obtain ⟨-, r, hr, rfl⟩ := Sys.next_write hn
    obtain ⟨nf, dfw, hst⟩ := SendStream.writeEntry_frame pc hr
    exact h.of_eq (by simp [Sys.pieces, hst]) (by simp [hst]) (by simp [hst])
  | wake b =>
    obtain ⟨p, timer, st, r, -, hst, hr, rfl⟩ := Sys.next_wake hn
    obtain ⟨nf, dfw, hr1⟩ := (SendStream.writeLoopIteration_spec pc hr).frame
    rcases hst with ⟨-, -, -, rfl⟩ | ⟨-, -, rfl⟩ <;>
      exact h.of_eq (by simp [Sys.pieces, hr1]) (by simp [hr1]) (by simp [hr1])
  | close =>
    rw [Sys.next_close hn]
    unfold SendStream.close
    split_ifs <;> exact h.of_eq (by simp [Sys.pieces]) rfl rfl
  | cancelWrite c | stopSending c =>
    rcases Sys.next_cancel (c := c) (by simp) hn with ⟨h0, rfl⟩ | ⟨-, err, rfl⟩
    · simp [h0] at hc
    · simp at hc
  | updateSendWindow l =>
    rw [Sys.next_updateSendWindow hn]
    exact h.of_eq (by simp [Sys.pieces, Sys.withUpcalls, SendStream.updateSendWindow]) rfl rfl
  | pop mb w => exact h.pop_step hsh hn
  | acked i =>
    obtain ⟨f, st, ups, hget, hr, rfl⟩ := Sys.next_acked hn
    rcases SendStream.onAcked_spec hr with ⟨-, rfl, -⟩ | ⟨-, -, b, hb, -⟩
    · exact h.callback_step hget (.inl ⟨rfl, rfl, rfl⟩) rfl rfl
    · rw [SendStream.isNewlyCompleted_eq] at hb
      cases hb
      exact h.callback_step hget (.inl ⟨rfl, rfl, rfl⟩) rfl rfl
  | lost i r =>
    obtain ⟨f, st, ups, hget, hr, rfl⟩ := Sys.next_lost hn
    rcases SendStream.onLost_spec hr with ⟨hc0, rfl, -⟩ | ⟨-, -, -, ⟨g, hg, rfl⟩ | ⟨n, hn', rfl⟩⟩
    · simp [hc0] at hc
    · exact h.callback_step hget (.inr ⟨rfl, .inl ⟨g, hg, rfl, rfl⟩⟩) rfl rfl
    · exact h.callback_step hget (.inr ⟨rfl, .inr ⟨n, hn', rfl, rfl⟩⟩) rfl rfl
  | tick | closeForShutdown err | setWriteDeadline t =>
    simp only [Sys.next, Option.some.injEq, ok.injEq] at hn; subst hn
    exact h.of_eq rfl rfl rfl

theorem reachable (hs : Reachable pc cfg s) (hc : s.stream.canceledWrite = false) :
    Partition s := by
  refine Reachable.induction (P := fun s => s.stream.canceledWrite = false → Partition s)
    (fun _ _ _ => init _ _) (fun s s' e hs h hn hc' => ?_) hs hc
  have hc0 : s.stream.canceledWrite = false := by
    cases hcs : s.stream.canceledWrite
    · rfl
    · simp [(Sys.flags_of_next hn).1 hcs] at hc'
  exact (h hc0).step (Shape.reachable hs) hc' hn

end Partition

section Properties

variable {pc : Protocol} {cfg : PRConfig}

/-- Until the stream is canceled, the ranges of the frames acknowledged, in flight and queued
for retransmission, and of the PR_ACK_NOTIFY entries, cover every byte before the write offset
exactly once and no byte after it; one of them carries FIN once FIN was sent, and none
before. -/
theorem framed_ranges_partitioned {s : Sys} (hs : Reachable pc cfg s)
    (hc : s.stream.canceledWrite = false) :
    (∀ k, s.pieces.countP (Piece.covers k) = if k < s.stream.writeOffset then 1 else 0) ∧
      s.pieces.countP Piece.fin = if s.stream.finSent then 1 else 0 :=
  have h := Partition.reachable hs hc
  ⟨h.cover, h.fin⟩

/-- With the probability policy, five bytes framed with FIN as four frames; the first is given
up, the second lost and queued again, and the FIN's frame acknowledged: the pieces of all four
kinds still cover each byte once. -/
theorem framed_ranges_partitioned_four_kinds : ∃ s, Reachable .quicGo .probability s ∧
    s.stream.canceledWrite = false ∧
    s.pieces = [⟨3, 2, true⟩, ⟨2, 1, false⟩, ⟨1, 1, false⟩, ⟨0, 1, false⟩] ∧
    (∀ k, s.pieces.countP (Piece.covers k) = if k < s.stream.writeOffset then 1 else 0) ∧
      s.pieces.countP Piece.fin = if s.stream.finSent then 1 else 0 := by
  obtain ⟨s, hrun, hc, hp⟩ : ∃ s, (Sys.init 0 1452).run .quicGo .probability
      [.write [0, 1, 2, 3, 4], .close, .pop 1452 1, .pop 1452 1, .pop 1452 1, .pop 1452 2,
        .lost 0 0, .lost 0 9999, .acked 1] = some (ok s) ∧ s.stream.canceledWrite = false ∧
      s.pieces = [⟨3, 2, true⟩, ⟨2, 1, false⟩, ⟨1, 1, false⟩, ⟨0, 1, false⟩] :=
    ⟨_, rfl, rfl, by decide⟩
  have hs := (Reachable.init 0 1452).run hrun
  exact ⟨s, hs, hc, hp, framed_ranges_partitioned hs hc⟩

end Properties

end PrQuic.Stream
