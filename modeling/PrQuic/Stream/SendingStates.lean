import PrQuic.Stream.Fin
import PrQuic.Stream.Accounting

/-!
# The sending states of RFC 9000

RFC 9000's Figure 2 gives the sending part of a stream the states Ready, Send, Data Sent, Data
Recvd and Reset Sent, with the final size of its section 4.5.  `Sys.sendingState` reads the state
off the stream and `sendings` the transitions' labels off the log; `SendingInvariant` says the
labels lead from Ready to that state along the RFC's transitions, with two exceptions: a
RESET_STREAM queued after completion (`LateReset`), and completion after the PR policy gave data
up, which ends in `givenUp` rather than Data Recvd (`GiveUp`).
-/

namespace PrQuic.Stream

open Wire GoResult

/-! ## The sending part of a stream in RFC 9000 -/

/-- A state of the sending part of a stream, with the bytes of data sent in Send and the final
size in the others. -/
inductive SendingState where
  | ready
  | send (sent : Nat)
  | dataSent (finalSize : Nat)
  | dataRecvd (finalSize : Nat)
  | resetSent (finalSize : Nat)
  /-- completion reported with data given up by the PR policy: not a state of the RFC -/
  | givenUp (finalSize : Nat)
  deriving DecidableEq, Repr

/-- The label of a transition of the sending part. -/
inductive Sending where
  /-- a STREAM frame with the new data `[offset, offset + len)`, and FIN or not -/
  | stream (offset len : Nat) (fin : Bool)
  /-- a STREAM frame with the data `[offset, offset + len)` sent before -/
  | retransmission (offset len : Nat)
  | dataBlocked
  | resetStream (finalSize : Nat)
  /-- every frame sent was acknowledged or given up: the stream reports completion -/
  | completed
  deriving DecidableEq, Repr

/-- The bytes of new data a transition sends. -/
def Sending.newData : Sending → Nat
  | stream _ len _ => len
  | retransmission _ _ | dataBlocked | resetStream _ | completed => 0

namespace SendingState

/-- The data sent so far, or the final size. -/
def sent : SendingState → Nat
  | ready => 0
  | send n | dataSent n | dataRecvd n | resetSent n | givenUp n => n

/-- The transitions of RFC 9000's Figure 2, with the final size of its section 4.5: new data
continues where the data sent ends, a retransmission lies within it, and a RESET_STREAM carries
it.  A first frame with FIN goes from Ready through Send to Data Sent at once. -/
inductive Step : SendingState → Sending → SendingState → Prop where
  | ready_stream (n : Nat) : Step ready (.stream 0 n false) (send n)
  | ready_fin (n : Nat) : Step ready (.stream 0 n true) (dataSent n)
  | ready_blocked : Step ready .dataBlocked (send 0)
  | ready_reset : Step ready (.resetStream 0) (resetSent 0)
  | send_stream (m n : Nat) : Step (send m) (.stream m n false) (send (m + n))
  | send_fin (m n : Nat) : Step (send m) (.stream m n true) (dataSent (m + n))
  | send_retransmission (m o n : Nat) (h : o + n ≤ m) :
      Step (send m) (.retransmission o n) (send m)
  | send_blocked (m : Nat) : Step (send m) .dataBlocked (send m)
  | send_reset (m : Nat) : Step (send m) (.resetStream m) (resetSent m)
  | dataSent_retransmission (m o n : Nat) (h : o + n ≤ m) :
      Step (dataSent m) (.retransmission o n) (dataSent m)
  | dataSent_completed (m : Nat) : Step (dataSent m) .completed (dataRecvd m)
  | dataSent_reset (m : Nat) : Step (dataSent m) (.resetStream m) (resetSent m)
  | resetSent_completed (m : Nat) : Step (resetSent m) .completed (resetSent m)

/-- The RESET_STREAM that a cancellation queues after completion: it leaves Data Recvd, which
has no transition in the RFC, or the state completion left after data was given up. -/
inductive LateReset : SendingState → Sending → SendingState → Prop where
  | mk (m : Nat) : LateReset (dataRecvd m) (.resetStream m) (resetSent m)
  | givenUp (m : Nat) : LateReset (givenUp m) (.resetStream m) (resetSent m)

/-- Completion after the PR policy replaced a lost frame by a PR_ACK_NOTIFY entry: the stream
leaves Data Sent without the acknowledgement of all data that Data Recvd stands for. -/
inductive GiveUp : SendingState → Sending → SendingState → Prop where
  | mk (m : Nat) : GiveUp (dataSent m) .completed (givenUp m)

/-- The moves of the stream: the RFC's transitions, the late RESET_STREAM and the completion
with data given up. -/
def Moves (a : SendingState) (l : Sending) (b : SendingState) : Prop :=
  Step a l b ∨ LateReset a l b ∨ GiveUp a l b

/-- The labels `ls`, one after another, lead from `a` to `b` by moves of `R`. -/
inductive Path (R : SendingState → Sending → SendingState → Prop) :
    SendingState → List Sending → SendingState → Prop where
  | nil (a : SendingState) : Path R a [] a
  | cons {a b c : SendingState} {l : Sending} {ls : List Sending} :
      R a l b → Path R b ls c → Path R a (l :: ls) c

section Paths

variable {R : SendingState → Sending → SendingState → Prop} {a b c : SendingState}

theorem Path.single {l : Sending} (h : R a l b) : Path R a [l] b := .cons h (.nil b)

theorem Path.append {l₁ l₂ : List Sending} (h₁ : Path R a l₁ b) (h₂ : Path R b l₂ c) :
    Path R a (l₁ ++ l₂) c := by
  induction h₁ with
  | nil => exact h₂
  | cons hs _ ih => exact .cons hs (ih h₂)

theorem Path.split {l₁ l₂ : List Sending} (h : Path R a (l₁ ++ l₂) c) :
    ∃ b, Path R a l₁ b ∧ Path R b l₂ c := by
  induction l₁ generalizing a with
  | nil => exact ⟨a, .nil a, h⟩
  | cons l ls ih =>
    cases h with
    | cons hs hp =>
      obtain ⟨b, h1, h2⟩ := ih hp
      exact ⟨b, .cons hs h1, h2⟩

end Paths

/-! ## The final size -/

section FinalSize

variable {a b c : SendingState} {l : Sending} {ls : List Sending}

/-- A move adds the new data it sends to the data sent. -/
theorem Moves.sent_eq (h : Moves a l b) : b.sent = a.sent + l.newData := by
  rcases h with h | h | h <;> cases h <;> simp [sent, Sending.newData]

theorem Path.sent_eq (h : Path Moves a ls b) : b.sent = a.sent + (ls.map Sending.newData).sum := by
  induction h with
  | nil => simp
  | cons hs _ ih => rw [ih, hs.sent_eq, List.map_cons, List.sum_cons, Nat.add_assoc]

/-- The states whose final size is known: all but Ready and Send. -/
def Final : SendingState → Prop
  | ready | send _ => False
  | dataSent _ | dataRecvd _ | resetSent _ | givenUp _ => True

/-- Once the final size is known, no move sends new data. -/
theorem Moves.final (h : Moves a l b) (ha : a.Final) : b.Final ∧ l.newData = 0 := by
  rcases h with h | h | h <;> cases h <;> simp_all [Final, Sending.newData]

theorem Path.final (h : Path Moves a ls b) (ha : a.Final) : b.sent = a.sent := by
  induction h with
  | nil => rfl
  | cons hs _ ih =>
    obtain ⟨hb, hl⟩ := hs.final ha
    rw [ih hb, hs.sent_eq, hl, Nat.add_zero]

/-- A FIN ends at the final size. -/
theorem Path.fin_end (h : Path Moves a ls b) {o n : Nat} (hf : Sending.stream o n true ∈ ls) :
    o + n = b.sent := by
  induction h with
  | nil => cases hf
  | @cons a a' c l ls hs hp ih =>
    rcases List.mem_cons.1 hf with rfl | hf
    · have ha' : a' = dataSent (o + n) := by
        rcases hs with hs | hs | hs <;> cases hs <;> simp
      subst ha'
      exact (hp.final trivial).symm
    · exact ih hf

/-- After a RESET_STREAM the stream only reports completion. -/
theorem Path.of_resetSent {m : Nat} (h : Path Moves (resetSent m) ls c) : ∀ l ∈ ls, l = .completed := by
  generalize ha : resetSent m = a at h
  induction h generalizing m with
  | nil => simp
  | cons hs _ ih =>
    subst ha
    rcases hs with hs | hs | hs <;> cases hs
    rintro l (_ | ⟨_, hl⟩)
    · rfl
    · exact ih rfl l hl

/-- Along a run from Ready, a RESET_STREAM carries the number of bytes of new data sent before
it, which is where a FIN sent before it ends, and nothing but completion follows it. -/
theorem Path.resetStream {l₁ l₂ : List Sending} {m : Nat}
    (h : Path Moves ready (l₁ ++ .resetStream m :: l₂) c) :
    m = (l₁.map Sending.newData).sum ∧ (∀ o n, Sending.stream o n true ∈ l₁ → o + n = m) ∧
      ∀ l ∈ l₂, l = .completed := by
  obtain ⟨b, h1, h2⟩ := h.split
  cases h2 with
  | @cons _ b' _ _ _ hs hp =>
    have hm : m = b.sent ∧ b' = resetSent m := by
      rcases hs with hs | hs | hs <;> cases hs <;> simp [sent]
    obtain ⟨hm, rfl⟩ := hm
    refine ⟨hm.trans (by rw [h1.sent_eq]; simp [sent]), fun o n hf => (h1.fin_end hf).trans hm.symm,
      hp.of_resetSent⟩

end FinalSize

end SendingState

/-! ## What a run sent -/

namespace Observation

/-- The label an entry of the log shows: a frame popped, new or retransmitted, a
STREAM_DATA_BLOCKED or RESET_STREAM queued, completion reported. -/
@[simp] def sending : Observation → Option Sending
  | popped (some f) _ retransmitted =>
    if retransmitted then some (.retransmission f.offset f.data.length)
    else some (.stream f.offset f.data.length f.fin)
  | upcall (.queueControlFrame (.streamDataBlocked _ _)) => some .dataBlocked
  | upcall (.queueControlFrame (.resetStream _ finalSize _)) => some (.resetStream finalSize)
  | upcall .onStreamCompleted => some .completed
  | upcall .onHasStreamData | popped none _ _ | writeReturned _ _ _ | closeReturned _ | acked _
  | lost _ => none

end Observation

/-- The labels of a run's log, in order. -/
def sendings (log : List Observation) : List Sending :=
  log.filterMap Observation.sending

section Simp

variable (o : Observation) (l l₁ l₂ : List Observation)

@[simp] theorem sendings_nil : sendings [] = [] := rfl
@[simp] theorem sendings_cons : sendings (o :: l) = o.sending.toList ++ sendings l := by
  cases h : o.sending <;>
    simp only [sendings, List.filterMap_cons, h, Option.toList, List.nil_append, List.singleton_append]
@[simp] theorem sendings_append : sendings (l₁ ++ l₂) = sendings l₁ ++ sendings l₂ :=
  List.filterMap_append ..

@[simp] theorem sendings_afterWritePass (s : Sys) (p : List UInt8) (first : Bool)
    (r : SendStream × WriteStep) : sendings (s.afterWritePass p first r).log = sendings s.log := by
  rcases r with ⟨st, _ | _ | _⟩ <;> cases first <;> simp [Sys.afterWritePass]

end Simp

/-- The state of the sending part: Reset Sent once canceled, Data Recvd once completion was
reported with no PR_ACK_NOTIFY entry queued, and `givenUp` with one; Data Sent once FIN was sent,
Send once anything was sent, and Ready before.  The write offset is the data sent or the final
size. -/
def Sys.sendingState (s : Sys) : SendingState :=
  if s.stream.canceledWrite then .resetSent s.stream.writeOffset
  else if s.stream.completed then
    if s.stream.prAckNotifyRetransmissionQueue = [] then .dataRecvd s.stream.writeOffset
    else .givenUp s.stream.writeOffset
  else if s.stream.finSent then .dataSent s.stream.writeOffset
  else if sendings s.log = [] then .ready
  else .send s.stream.writeOffset

/-! ## The invariant -/

/-- What keeps a run on the sending states. -/
structure SendingInvariant (s : Sys) : Prop where
  /-- the log's labels lead from Ready to the stream's state -/
  path : SendingState.Path SendingState.Moves .ready (sendings s.log) s.sendingState
  /-- before anything was sent, no data was framed and no frame is in flight or queued -/
  ready : sendings s.log = [] →
    s.stream.writeOffset = 0 ∧ s.inFlight = [] ∧ s.stream.retransmissionQueue = []
  /-- the frames in flight lie within the data sent -/
  inFlight : ∀ f ∈ s.inFlight, f.offset + f.data.length ≤ s.stream.writeOffset
  /-- and so do those queued for retransmission -/
  queue : ∀ f ∈ s.stream.retransmissionQueue, f.offset + f.data.length ≤ s.stream.writeOffset
  /-- completion without a cancellation comes after FIN, with nothing in flight or queued -/
  done : s.stream.completed = true → s.stream.canceledWrite = false →
    s.stream.finSent = true ∧ s.inFlight = [] ∧ s.stream.retransmissionQueue = []

namespace SendingInvariant

variable {pc : Protocol} {cfg : PRConfig} {s s' : Sys}

theorem init (streamID initialWindow : Nat) : SendingInvariant (Sys.init streamID initialWindow) :=
  ⟨by simpa [Sys.sendingState, Sys.init, newSendStream] using .nil _,
    fun _ => by simp [Sys.init, newSendStream], by simp [Sys.init],
    by simp [Sys.init, newSendStream], by simp [Sys.init, newSendStream]⟩

/-- A step that sends nothing, keeps the flags and the write offset, and adds no frame in
flight or to the queue keeps the invariant, and the sending state. -/
theorem quiet (h : SendingInvariant s) (hsend : sendings s'.log = sendings s.log)
    (hc : s'.stream.canceledWrite = s.stream.canceledWrite)
    (hd : s'.stream.completed = s.stream.completed) (hf : s'.stream.finSent = s.stream.finSent)
    (hW : s'.stream.writeOffset = s.stream.writeOffset)
    (hN : s'.stream.prAckNotifyRetransmissionQueue = s.stream.prAckNotifyRetransmissionQueue)
    (hI : s'.inFlight ⊆ s.inFlight)
    (hQ : s'.stream.retransmissionQueue ⊆ s.stream.retransmissionQueue) : SendingInvariant s' := by
  have habs : s'.sendingState = s.sendingState := by
    simp only [Sys.sendingState, hc, hd, hf, hW, hN, hsend]
  refine ⟨hsend ▸ habs ▸ h.path, fun h0 => ?_, fun f hf' => hW ▸ h.inFlight f (hI hf'),
    fun f hf' => hW ▸ h.queue f (hQ hf'), fun hd' hc' => ?_⟩
  · obtain ⟨h1, h2, h3⟩ := h.ready (hsend ▸ h0)
    exact ⟨hW ▸ h1, List.subset_nil.1 (h2 ▸ hI), List.subset_nil.1 (h3 ▸ hQ)⟩
  · obtain ⟨h1, h2, h3⟩ := h.done (hd ▸ hd') (hc ▸ hc')
    exact ⟨hf ▸ h1, List.subset_nil.1 (h2 ▸ hI), List.subset_nil.1 (h3 ▸ hQ)⟩

/-- A step that sends nothing, keeps the flags and the write offset, adds no frame in flight,
and queues only frames within the data sent, while a frame is in flight. -/
theorem busy (h : SendingInvariant s) (hbusy : s.inFlight ≠ [])
    (hsend : sendings s'.log = sendings s.log)
    (hc : s'.stream.canceledWrite = s.stream.canceledWrite)
    (hd : s'.stream.completed = s.stream.completed) (hf : s'.stream.finSent = s.stream.finSent)
    (hW : s'.stream.writeOffset = s.stream.writeOffset) (hI : s'.inFlight ⊆ s.inFlight)
    (hQ : ∀ g ∈ s'.stream.retransmissionQueue, g.offset + g.data.length ≤ s.stream.writeOffset) :
    SendingInvariant s' := by
  -- with a frame in flight the stream has not completed, unless it is canceled
  have habs : s'.sendingState = s.sendingState := by
    cases hcan : s.stream.canceledWrite
    · have hd0 : s.stream.completed = false := by
        cases hd0 : s.stream.completed
        · rfl
        · exact absurd (h.done hd0 hcan).2.1 hbusy
      simp only [Sys.sendingState, hc, hd, hf, hW, hsend, hcan, hd0, Bool.false_eq_true, if_false]
    · simp only [Sys.sendingState, hc, hcan, hW, if_true]
  exact ⟨hsend ▸ habs ▸ h.path, fun h0 => absurd (h.ready (hsend ▸ h0)).2.1 hbusy,
    fun f hf' => hW ▸ h.inFlight f (hI hf'), fun g hg => hW ▸ hQ g hg,
    fun hd' hc' => absurd (h.done (hd ▸ hd') (hc ▸ hc')).2.1 hbusy⟩

/-- Until it is canceled, completed or has sent FIN, the stream is Ready, with no data sent, or
in Send. -/
theorem active (h : SendingInvariant s) (hc : s.stream.canceledWrite = false)
    (hd : s.stream.completed = false) (hf : s.stream.finSent = false) :
    s.sendingState = .ready ∧ s.stream.writeOffset = 0 ∨
      s.sendingState = .send s.stream.writeOffset := by
  by_cases h0 : sendings s.log = []
  · exact .inl ⟨by simp [Sys.sendingState, hc, hd, hf, h0], (h.ready h0).1⟩
  · exact .inr (by simp [Sys.sendingState, hc, hd, hf, h0])

end SendingInvariant

namespace SendingState

variable {a : SendingState} {m : Nat}

/-- New data continues from Ready, with nothing sent, or from Send. -/
theorem moves_stream (ha : a = ready ∧ m = 0 ∨ a = send m) (n : Nat) (fin : Bool) :
    Moves a (.stream m n fin) (if fin then dataSent (m + n) else send (m + n)) := by
  rcases ha with ⟨rfl, rfl⟩ | rfl <;> cases fin
  · exact .inl (by simpa using Step.ready_stream n)
  · exact .inl (by simpa using Step.ready_fin n)
  · exact .inl (Step.send_stream m n)
  · exact .inl (Step.send_fin m n)

theorem moves_blocked (ha : a = ready ∧ m = 0 ∨ a = send m) : Moves a .dataBlocked (send m) := by
  rcases ha with ⟨rfl, rfl⟩ | rfl
  · exact .inl .ready_blocked
  · exact .inl (.send_blocked m)

theorem moves_retransmission (ha : a = send m ∨ a = dataSent m) {o n : Nat} (h : o + n ≤ m) :
    Moves a (.retransmission o n) a := by
  rcases ha with rfl | rfl
  · exact .inl (.send_retransmission m o n h)
  · exact .inl (.dataSent_retransmission m o n h)

end SendingState

namespace Sys

variable {s : Sys}

/-- Once something was sent, and until a cancellation or completion, the stream is in Send or,
after FIN, in Data Sent. -/
theorem sendingState_of_sent (hc : s.stream.canceledWrite = false)
    (hd : s.stream.completed = false) (hne : sendings s.log ≠ []) :
    s.sendingState =
      if s.stream.finSent then .dataSent s.stream.writeOffset else .send s.stream.writeOffset := by
  cases hf : s.stream.finSent <;> simp [sendingState, hc, hd, hf, hne]

/-- Data Recvd is read off a completion without a cancellation and with nothing given up. -/
theorem sendingState_eq_dataRecvd {m : Nat} (h : s.sendingState = .dataRecvd m) :
    s.stream.canceledWrite = false ∧ s.stream.completed = true ∧
      s.stream.prAckNotifyRetransmissionQueue = [] ∧ m = s.stream.writeOffset := by
  unfold sendingState at h
  split_ifs at h with hc hd hN
  cases h
  exact ⟨by simpa using hc, hd, hN, rfl⟩

end Sys

/-- A split of a queued frame that fits a packet keeps both parts within the frame's range. -/
theorem SendStream.Splits.ends_le {pc : Protocol} {f g : StreamFrame} {rest rq : List StreamFrame}
    {W : Nat} (h : Splits pc f rest g rq) (hsz : f.data.length < 2 ^ 14)
    (hf : f.offset + f.data.length ≤ W) (hr : ∀ x ∈ rest, x.offset + x.data.length ≤ W) :
    g.offset + g.data.length ≤ W ∧ ∀ x ∈ rq, x.offset + x.data.length ≤ W := by
  cases h with
  | whole => exact ⟨hf, hr⟩
  | split n hn hlt =>
    have := hlt hsz
    refine ⟨by simp; omega, fun x hx => ?_⟩
    rcases List.mem_cons.1 hx with rfl | hx
    · simp; omega
    · exact hr x hx

namespace SendingInvariant

variable {pc : Protocol} {cfg : PRConfig} {s s' : Sys}

/-- A step that sends `l` and moves the stream along it, with the frames in flight and
queued within the data sent, and completion only after FIN with nothing in flight or queued. -/
theorem sends (h : SendingInvariant s) {l : List Sending} (hne : l ≠ [])
    (hsend : sendings s'.log = sendings s.log ++ l)
    (hpath : SendingState.Path SendingState.Moves s.sendingState l s'.sendingState)
    (hI : ∀ f ∈ s'.inFlight, f.offset + f.data.length ≤ s'.stream.writeOffset)
    (hQ : ∀ f ∈ s'.stream.retransmissionQueue, f.offset + f.data.length ≤ s'.stream.writeOffset)
    (hdone : s'.stream.completed = true → s'.stream.canceledWrite = false →
      s'.stream.finSent = true ∧ s'.inFlight = [] ∧ s'.stream.retransmissionQueue = []) :
    SendingInvariant s' :=
  ⟨hsend ▸ h.path.append hpath, fun h0 => absurd (List.append_eq_nil.1 (hsend ▸ h0)).2 hne,
    hI, hQ, hdone⟩

/-- A step that sends the one label `l` from a stream that stays active: it moves the stream
to Send or Data Sent at its new write offset. -/
theorem emits (h : SendingInvariant s) {l : Sending}
    (hsend : sendings s'.log = sendings s.log ++ [l])
    (hc : s'.stream.canceledWrite = false) (hd : s'.stream.completed = false)
    (hmove : SendingState.Moves s.sendingState l (if s'.stream.finSent
      then .dataSent s'.stream.writeOffset else .send s'.stream.writeOffset))
    (hI : ∀ f ∈ s'.inFlight, f.offset + f.data.length ≤ s'.stream.writeOffset)
    (hQ : ∀ f ∈ s'.stream.retransmissionQueue, f.offset + f.data.length ≤ s'.stream.writeOffset) :
    SendingInvariant s' := by
  refine h.sends (List.cons_ne_nil _ []) hsend ?_ hI hQ (by simp [hd])
  rw [Sys.sendingState_of_sent hc hd (by simp [hsend])]
  exact .single hmove

theorem pop_step {mb w : Nat} (h : SendingInvariant s) (hsh : Shape pc s) (hfi : FinInvariant s)
    (hn : s.next pc cfg (.pop mb w) = some (ok s')) : SendingInvariant s' := by
  obtain ⟨-, r, hr, hs'⟩ := Sys.next_pop hn
  have hups := SendStream.popStreamFrame_upcalls pc cfg hr
  obtain ⟨r0, hspec, rfl⟩ := SendStream.popStreamFrame_spec pc cfg hr
  have hdone : s.stream.canceledWrite = false → s.stream.finSent = false →
      s.stream.completed = false := fun hc hf => by
    cases hd : s.stream.completed
    · rfl
    · simp [(h.done hd hc).1] at hf
  -- with data left to frame, FIN has not been sent
  have hnotfin : s.stream.dataForWriting ≠ [] ∨ s.stream.nextFrame ≠ none →
      s.stream.finSent = false := fun hdata => by
    cases hf : s.stream.finSent
    · rfl
    · obtain ⟨h1, h2⟩ := hfi.drained hf
      exact hdata.elim (absurd h2) (absurd h1)
  have hin : ∀ x ∈ s'.inFlight, x ∈ s.inFlight ∨ x ∈ r0.frame.map (SendStream.outFrame cfg) :=
    fun x hx => by
      rw [hs'] at hx
      exact (List.mem_append.1 hx).imp_right Option.mem_toList.1
  cases hspec with
  | none fc more ups hsent hwin hups' =>
    rcases hups' with rfl | ⟨o, rfl⟩
    · subst hs'
      exact h.quiet (by simp) rfl rfl rfl rfl rfl (by simp) (fun _ => id)
    · obtain ⟨hc, hdata⟩ := hups.resolve_left (by simp)
      have hf := hnotfin hdata
      have hd := hdone hc hf
      have hst : s'.stream = { s.stream with flowController := fc } := by simp [hs']
      refine h.emits (l := .dataBlocked) (by simp [hs']) (by simpa [hst] using hc) (by simpa [hst] using hd) ?_
        (fun x hx => ?_) (by simpa [hst] using h.queue)
      · simpa [hst, hf] using SendingState.moves_blocked (h.active hc hd hf)
      · simpa [hst] using h.inFlight x ((hin x hx).resolve_right (by simp))
  | retransmit f rest rq g hact hshut hq hsplit =>
    have hretr : s.stream.popsRetransmission = true := by
      simp [SendStream.popsRetransmission, hact, hshut, hq]
    have hst : s'.stream = { s.stream with
        retransmissionQueue := rq
        numOutstandingFrames := s.stream.numOutstandingFrames + 1 } := by simp [hs']
    obtain ⟨hg, hrq⟩ := hsplit.ends_le
      (lt_of_le_of_lt (hsh.queueSize f (by simp [hq])) pc.maxPacketBufferSize_lt)
      (h.queue f (by simp [hq])) (fun x hx => h.queue x (by simp [hq, hx]))
    have hne : sendings s.log ≠ [] := fun h0 => by simp [(h.ready h0).2.2] at hq
    have hd : s.stream.completed = false := by
      cases hd : s.stream.completed
      · rfl
      · simp [(h.done hd hact).2.2] at hq
    have habs := Sys.sendingState_of_sent hact hd hne
    refine h.emits (l := .retransmission g.offset g.data.length) (by simp [hs', hretr])
      (by simpa [hst] using hact) (by simpa [hst] using hd) ?_
      (fun x hx => ?_) (by simpa [hst] using hrq)
    · rw [hst, ← habs]
      refine SendingState.moves_retransmission ?_ hg
      cases s.stream.finSent <;> simp [habs]
    · rcases hin x hx with hx | hx
      · simpa [hst] using h.inFlight x hx
      · simp only [Option.map_some', Option.mem_def, Option.some.injEq] at hx
        simpa [hst, ← hx] using hg
  | fin hact hshut hq hdfw hnf hw hf =>
    have hretr : s.stream.popsRetransmission = false := by
      simp [SendStream.popsRetransmission, hq]
    have hst : s'.stream = { s.stream with
        finSent := true
        numOutstandingFrames := s.stream.numOutstandingFrames + 1 } := by simp [hs']
    have hd := hdone hact hf
    refine h.emits (l := .stream s.stream.writeOffset 0 true)
      (by simp [hs', hretr, SendStream.finFrame]) (by simpa [hst] using hact) (by simpa [hst] using hd) ?_ (fun x hx => ?_) (by simp [hst, hq])
    · simpa [hst] using SendingState.moves_stream (h.active hact hd hf) 0 true
    · rcases hin x hx with hx | hx
      · simpa [hst] using h.inFlight x hx
      · simp only [Option.map_some', Option.mem_def, Option.some.injEq] at hx
        simp [hst, ← hx, SendStream.finFrame]
  | new d dfw nf g more wc hact hshut hq htake hoff hdata hfin hmore hw =>
    have hretr : s.stream.popsRetransmission = false := by
      simp [SendStream.popsRetransmission, hq]
    have hf := hnotfin hmore
    have hd := hdone hact hf
    have hoff' : g.offset = s.stream.writeOffset := hoff.trans (SendStream.nextOffset_eq hsh.nextOffset)
    have hst : s'.stream = { s.stream with
        nextFrame := nf
        dataForWriting := dfw
        writeOffset := s.stream.writeOffset + d.length
        flowController := s.stream.flowController.addBytesSent d.length
        finSent := g.fin
        writeChan := wc
        numOutstandingFrames := s.stream.numOutstandingFrames + 1 } := by simp [hs', hf]
    refine h.emits (l := .stream s.stream.writeOffset d.length g.fin)
      (by simp [hs', hretr, hoff', hdata]) (by simpa [hst] using hact) (by simpa [hst] using hd) ?_ (fun x hx => ?_) (by simp [hst, hq])
    · simpa [hst] using SendingState.moves_stream (h.active hact hd hf) d.length g.fin
    · rcases hin x hx with hx | hx
      · have := h.inFlight x hx
        simp only [hst]; omega
      · simp only [Option.map_some', Option.mem_def, Option.some.injEq] at hx
        simp [hst, ← hx, hoff', hdata]

/-- A RESET_STREAM from any state before the cancellation carries the write offset. -/
theorem moves_reset (h : SendingInvariant s) (hc : s.stream.canceledWrite = false) :
    SendingState.Moves s.sendingState (.resetStream s.stream.writeOffset)
      (.resetSent s.stream.writeOffset) := by
  unfold Sys.sendingState
  rw [if_neg (by simp [hc])]
  split_ifs with hd hN hf h0
  · exact .inr (.inl (.mk _))
  · exact .inr (.inl (.givenUp _))
  · exact .inl (.dataSent_reset _)
  · rw [(h.ready h0).1]; exact .inl .ready_reset
  · exact .inl (.send_reset _)

theorem cancel_step {e : Event} {c : Nat} (he : e = .cancelWrite c ∨ e = .stopSending c)
    (h : SendingInvariant s) (hn : s.next pc cfg e = some (ok s')) : SendingInvariant s' := by
  rcases Sys.next_cancel he hn with ⟨-, rfl⟩ | ⟨hc, err, hs'⟩
  · exact h
  · refine h.sends (l := .resetStream s.stream.writeOffset ::
        if s.stream.completed then [] else [.completed]) (List.cons_ne_nil _ _)
      (by cases hd : s.stream.completed <;> simp [hs', hd]) ?_ (by simpa [hs'] using h.inFlight)
      (by simp [hs']) (by simp [hs'])
    rw [show s'.sendingState = .resetSent s.stream.writeOffset by simp [hs', Sys.sendingState]]
    refine .cons (h.moves_reset hc) ?_
    cases s.stream.completed
    · exact .single (.inl (.resetSent_completed _))
    · exact .nil _

theorem acked_step {i : Nat} (h : SendingInvariant s) (hacc : Accounting s)
    (hn : s.next pc cfg (.acked i) = some (ok s')) : SendingInvariant s' := by
  obtain ⟨f, st, ups, hget, hr, rfl⟩ := Sys.next_acked hn
  have hI : s.inFlight.eraseIdx i ⊆ s.inFlight := fun _ => List.mem_of_mem_eraseIdx
  rcases SendStream.onAcked_spec hr with ⟨hc, rfl, rfl⟩ | ⟨hc, hpos, b, hb, rfl⟩
  · exact h.quiet (by simp) rfl rfl rfl rfl rfl hI (fun _ => id)
  · unfold SendStream.isNewlyCompleted at hb
    dsimp only at hb
    split_ifs at hb with hcond
    · cases hb
      simp only [Bool.and_eq_true, Bool.or_eq_true, beq_iff_eq, List.isEmpty_iff,
        Bool.not_eq_true'] at hcond
      obtain ⟨⟨⟨hfin, hzero⟩, hq⟩, hd⟩ := hcond
      have hfin : s.stream.finSent = true := hfin.resolve_right (by simp [hc])
      have hne : sendings s.log ≠ [] := fun h0 => by
        simp [(h.ready h0).2.1] at hget
      have hlen := length_eraseIdx_of_get? hget
      have hout := hacc.outstanding
      rw [if_neg (by simp [hc])] at hout
      refine h.sends (l := [.completed]) (List.cons_ne_nil _ _) (by simp) ?_
        (fun x hx => h.inFlight x (hI hx)) (by simpa using h.queue) fun _ _ => ⟨hfin, ?_, hq⟩
      · rw [Sys.sendingState_of_sent hc (by simpa using hd) hne, if_pos hfin]
        -- Data Recvd when nothing was given up, `givenUp` otherwise
        by_cases hN : s.stream.prAckNotifyRetransmissionQueue = []
        · simpa [Sys.sendingState, hc, hN] using .single (.inl (.dataSent_completed _))
        · simpa [Sys.sendingState, hc, hN] using .single (.inr (.inr (.mk _)))
      · show s.inFlight.eraseIdx i = []
        apply List.eq_nil_of_length_eq_zero
        omega
    · cases hb
      exact h.quiet (by simp) rfl rfl rfl rfl rfl hI (fun _ => id)

theorem lost_step {i r : Nat} (h : SendingInvariant s)
    (hn : s.next pc cfg (.lost i r) = some (ok s')) : SendingInvariant s' := by
  obtain ⟨f, st, ups, hget, hr, rfl⟩ := Sys.next_lost hn
  have hf : f ∈ s.inFlight := List.get?_mem hget
  have hI : s.inFlight.eraseIdx i ⊆ s.inFlight := fun _ => List.mem_of_mem_eraseIdx
  rcases SendStream.onLost_spec hr with ⟨hc, rfl, rfl⟩ | ⟨hc, hpos, rfl, ⟨g, hg, rfl⟩ | ⟨n, -, rfl⟩⟩
  · exact h.quiet (by simp) rfl rfl rfl rfl rfl hI (fun _ => id)
  · refine h.busy (List.ne_nil_of_mem hf) (by simp) rfl rfl rfl rfl hI (fun x hx => ?_)
    rcases List.mem_append.1 hx with hx | hx
    · exact h.queue x hx
    · rw [List.mem_singleton.1 hx, hg.offset, hg.data]; exact h.inFlight f hf
  · exact h.busy (List.ne_nil_of_mem hf) (by simp) rfl rfl rfl rfl hI h.queue

theorem step {e : Event} (h : SendingInvariant s) (hsh : Shape pc s) (hfi : FinInvariant s)
    (hacc : Accounting s) (hn : s.next pc cfg e = some (ok s')) : SendingInvariant s' := by
  cases e with
  | write p =>
    obtain ⟨nf, dfw, hst, hin⟩ := Sys.next_write_stream hn
    obtain ⟨-, r, -, rfl⟩ := Sys.next_write hn
    exact h.quiet (by simp) (by rw [hst]) (by rw [hst]) (by rw [hst]) (by rw [hst]) (by rw [hst])
      (by rw [hin]; exact fun _ => id) (by rw [hst]; exact fun _ => id)
  | wake b =>
    obtain ⟨nf, dfw, wc, hst, hin⟩ := Sys.next_wake_stream hn
    obtain ⟨p, timer, st, r, -, -, -, rfl⟩ := Sys.next_wake hn
    exact h.quiet (by simp) (by rw [hst]) (by rw [hst]) (by rw [hst]) (by rw [hst]) (by rw [hst])
      (by rw [hin]; exact fun _ => id) (by rw [hst]; exact fun _ => id)
  | close =>
    rw [Sys.next_close hn]
    unfold SendStream.close
    split_ifs <;> exact h.quiet (by simp) rfl rfl rfl rfl rfl (fun _ => id) (fun _ => id)
  | cancelWrite c => exact cancel_step (.inl rfl) h hn
  | stopSending c => exact cancel_step (.inr rfl) h hn
  | updateSendWindow l =>
    rw [Sys.next_updateSendWindow hn]
    refine h.quiet ?_ rfl rfl rfl rfl rfl (fun _ => id) (fun _ => id)
    simp only [Sys.withUpcalls, SendStream.updateSendWindow]
    split <;> simp
  | pop mb w => exact h.pop_step hsh hfi hn
  | acked i => exact h.acked_step hacc hn
  | lost i r => exact h.lost_step hn
  | tick | closeForShutdown err | setWriteDeadline t =>
    simp only [Sys.next, Option.some.injEq, ok.injEq] at hn
    subst hn
    exact h.quiet rfl rfl rfl rfl rfl rfl (fun _ => id) (fun _ => id)

theorem reachable (hs : Reachable pc cfg s) : SendingInvariant s :=
  Reachable.induction init (fun _ _ _ hs h hn =>
    h.step (Shape.reachable hs) (FinInvariant.reachable hs) (Accounting.reachable hs) hn) hs

end SendingInvariant

/-! ## Properties -/

section Properties

variable {pc : Protocol} {cfg : PRConfig} {s : Sys}

/-- One byte written with FIN, acknowledged, then canceled: the RESET_STREAM comes after the
completion, from Data Recvd. -/
def lateReset : List Event := [.write [0], .close, .pop 1452 1452, .acked 0, .cancelWrite 0]

/-- A RESET_STREAM carries the final size: the data sent before it, which is also where any
FIN sent before it ended; after it the stream only reports completion. -/
theorem reset_stream_final_size (hs : Reachable pc cfg s) {l₁ l₂ : List Sending} {m : Nat}
    (h : sendings s.log = l₁ ++ .resetStream m :: l₂) :
    m = (l₁.map Sending.newData).sum ∧ (∀ o n, Sending.stream o n true ∈ l₁ → o + n = m) ∧
      ∀ l ∈ l₂, l = .completed :=
  SendingState.Path.resetStream (h ▸ (SendingInvariant.reachable hs).path)

theorem late_reset_final_size : ∃ s, Reachable .quicGo .shipped s ∧
    sendings s.log = [.stream 0 1 true, .completed] ++ .resetStream 1 :: [] ∧
    1 = ([Sending.stream 0 1 true, .completed].map Sending.newData).sum := by
  obtain ⟨s, hrun, hs⟩ : ∃ s, (Sys.init 0 1452).run .quicGo .shipped lateReset = some (ok s) ∧
      sendings s.log = [.stream 0 1 true, .completed] ++ .resetStream 1 :: [] :=
    ⟨_, rfl, by decide⟩
  have hr := (Reachable.init 0 1452).run hrun
  exact ⟨s, hr, hs, (reset_stream_final_size hr hs).1⟩

end Properties

end PrQuic.Stream
