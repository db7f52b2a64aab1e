import PrQuic.Stream.Pop
import PrQuic.Stream.Callbacks
import PrQuic.Stream.Write

/-!
# Runs of a send stream

The application (`Write`, `Close`, `CancelWrite`, `SetWriteDeadline`), the packet assembler
(`popStreamFrame`, `updateSendWindow`, `handleStopSendingFrame`, `closeForShutdown`) and the loss
detector (`OnAcked`, `OnLost`) meet under the stream's mutex, so a run is a sequence of critical
sections in any order.  `Write` has a program counter: `idle`, or waiting inside a call with the
mutex released; `writeOnce` serializes its calls, so one writer suffices.  `log` records what
the stream shows the outside world, and `inFlight` the frames handed out whose callback has not
run; the loss detector calls back each frame once.
-/

namespace PrQuic.Stream

open Wire GoResult

/-- The application's writer: outside `Write`, or inside `Write(p)` waiting on `writeChan` and,
when `timer` is not zero, on its deadline timer. -/
inductive Writer where
  | idle
  | waiting (p : List UInt8) (timer : Nat)
  deriving DecidableEq, Repr

/-- One critical section of one party, or the clock advancing.  `pop` carries the window
`SendWindowSize()` reports, `lost` the index of the frame in flight and the random draw. -/
inductive Event where
  | write (p : List UInt8)
  | wake (byTimer : Bool)
  | tick
  | close
  | cancelWrite (errorCode : Nat)
  | stopSending (errorCode : Nat)
  | closeForShutdown (err : Option StreamError)
  | setWriteDeadline (t : Nat)
  | updateSendWindow (limit : Nat)
  | pop (maxBytes sendWindow : Nat)
  | acked (i : Nat)
  | lost (i r : Nat)
  deriving DecidableEq, Repr

/-- What a run shows the outside world.  `retransmitted` marks a frame taken from the
retransmission queue. -/
inductive Observation where
  | upcall (u : Upcall)
  | popped (frame : Option OutFrame) (hasMoreData retransmitted : Bool)
  | writeReturned (p : List UInt8) (n : Nat) (err : Option StreamError)
  | closeReturned (err : Option StreamError)
  | acked (f : OutFrame)
  | lost (f : OutFrame)
  deriving DecidableEq, Repr

/-- A send stream with its writer, the clock, the frames in flight, and the run's log. -/
structure Sys where
  stream : SendStream
  writer : Writer
  now : Nat
  inFlight : List OutFrame
  log : List Observation
  deriving DecidableEq, Repr

def Sys.init (streamID initialWindow : Nat) : Sys :=
  ⟨newSendStream streamID initialWindow, .idle, 0, [], []⟩

namespace SendStream

variable (pc : Protocol)

/-- The callback `OnAcked` attached to `f`. -/
def onAcked : OutFrame → SendStream → GoResult (SendStream × List Upcall)
  | .plain f, s => frameAcked pc f s
  | .pr f, s => prStreamframeAcked pc f s

/-- The callback `OnLost` attached to `f`, with `r` the random draw a PR loss makes. -/
def onLost : OutFrame → Nat → SendStream → GoResult (SendStream × List Upcall)
  | .plain f, _, s => queueRetransmission f s
  | .pr f, r, s => prQueueRetransmission f r s

/-- The next frame `popStreamFrame` returns is taken from the retransmission queue. -/
def popsRetransmission (s : SendStream) : Bool :=
  !(s.canceledWrite || s.closeForShutdownErr.isSome) && !s.retransmissionQueue.isEmpty

end SendStream

namespace Sys

variable (pc : Protocol) (cfg : PRConfig)

/-- The run after a pass of `Write(p)`'s loop; after the pass at entry (`first`) the call
notifies the connection once, before it blocks or returns from a copy. -/
def afterWritePass (s : Sys) (p : List UInt8) (first : Bool) :
    SendStream × WriteStep → Sys
  | (st, .copied) =>
    { s with
      stream := st
      writer := .idle
      log := s.log ++ ((if first then [.upcall .onHasStreamData] else []) ++
        [.writeReturned p p.length none]) }
  | (st, .returned n e) =>
    { s with stream := st, writer := .idle, log := s.log ++ [.writeReturned p n e] }
  | (st, .wait timer) =>
    { s with
      stream := st
      writer := .waiting p timer
      log := s.log ++ (if first then [.upcall .onHasStreamData] else []) }

/-- The run after a critical section that left the stream `st` and called `ups`. -/
def withUpcalls (s : Sys) (st : SendStream) (ups : List Upcall) : Sys :=
  { s with stream := st, log := s.log ++ ups.map .upcall }

/-- One step of the run: `none` when the event cannot happen, a panic when the stream's code
panics. -/
def next (s : Sys) : Event → Option (GoResult Sys)
  | .write p =>
    match s.writer with
    | .idle => some ((s.afterWritePass p true) <$> s.stream.writeEntry pc s.now p)
    | .waiting _ _ => none
  | .wake byTimer =>
    match s.writer with
    | .idle => none
    | .waiting p timer =>
      if byTimer then
        if timer ≠ 0 ∧ s.now ≥ timer then
          some ((s.afterWritePass p false) <$> s.stream.writeLoopIteration pc s.now p)
        else none
      else if s.stream.writeChan then
        some ((s.afterWritePass p false) <$>
          { s.stream with writeChan := false }.writeLoopIteration pc s.now p)
      else none
  | .tick => some (ok { s with now := s.now + 1 })
  | .close =>
    let (st, e, ups) := s.stream.close
    some (ok { s.withUpcalls st ups with log := s.log ++ ups.map .upcall ++ [.closeReturned e] })
  | .cancelWrite errorCode =>
    let (st, ups) := s.stream.cancelWrite errorCode
    some (ok (s.withUpcalls st ups))
  | .stopSending errorCode =>
    let (st, ups) := s.stream.handleStopSendingFrame errorCode
    some (ok (s.withUpcalls st ups))
  | .closeForShutdown e => some (ok { s with stream := s.stream.closeForShutdown e })
  | .setWriteDeadline t => some (ok { s with stream := s.stream.setWriteDeadline t })
  | .updateSendWindow limit =>
    let (st, ups) := s.stream.updateSendWindow limit
    some (ok (s.withUpcalls st ups))
  | .pop maxBytes sendWindow =>
    if sendWindow ≤ s.stream.flowController.sendWindow - s.stream.flowController.bytesSent then
      some ((fun r => { s with
          stream := r.stream
          inFlight := s.inFlight ++ r.frame.toList
          log := s.log ++ (r.upcalls.map .upcall ++
            [.popped r.frame r.hasMoreData s.stream.popsRetransmission]) }) <$>
        s.stream.popStreamFrame pc cfg maxBytes sendWindow)
    else none
  | .acked i =>
    match s.inFlight.get? i with
    | none => none
    | some f =>
      some ((fun (st, ups) => { s with
          stream := st
          inFlight := s.inFlight.eraseIdx i
          log := s.log ++ (.acked f :: ups.map .upcall) }) <$>
        s.stream.onAcked pc f)
  | .lost i r =>
    match s.inFlight.get? i with
    | none => none
    | some f =>
      if r < 10000 then
        some ((fun (st, ups) => { s with
            stream := st
            inFlight := s.inFlight.eraseIdx i
            log := s.log ++ (.lost f :: ups.map .upcall) }) <$>
          s.stream.onLost f r)
      else none

/-- The events of a list, one after another. -/
def run (s : Sys) : List Event → Option (GoResult Sys)
  | [] => some (ok s)
  | e :: es =>
    match s.next pc cfg e with
    | some (ok s') => s'.run es
    | r => r

end Sys

/-- The states a run of a stream reaches from a fresh stream. -/
inductive Reachable (pc : Protocol) (cfg : PRConfig) : Sys → Prop where
  | init (streamID initialWindow : Nat) : Reachable pc cfg (Sys.init streamID initialWindow)
  | step {s s' : Sys} (e : Event) :
      Reachable pc cfg s → s.next pc cfg e = some (ok s') → Reachable pc cfg s'

/-- `protocol.MinStreamFrameSize`, the smallest budget for which the packet assembler asks a
stream for a frame (quic-go's `protocol` package, which is not part of the sources). -/
def minStreamFrameSize : Nat := 128

/-- The packet assembler pops with a budget in its range, from `MinStreamFrameSize` to a packet
buffer; every other event is unconstrained. -/
def Event.inFramerRange (pc : Protocol) : Event → Bool
  | .pop maxBytes _ => decide (minStreamFrameSize ≤ maxBytes ∧ maxBytes ≤ pc.maxPacketBufferSize)
  | _ => true

/-- The states reached by the runs in which every pop asks for a budget in the packet
assembler's range. -/
inductive FramerReachable (pc : Protocol) (cfg : PRConfig) : Sys → Prop where
  | init (streamID initialWindow : Nat) : FramerReachable pc cfg (Sys.init streamID initialWindow)
  | step {s s' : Sys} (e : Event) : FramerReachable pc cfg s → e.inFramerRange pc = true →
      s.next pc cfg e = some (ok s') → FramerReachable pc cfg s'

theorem Reachable.run {pc : Protocol} {cfg : PRConfig} {s s' : Sys} {es : List Event}
    (hs : Reachable pc cfg s) (h : s.run pc cfg es = some (ok s')) : Reachable pc cfg s' := by
  induction es generalizing s with
  | nil => cases h; exact hs
  | cons e es ih =>
    rcases hn : s.next pc cfg e with _ | (s1 | _ | _) <;> simp [Sys.run, hn] at h
    exact ih (hs.step e hn) h

theorem FramerReachable.reachable {pc : Protocol} {cfg : PRConfig} {s : Sys}
    (hs : FramerReachable pc cfg s) : Reachable pc cfg s := by
  induction hs with
  | init streamID initialWindow => exact .init streamID initialWindow
  | step e _ _ hn ih => exact ih.step e hn

theorem FramerReachable.run {pc : Protocol} {cfg : PRConfig} {s s' : Sys} {es : List Event}
    (hs : FramerReachable pc cfg s) (he : es.all (Event.inFramerRange pc) = true)
    (h : s.run pc cfg es = some (ok s')) : FramerReachable pc cfg s' := by
  induction es generalizing s with
  | nil => cases h; exact hs
  | cons e es ih =>
    simp only [List.all_cons, Bool.and_eq_true] at he
    rcases hn : s.next pc cfg e with _ | (s1 | _ | _) <;> simp [Sys.run, hn] at h
    exact ih (hs.step e he.1 hn) he.2 h

end PrQuic.Stream
