import PrQuic.Wire.StreamFrame
import PrQuic.Wire.PRStreamFrame
import PrQuic.Wire.PRAckNotifyFrame

/-!
# The send stream's state

`sendStream` (`part_000`) is the sending half of a QUIC stream: the record its mutex protects,
the flow controller it consults, and what it reports upwards.  Go's `dataForWriting` tells a nil
slice from an empty one, but the stream never holds an empty non-nil slice (`Write` installs
only non-empty data and `getDataForWriting` keeps only a non-empty remainder), so a list whose
empty value is nil is exact.  Times are natural numbers, with `0` for the zero `time.Time`.
-/

namespace PrQuic.Stream

open Wire

/-- The process-wide partial-reliability settings of `pr_policy.go`: `PR_ENABLED`, `PTDA` and
`PtadC`. -/
structure PRConfig where
  enabled : Bool
  ptda : UInt8
  ptadC : Nat
  deriving DecidableEq, Repr

/-- The settings `pr_policy.go` ships: PR enabled, the probability policy, `PtadC = 0`. -/
def PRConfig.shipped : PRConfig := ⟨true, 0x80, 0⟩

/-- The probability policy with `PtadC = 0x80`, the one value for which the `switch` of
`prQueueRetransmission` draws: a loss is then skipped when the draw is below 128. -/
def PRConfig.probability : PRConfig := ⟨true, 0x80, 0x80⟩

/-- Modelled from the spec: the stream flow controller of §4.2.  `sendWindow` is the limit the
peer has granted, `bytesSent` what `AddBytesSent` has accounted, and `lastBlockedAt` the limit
at which a STREAM_DATA_BLOCKED was last reported.  `SendWindowSize()` is the environment's
choice of any value up to `sendWindow - bytesSent` (the connection window may be smaller). -/
structure FlowController where
  bytesSent : Nat
  sendWindow : Nat
  lastBlockedAt : Option Nat
  deriving DecidableEq, Repr

namespace FlowController

/-- Modelled from the spec: `AddBytesSent`. -/
def addBytesSent (fc : FlowController) (n : Nat) : FlowController :=
  { fc with bytesSent := fc.bytesSent + n }

/-- Modelled from the spec: `UpdateSendWindow`, which never lowers the limit. -/
def updateSendWindow (fc : FlowController) (limit : Nat) : FlowController :=
  if limit > fc.sendWindow then { fc with sendWindow := limit } else fc

/-- Modelled from the spec: `IsNewlyBlocked`, true when the window is used up at a limit for
which no STREAM_DATA_BLOCKED has been reported yet; it also returns that limit. -/
def isNewlyBlocked (fc : FlowController) : Bool × Nat × FlowController :=
  if fc.bytesSent < fc.sendWindow ∨ fc.lastBlockedAt = some fc.sendWindow then (false, 0, fc)
  else (true, fc.sendWindow, { fc with lastBlockedAt := some fc.sendWindow })

@[simp] theorem addBytesSent_bytesSent (fc : FlowController) (n : Nat) :
    (fc.addBytesSent n).bytesSent = fc.bytesSent + n := rfl

@[simp] theorem addBytesSent_sendWindow (fc : FlowController) (n : Nat) :
    (fc.addBytesSent n).sendWindow = fc.sendWindow := rfl

@[simp] theorem addBytesSent_zero (fc : FlowController) : fc.addBytesSent 0 = fc := rfl

theorem isNewlyBlocked_bytesSent (fc : FlowController) :
    fc.isNewlyBlocked.2.2.bytesSent = fc.bytesSent ∧
      fc.isNewlyBlocked.2.2.sendWindow = fc.sendWindow := by
  unfold isNewlyBlocked; split_ifs <;> simp

theorem updateSendWindow_bytesSent (fc : FlowController) (limit : Nat) :
    (fc.updateSendWindow limit).bytesSent = fc.bytesSent ∧
      fc.sendWindow ≤ (fc.updateSendWindow limit).sendWindow := by
  unfold updateSendWindow; split_ifs <;> simp; omega

end FlowController

/-- The `error` values the stream returns: the texts of `fmt.Errorf` calls, the
`*StreamError` of a STOP_SENDING, `errDeadline`, and the error `closeForShutdown` was given. -/
inductive StreamError where
  | writeOnClosedStream (streamID : Nat)
  | writeCanceled (streamID errorCode : Nat)
  | stopSending (streamID errorCode : Nat)
  | deadline
  | closeCanceled (streamID : Nat)
  | shutdown (code : Nat)
  deriving DecidableEq, Repr

/-- The control frames the stream queues on the connection. -/
inductive ControlFrame where
  | streamDataBlocked (streamID maximumStreamData : Nat)
  | resetStream (streamID finalSize errorCode : Nat)
  deriving DecidableEq, Repr

/-- The calls the stream makes on its `streamSender`. -/
inductive Upcall where
  | onHasStreamData
  | queueControlFrame (f : ControlFrame)
  | onStreamCompleted
  deriving DecidableEq, Repr

/-- A frame handed to the packet assembler, with the callbacks attached to it: a STREAM frame
(`queueRetransmission`, `frameAcked`) or, with PR enabled, a PR_STREAM frame
(`prQueueRetransmission`, `prStreamframeAcked`). -/
inductive OutFrame where
  | plain (f : StreamFrame)
  | pr (f : PRStreamFrame)
  deriving DecidableEq, Repr

namespace OutFrame

def offset : OutFrame → Nat
  | plain f => f.offset
  | pr f => f.offset

def data : OutFrame → List UInt8
  | plain f => f.data
  | pr f => f.data

def fin : OutFrame → Bool
  | plain f => f.fin
  | pr f => f.fin

/-- `Length()` of the frame handed out. -/
def length : OutFrame → Nat
  | plain f => f.length
  | pr f => f.length

@[simp] theorem offset_plain (f : StreamFrame) : (plain f).offset = f.offset := rfl
@[simp] theorem offset_pr (f : PRStreamFrame) : (pr f).offset = f.offset := rfl
@[simp] theorem data_plain (f : StreamFrame) : (plain f).data = f.data := rfl
@[simp] theorem data_pr (f : PRStreamFrame) : (pr f).data = f.data := rfl
@[simp] theorem fin_plain (f : StreamFrame) : (plain f).fin = f.fin := rfl
@[simp] theorem fin_pr (f : PRStreamFrame) : (pr f).fin = f.fin := rfl
@[simp] theorem length_plain (f : StreamFrame) : (plain f).length = f.length := rfl
@[simp] theorem length_pr (f : PRStreamFrame) : (pr f).length = f.length := rfl

end OutFrame

/-- The fields of `sendStream` that its methods read or write.  `writeChan` holds the token of
the capacity-one channel, and `deadline` is `0` for no deadline. -/
structure SendStream where
  numOutstandingFrames : Int
  retransmissionQueue : List StreamFrame
  prAckNotifyRetransmissionQueue : List PRAckNotifyFrame
  streamID : Nat
  writeOffset : Nat
  cancelWriteErr : Option StreamError
  closeForShutdownErr : Option StreamError
  closedForShutdown : Bool
  finishedWriting : Bool
  canceledWrite : Bool
  finSent : Bool
  completed : Bool
  dataForWriting : List UInt8
  nextFrame : Option StreamFrame
  writeChan : Bool
  deadline : Nat
  flowController : FlowController
  deriving DecidableEq, Repr

/-- `newSendStream`, with a flow controller that starts with the window `initialWindow`. -/
def newSendStream (streamID initialWindow : Nat) : SendStream where
  numOutstandingFrames := 0
  retransmissionQueue := []
  prAckNotifyRetransmissionQueue := []
  streamID := streamID
  writeOffset := 0
  cancelWriteErr := none
  closeForShutdownErr := none
  closedForShutdown := false
  finishedWriting := false
  canceledWrite := false
  finSent := false
  completed := false
  dataForWriting := []
  nextFrame := none
  writeChan := false
  deadline := 0
  flowController := ⟨0, initialWindow, none⟩

namespace SendStream

/-- `signalWrite`: a non-blocking send on `writeChan`. -/
def signalWrite (s : SendStream) : SendStream :=
  { s with writeChan := true }

/-- The data of `nextFrame`, or nothing when it is nil. -/
def nextFrameData (s : SendStream) : List UInt8 :=
  match s.nextFrame with
  | some f => f.data
  | none => []

theorem nextFrameData_eq (s : SendStream) :
    s.nextFrameData = (s.nextFrame.map StreamFrame.data).getD [] := by
  unfold nextFrameData; split <;> simp_all

/-- Where the next new frame starts: at the buffered frame, or at the write offset. -/
def nextOffset (s : SendStream) : Nat :=
  match s.nextFrame with
  | some f => f.offset
  | none => s.writeOffset

/-- `hasData`. -/
def hasData (s : SendStream) : Bool :=
  !s.dataForWriting.isEmpty

variable (pc : Protocol)

/-- `canBufferStreamFrame`: the buffered frame can take all of `dataForWriting`. -/
def canBufferStreamFrame (s : SendStream) : Bool :=
  s.nextFrameData.length + s.dataForWriting.length ≤ pc.maxPacketBufferSize

@[simp] theorem signalWrite_eq (s : SendStream) : s.signalWrite = { s with writeChan := true } :=
  rfl

end SendStream

/-- The message of a slice expression beyond the capacity of its slice. -/
def sliceBoundsOutOfRange : String := "slice bounds out of range"

end PrQuic.Stream
