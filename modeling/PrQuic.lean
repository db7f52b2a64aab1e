import PrQuic.Wire.Basic
import PrQuic.Wire.StreamFrame
import PrQuic.Wire.PRStreamFrame
import PrQuic.Wire.PRAckNotifyFrame
import PrQuic.Wire.PRDatagramFrame
import PrQuic.Wire.PRStreamFramePool
import PrQuic.Stream.State
import PrQuic.Stream.Pop
import PrQuic.Stream.Callbacks
import PrQuic.Stream.Write
import PrQuic.Stream.Run
import PrQuic.Stream.Steps
import PrQuic.Stream.Log
import PrQuic.Stream.Accounting
import PrQuic.Stream.FlowControl
import PrQuic.Stream.Shape
import PrQuic.Stream.Content
import PrQuic.Stream.Fin
import PrQuic.Stream.Partition
import PrQuic.Stream.Notify
import PrQuic.Stream.Cancel
import PrQuic.Stream.Budget
import PrQuic.Stream.Wakeup
import PrQuic.Stream.Capacity
import PrQuic.Stream.SendingStates
import PrQuic.Stream.NoPanic
import PrQuic.Stream.BlockedWrite
import PrQuic.Wire.FrameParser
import PrQuic.Stream.Progress
import PrQuic.Stream.Delivery
import PrQuic.Stream.WriteReturns
