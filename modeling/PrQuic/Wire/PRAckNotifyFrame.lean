import PrQuic.Wire.Basic

/-!
# PR_ACK_NOTIFY frames

When the PR policy skips the retransmission of a lost PR_STREAM frame, the sender queues a
`PRAckNotifyFrame` in its place: the frame's stream, offset, FIN and policy, and the number of
bytes the receiver is to treat as delivered (`part_005` lines 137-277, the variant the send
stream builds).  `Append` writes the type byte `0x58` with the FIN, LEN and OFF bits, the stream
ID, `PTDA`, `PtdaC`, the offset when not zero, and `PRDataLen`; the parser reads them back
whatever the type byte's high bits (`parsePRAckNotifyFrame_append`), `Length` counts exactly
the bytes written (`PRAckNotifyFrame.length_eq_append_length`), and the parser never panics.
-/

namespace PrQuic.Wire

open GoResult

/-- `wire.PRAckNotifyFrame`, the variant of `part_005` lines 137-152. -/
structure PRAckNotifyFrame where
  streamID : Nat := 0
  offset : Nat := 0
  prDataLen : Nat := 0
  fin : Bool := false
  dataLenPresent : Bool := false
  ptda : UInt8 := 0
  p : Bool := false
  t : Bool := false
  d : Bool := false
  a : Bool := false
  ptdaC : Nat := 0
  deriving DecidableEq, Repr

/-- `parsePRAckNotifyFrame`.  The type byte's flags are read and the rest of it is not
checked; the length field is read whether or not the LEN bit is set. -/
def parsePRAckNotifyFrame (r : List UInt8) : GoResult (PRAckNotifyFrame × List UInt8) := do
  let (typeByte, r) ← readByte r
  let hasOffset : Bool := typeByte &&& 0b100 > 0
  let fin : Bool := typeByte &&& 0b1 > 0
  let hasDataLen : Bool := typeByte &&& 0b10 > 0
  let (streamID, r) ← readVarint r
  let (ptda, r) ← readByte r
  let (ptdaC, r) ← readVarint r
  let (offset, r) ← if hasOffset then readVarint r else pure (0, r)
  let (dataLen, r) ← readVarint r
  let frame : PRAckNotifyFrame :=
    { streamID, offset, fin, dataLenPresent := hasDataLen,
      p := policyFlag ptda 0x80, t := policyFlag ptda 0x40, d := policyFlag ptda 0x20,
      a := policyFlag ptda 0x10, ptda, ptdaC, prDataLen := dataLen }
  pure (frame, r)

/-- The type byte `Append` writes: `0x58` with the FIN, LEN and OFF bits flipped on. -/
def PRAckNotifyFrame.typeByte (f : PRAckNotifyFrame) : UInt8 :=
  let typeByte : UInt8 := 0x58
  let typeByte := if f.fin then typeByte ^^^ 0b1 else typeByte
  let typeByte := if f.dataLenPresent then typeByte ^^^ 0b10 else typeByte
  if f.offset ≠ 0 then typeByte ^^^ 0b100 else typeByte

/-- `(*PRAckNotifyFrame).Append`, whose `error` result is always nil. -/
def PRAckNotifyFrame.append (f : PRAckNotifyFrame) (b : List UInt8) : List UInt8 :=
  let hasOffset : Bool := f.offset ≠ 0
  let b := b ++ [f.typeByte]
  let b := appendVarint b f.streamID
  let b := b ++ [f.ptda]
  let b := appendVarint b f.ptdaC
  let b := if hasOffset then appendVarint b f.offset else b
  appendVarint b f.prDataLen

/-- `(*PRAckNotifyFrame).DataLen`: the length of the data the frame stands for. -/
def PRAckNotifyFrame.dataLen (f : PRAckNotifyFrame) : Nat :=
  f.prDataLen

/-- `(*PRAckNotifyFrame).Length`: the length field is counted whether or not it is
present. -/
def PRAckNotifyFrame.length (f : PRAckNotifyFrame) : Nat :=
  let length := 1 + varintLen f.streamID
  let length := if f.offset ≠ 0 then length + varintLen f.offset else length
  let length := length + varintLen f.dataLen
  -- the PTDA byte, then the varint `PtdaC`
  let length := length + 1
  length + varintLen f.ptdaC

/-! ## The codec -/

namespace PRAckNotifyFrame

/-- The parser reads back the three flag bits of the type byte. -/
theorem typeByte_bits (f : PRAckNotifyFrame) :
    decide (f.typeByte &&& 0b100 > 0) = decide (f.offset ≠ 0) ∧
      decide (f.typeByte &&& 0b1 > 0) = f.fin ∧
      decide (f.typeByte &&& 0b10 > 0) = f.dataLenPresent := by
  unfold typeByte
  by_cases h : f.offset = 0 <;>
    simp only [h, ne_eq, not_true, not_false_eq_true, if_true, if_false, decide_True,
      decide_False] <;> cases f.fin <;> cases f.dataLenPresent <;> decide

/-- The bytes `Append` writes, field by field. -/
theorem append_eq (f : PRAckNotifyFrame) :
    f.append [] = f.typeByte :: (varintBytes f.streamID ++ f.ptda :: (varintBytes f.ptdaC ++
      (if f.offset ≠ 0 then varintBytes f.offset else []) ++ varintBytes f.prDataLen)) := by
  by_cases h : f.offset = 0 <;> simp [append, appendVarint, h]

/-- `Length` counts exactly the bytes `Append` writes, for every frame. -/
theorem length_eq_append_length (f : PRAckNotifyFrame) : f.length = (f.append []).length := by
  rw [append_eq]
  by_cases h : f.offset = 0 <;> simp [length, dataLen, h] <;> omega

end PRAckNotifyFrame

/-- The PR_ACK_NOTIFY round trip: every frame whose integers are encodable and whose flags are
the ones its `PTDA` byte selects is parsed back whole from what `Append` writes, before any
trailing bytes, which are left unread. -/
theorem parsePRAckNotifyFrame_append (f : PRAckNotifyFrame) (rest : List UInt8)
    (hid : f.streamID < 2 ^ 62) (hoff : f.offset < 2 ^ 62) (hc : f.ptdaC < 2 ^ 62)
    (hlen : f.prDataLen < 2 ^ 62) (hflags : PolicyFlagsMatch f.ptda f.p f.t f.d f.a) :
    parsePRAckNotifyFrame (f.append [] ++ rest) = ok (f, rest) := by
  obtain ⟨hOff, hFin, hLen⟩ := f.typeByte_bits
  obtain ⟨hp, ht, hd, ha⟩ := hflags
  rw [PRAckNotifyFrame.append_eq]
  simp only [parsePRAckNotifyFrame, List.cons_append, List.append_assoc, readByte_cons, ok_bind,
    readVarint_varintBytes _ _ hid, readVarint_varintBytes _ _ hc, hOff, hFin, hLen]
  by_cases h : f.offset = 0
  · simp [h, readVarint_varintBytes _ _ hlen, ← hp, ← ht, ← hd, ← ha]
    rw [← h]
  · simp [h, readVarint_varintBytes _ _ hoff, readVarint_varintBytes _ _ hlen, ← hp, ← ht,
      ← hd, ← ha]

/-- A FIN notification for 1200 bytes at offset 100 under the probability policy with
`PtdaC = 128`, followed by one more byte. -/
theorem parsePRAckNotifyFrame_append_fin :
    let f : PRAckNotifyFrame :=
      { streamID := 4, offset := 100, prDataLen := 1200, fin := true, dataLenPresent := true,
        ptda := 0x80, p := true, ptdaC := 128 }
    parsePRAckNotifyFrame (f.append [] ++ [7]) = ok (f, [7]) :=
  parsePRAckNotifyFrame_append _ _ (by decide) (by decide) (by decide) (by decide) (by decide)

/-- The parser never panics: it returns a frame or an error on every input. -/
theorem parsePRAckNotifyFrame_not_isPanic (r : List UInt8) :
    ¬(parsePRAckNotifyFrame r).IsPanic := by
  unfold parsePRAckNotifyFrame
  refine not_isPanic_bind (readByte_not_isPanic _) fun (_, r) => ?_
  refine not_isPanic_bind (readVarint_not_isPanic _) fun (_, r) => ?_
  refine not_isPanic_bind (readByte_not_isPanic _) fun (_, r) => ?_
  refine not_isPanic_bind (readVarint_not_isPanic _) fun (_, r) => ?_
  dsimp only
  -- the offset, read or `0`, then the length
  split <;> refine not_isPanic_bind ?_ fun (_, r) =>
    not_isPanic_bind (readVarint_not_isPanic _) fun _ => not_isPanic_ok _
  exacts [readVarint_not_isPanic _, not_isPanic_ok _]

end PrQuic.Wire
