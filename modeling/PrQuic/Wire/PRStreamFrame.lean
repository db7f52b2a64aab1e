import PrQuic.Wire.Basic

/-!
# PR_STREAM frames

A `PRStreamFrame` (`internal/wire/pr_stream_frame.go`) is a STREAM frame with the PR policy: the
`PTDA` byte, whose high nibble selects the policy (`0x80` probability, `0x40` times, `0x20`
deadline, `0x10` asset priority), its flags `P`, `T`, `D`, `A`, and the parameter `ptdaC`.  The
codec has no round trip: `append` writes the STREAM type byte `0x08..0x0f` and `ptdaC` as one
byte, where the parser wants `0x48..0x4f` and a varint, and the parser assigns `PTDA` through a
frame pointer it never allocated, so it panics on every frame `append` writes
(`parsePRStreamFrame_append_panics`).
-/

namespace PrQuic.Wire

open GoResult

/-- `wire.PRStreamFrame`.  `cap` is the capacity of the `Data` slice. -/
structure PRStreamFrame where
  streamID : Nat := 0
  offset : Nat := 0
  data : List UInt8 := []
  fin : Bool := false
  dataLenPresent : Bool := false
  ptda : UInt8 := 0
  p : Bool := false
  t : Bool := false
  d : Bool := false
  a : Bool := false
  ptdaC : Nat := 0
  fromPool : Bool := false
  cap : Nat := 0
  deriving DecidableEq, Repr

variable (pc : Protocol)

/-- `GetPRStreamFrame`: a pooled frame whose buffer has capacity `MaxPacketBufferSize`.  A
recycled frame keeps stale fields; the callers overwrite the ones they read. -/
def getPRStreamFrame : PRStreamFrame :=
  { data := [], cap := pc.maxPacketBufferSize, fromPool := true }

/-- `putPRStreamFrame`, reached through `PutBack`. -/
def putPRStreamFrame (f : PRStreamFrame) : GoResult Unit :=
  if !f.fromPool then ok ()
  else if f.cap ≠ pc.maxPacketBufferSize then
    .panic "wire.PutStreamFrame called with packet of wrong size!"
  else ok ()

/-- The `switch f.PTDA&0xf0` of the parsers: the flag of the policy the high nibble names. -/
def PRStreamFrame.setPolicyFlag (f : PRStreamFrame) : PRStreamFrame :=
  let nibble := f.ptda &&& 0xf0
  if nibble = 0x10 then { f with a := true }
  else if nibble = 0x20 then { f with d := true }
  else if nibble = 0x40 then { f with t := true }
  else if nibble = 0x80 then { f with p := true }
  else f

/-- `parsePRStreamFrame`.  `frame` is a nil `*PRStreamFrame` when `frame.PTDA` is assigned:
the assignment dereferences it, and the code after it never runs. -/
def parsePRStreamFrame (r : List UInt8) : GoResult (PRStreamFrame × List UInt8) := do
  let (typeByte, r) ← readByte r
  let hasOffset : Bool := typeByte &&& 0b100 > 0
  let fin : Bool := typeByte &&& 0b1 > 0
  let hasDataLen : Bool := typeByte &&& 0b10 > 0
  let (streamID, r) ← readVarint r
  let (offset, r) ← if hasOffset then readVarint r else pure (0, r)
  -- without a length field the rest of the packet is data
  let (dataLen, r) ← if hasDataLen then readVarint r else pure (r.length, r)
  let frame : Option PRStreamFrame := none
  let ptdaRead := readByte r
  let frame ← deref frame
  let (ptda, r) ← ptdaRead
  let frame := PRStreamFrame.setPolicyFlag { frame with ptda }
  let (ptdaC, r) ← readVarint r
  let _frame := { frame with ptdaC }
  let frame ← if dataLen < pc.minStreamFrameBufferSize then
      pure ({ cap := dataLen } : PRStreamFrame)
    else
      let frame := getPRStreamFrame pc
      if dataLen > frame.cap then err .eof else pure frame
  let frame := { frame with streamID, offset, fin, dataLenPresent := hasDataLen }
  let (data, r) ← if dataLen ≠ 0 then readFull dataLen r else pure ([], r)
  let frame := { frame with data }
  if frame.offset + frame.data.length > pc.maxByteCount then
    err (.msg "PRstream data overflows maximum offset")
  else pure (frame, r)

/-- The type byte `Append` writes: `0x8` with the FIN, LEN and OFF bits flipped on. -/
def appendTypeByte (fin dataLenPresent hasOffset : Bool) : UInt8 :=
  let typeByte : UInt8 := 0x8
  let typeByte := if fin then typeByte ^^^ 0b1 else typeByte
  let typeByte := if dataLenPresent then typeByte ^^^ 0b10 else typeByte
  if hasOffset then typeByte ^^^ 0b100 else typeByte

/-- `(*PRStreamFrame).Append`. -/
def PRStreamFrame.append (f : PRStreamFrame) (b : List UInt8) : GoResult (List UInt8) :=
  if f.data = [] ∧ !f.fin then
    err (.msg "StreamFrame: attempting to write empty frame without FIN")
  else
    let hasOffset : Bool := f.offset ≠ 0
    let b := b ++ [appendTypeByte f.fin f.dataLenPresent hasOffset]
    let b := appendVarint b f.streamID
    let b := if hasOffset then appendVarint b f.offset else b
    let b := if f.dataLenPresent then appendVarint b f.data.length else b
    -- the PTDA byte, then `ptdaC` truncated to one byte
    let b := b ++ [f.ptda]
    let b := b ++ [UInt8.ofNat f.ptdaC]
    ok (b ++ f.data)

/-- `(*PRStreamFrame).Length`. -/
def PRStreamFrame.length (f : PRStreamFrame) : Nat :=
  let length := 1 + varintLen f.streamID
  let length := if f.offset ≠ 0 then length + varintLen f.offset else length
  let length := if f.dataLenPresent then length + varintLen f.data.length else length
  let length := length + 1
  let length := length + varintLen f.ptdaC
  length + f.data.length

/-- `(*PRStreamFrame).MaxDataLen`, in the signed arithmetic of `protocol.ByteCount`. -/
def PRStreamFrame.maxDataLen (f : PRStreamFrame) (maxSize : Int) : Int :=
  let headerLen : Int := 1 + varintLen f.streamID
  let headerLen := if f.offset ≠ 0 then headerLen + varintLen f.offset else headerLen
  -- pretend that the data size will be 1 byte
  let headerLen := if f.dataLenPresent then headerLen + 1 else headerLen
  if headerLen > maxSize then 0
  else
    let headerLen := headerLen - 1
    let headerLen := headerLen - varintLen f.ptdaC
    let maxDataLen := maxSize - headerLen
    if f.dataLenPresent ∧ varintLen maxDataLen.toNat ≠ 1 then maxDataLen - 1 else maxDataLen

/-- `(*PRStreamFrame).MaybeSplitOffFrame`: `(new, was split, f afterwards)`.  The data slices
and `fromPool` are swapped between `f` and the pooled `new`; re-slicing `f.Data` panics when
`len(new.Data) - n` is negative or beyond its capacity. -/
def PRStreamFrame.maybeSplitOffFrame (f : PRStreamFrame) (maxSize : Int) :
    GoResult (Option PRStreamFrame × Bool × PRStreamFrame) :=
  if maxSize ≥ f.length then ok (none, false, f)
  else
    let n := f.maxDataLen maxSize
    if n = 0 then ok (none, true, f)
    else
      let pooled := getPRStreamFrame pc
      let head : PRStreamFrame :=
        { pooled with
          streamID := f.streamID
          offset := f.offset
          fin := false
          dataLenPresent := f.dataLenPresent
          ptda := f.ptda
          p := f.p
          t := f.t
          d := f.d
          a := f.a
          ptdaC := f.ptdaC
          -- swap the data slices
          data := f.data
          cap := f.cap
          fromPool := f.fromPool }
      let tail := { f with data := pooled.data, cap := pooled.cap, fromPool := pooled.fromPool }
      let tailLen : Int := head.data.length - n
      if tailLen < 0 ∨ tailLen > tail.cap then .panic "slice bounds out of range"
      else
        ok (some { head with data := head.data.take n.toNat }, true,
          { tail with data := head.data.drop n.toNat, offset := f.offset + n.toNat })

/-- `(*PRStreamFrame).PutBack`. -/
def PRStreamFrame.putBack (f : PRStreamFrame) : GoResult Unit :=
  putPRStreamFrame pc f

/-! ## The codec has no round trip -/

theorem appendTypeByte_mem (fin dataLenPresent hasOffset : Bool) :
    0x08 ≤ appendTypeByte fin dataLenPresent hasOffset ∧
      appendTypeByte fin dataLenPresent hasOffset ≤ 0x0f := by
  cases fin <;> cases dataLenPresent <;> cases hasOffset <;> decide

/-- The parser reads back the three flag bits of the type byte. -/
theorem appendTypeByte_bits (fin dataLenPresent hasOffset : Bool) :
    decide (appendTypeByte fin dataLenPresent hasOffset &&& 0b100 > 0) = hasOffset ∧
      decide (appendTypeByte fin dataLenPresent hasOffset &&& 0b1 > 0) = fin ∧
      decide (appendTypeByte fin dataLenPresent hasOffset &&& 0b10 > 0) = dataLenPresent := by
  cases fin <;> cases dataLenPresent <;> cases hasOffset <;> decide

/-- The bytes `Append` writes for a frame with data or a FIN, field by field. -/
theorem PRStreamFrame.append_eq (f : PRStreamFrame) (h : f.data ≠ [] ∨ f.fin = true) :
    f.append [] = ok (appendTypeByte f.fin f.dataLenPresent (f.offset ≠ 0) ::
      (varintBytes f.streamID ++ (if f.offset ≠ 0 then varintBytes f.offset else []) ++
        (if f.dataLenPresent then varintBytes f.data.length else []) ++
          f.ptda :: UInt8.ofNat f.ptdaC :: f.data)) := by
  have hguard : ¬(f.data = [] ∧ !f.fin) := by simpa [imp_iff_not_or] using h
  rw [PRStreamFrame.append, if_neg hguard]
  by_cases ho : f.offset = 0 <;> cases hd : f.dataLenPresent <;> simp [ho, hd, appendVarint]

/-- Every frame `append` writes, followed by anything, makes the parser panic on the nil
frame pointer; and the frame's first byte is a STREAM type byte, not one of `0x48..0x4f`. -/
theorem parsePRStreamFrame_append_panics (f : PRStreamFrame) (rest : List UInt8)
    (h : f.data ≠ [] ∨ f.fin = true) (hid : f.streamID < 2 ^ 62)
    (hoff : f.offset < 2 ^ 62) (hlen : f.data.length < 2 ^ 62) :
    ∃ typeByte b, f.append [] = ok (typeByte :: b) ∧ 0x08 ≤ typeByte ∧ typeByte ≤ 0x0f ∧
      parsePRStreamFrame pc (typeByte :: b ++ rest) = .panic nilDereference := by
  obtain ⟨hOff, -, hLen⟩ := appendTypeByte_bits f.fin f.dataLenPresent (f.offset ≠ 0)
  obtain ⟨hlo, hhi⟩ := appendTypeByte_mem f.fin f.dataLenPresent (f.offset ≠ 0)
  refine ⟨_, _, f.append_eq h, hlo, hhi, ?_⟩
  simp only [parsePRStreamFrame, deref, panic_bind, List.cons_append, readByte_cons, ok_bind,
    hOff, hLen, List.append_assoc, readVarint_varintBytes _ _ hid]
  by_cases ho : f.offset = 0 <;> cases hd : f.dataLenPresent <;>
    simp [ho, readVarint_varintBytes _ _ hoff, readVarint_varintBytes _ _ hlen]

/-- On no input at all does the parser return a frame: it fails in a read of the type byte,
stream ID, offset or length, or panics on the nil frame pointer right after them. -/
theorem parsePRStreamFrame_ne_ok (r : List UInt8) (x : PRStreamFrame × List UInt8) :
    parsePRStreamFrame pc r ≠ ok x := by
  simp only [parsePRStreamFrame, deref, panic_bind, ne_eq, bind_eq_ok, not_exists, not_and]
  intros
  split_ifs <;> simp [bind_eq_ok, ite_eq_iff]

/-- The frame carrying the byte `0` on stream `0` under the probability policy. -/
theorem parsePRStreamFrame_append_panics_oneByte :
    ∃ typeByte b, ({ data := [0], dataLenPresent := true, ptda := 0x80, p := true } :
        PRStreamFrame).append [] = ok (typeByte :: b) ∧ 0x08 ≤ typeByte ∧ typeByte ≤ 0x0f ∧
      parsePRStreamFrame .quicGo (typeByte :: b ++ []) =
        .panic nilDereference :=
  parsePRStreamFrame_append_panics .quicGo
    { data := [0], dataLenPresent := true, ptda := 0x80, p := true } []
    (by decide) (by decide) (by decide) (by decide)

/-! ## Length, MaxDataLen and the split -/

namespace PRStreamFrame

/-- `Length` counts `ptdaC` as a varint where `Append` writes one byte, so it exceeds the length
of what `Append` writes by `varintLen ptdaC - 1`, one byte or more from `ptdaC = 64` on. -/
theorem length_eq_append_length_add (f : PRStreamFrame) (h : f.data ≠ [] ∨ f.fin = true) :
    ∃ b, f.append [] = ok b ∧ f.length = b.length + (varintLen f.ptdaC - 1) := by
  refine ⟨_, f.append_eq h, ?_⟩
  have := varintLen_pos f.ptdaC
  simp only [length, List.length_cons, List.length_append, varintBytes_length, List.length_nil,
    apply_ite List.length]
  split_ifs <;> omega

/-- The frame carrying one byte with `ptdaC = 64`. -/
theorem length_eq_append_length_add_ptdaC64 :
    ∃ b, ({ data := [0], ptdaC := 64 } : PRStreamFrame).append [] = ok b ∧
      ({ data := [0], ptdaC := 64 } : PRStreamFrame).length = b.length + (varintLen 64 - 1) :=
  length_eq_append_length_add _ (by decide)

/-- `MaxDataLen` is `0` exactly when the header, counting one byte for a length field, is longer
than the budget, and is positive otherwise. -/
theorem maxDataLen_eq_zero_iff (f : PRStreamFrame) (maxSize : Int) :
    f.maxDataLen maxSize = 0 ↔
      maxSize < 1 + varintLen f.streamID + (if f.offset ≠ 0 then varintLen f.offset else 0) +
        (if f.dataLenPresent then 1 else 0) := by
  have := varintLen_pos f.ptdaC
  have h64 := (varintLen_eq_one_iff (f.maxDataLen maxSize).toNat).not
  by_cases ho : f.offset = 0 <;> cases hd : f.dataLenPresent <;>
    simp only [maxDataLen, ho, hd, ne_eq, not_true, not_false_eq_true, if_true, if_false,
      Bool.false_eq_true, false_and, true_and] <;> split_ifs <;> omega

theorem maxDataLen_nonneg (f : PRStreamFrame) (maxSize : Int) : 0 ≤ f.maxDataLen maxSize := by
  have := varintLen_pos f.ptdaC
  by_cases ho : f.offset = 0 <;> cases hd : f.dataLenPresent <;>
    simp only [maxDataLen, ho, hd, ne_eq, not_true, not_false_eq_true, if_true, if_false,
      Bool.false_eq_true, false_and, true_and] <;> split_ifs <;> omega

/-- A frame carrying `MaxDataLen(maxSize) > 0` bytes is longer than `maxSize` by more than twice
the varint of `ptdaC`: `MaxDataLen` adds the PR overhead to the budget where it should take it
off. -/
theorem length_gt_of_maxDataLen (f : PRStreamFrame) (maxSize : Int)
    (hn : 0 < f.maxDataLen maxSize) (d : List UInt8) (hd : (d.length : Int) = f.maxDataLen maxSize) :
    maxSize + 2 * varintLen f.ptdaC < ({ f with data := d } : PRStreamFrame).length := by
  have := varintLen_pos d.length
  by_cases ho : f.offset = 0 <;> cases hdl : f.dataLenPresent <;>
    simp only [maxDataLen, length, ho, hdl, ne_eq, not_true, not_false_eq_true, if_true,
      if_false, Bool.false_eq_true, false_and, true_and] at hn hd ⊢ <;> split_ifs at hn hd <;>
    omega

/-- `MaxDataLen` against the budget, for every header and every budget: a frame carrying
`MaxDataLen(maxSize) > 0` bytes is longer than the budget by more than twice the varint of
`ptdaC`, and when `MaxDataLen` is `0` not even one byte fits. -/
theorem maxDataLen_against_budget (f : PRStreamFrame) (maxSize : Int) :
    (0 < f.maxDataLen maxSize → ∀ d : List UInt8, (d.length : Int) = f.maxDataLen maxSize →
      maxSize + 2 * varintLen f.ptdaC < ({ f with data := d } : PRStreamFrame).length) ∧
    (f.maxDataLen maxSize = 0 → ∀ b : UInt8,
      maxSize < ({ f with data := [b] } : PRStreamFrame).length) := by
  refine ⟨length_gt_of_maxDataLen f maxSize, fun h0 _ => ?_⟩
  have := (maxDataLen_eq_zero_iff f maxSize).mp h0
  have h1 : varintLen 1 = 1 := rfl
  by_cases ho : f.offset = 0 <;> cases hdl : f.dataLenPresent <;>
    simp only [length, ho, hdl, h1, ne_eq, not_true, not_false_eq_true, if_true, if_false,
      Bool.false_eq_true, List.length_singleton] at this ⊢ <;> omega

/-- The budget of `10` bytes for a frame on stream `0` at offset `0` with `ptdaC = 0` and no
length field: `MaxDataLen` is `10`, and the frame carrying `10` bytes is `14` bytes long. -/
theorem maxDataLen_against_budget_ten :
    (10 : Int) + 2 * varintLen 0 <
      ({ ({} : PRStreamFrame) with data := List.replicate 10 0 } : PRStreamFrame).length :=
  (maxDataLen_against_budget {} 10).1 (by decide) _ (by decide)

/-- What a split hands out: the head is the frame's first `n > 0` bytes, with every other field
copied and the FIN cleared, and the tail the rest at offset `offset + n` in the pooled buffer,
keeping the FIN; but the head is longer than the budget by more than twice the varint of
`ptdaC`, and `n` may be the whole data. -/
theorem maybeSplitOffFrame_split (f : PRStreamFrame) (maxSize : Int) (head tail : PRStreamFrame)
    (h : f.maybeSplitOffFrame pc maxSize = ok (some head, true, tail)) :
    ∃ n, 0 < n ∧ n ≤ f.data.length ∧ head = { f with fin := false, data := f.data.take n } ∧
      tail = { f with
        data := f.data.drop n, offset := f.offset + n, cap := pc.maxPacketBufferSize,
        fromPool := true } ∧
      maxSize + 2 * varintLen f.ptdaC < head.length := by
  simp only [maybeSplitOffFrame] at h
  split_ifs at h with hfit hn0 hpanic
  · simp at h
  · simp at h
  obtain ⟨rfl, rfl⟩ : _ = head ∧ _ = tail := by simpa using h
  have hpos : 0 < f.maxDataLen maxSize := lt_of_le_of_ne (maxDataLen_nonneg f maxSize) (Ne.symm hn0)
  simp only [getPRStreamFrame, not_or, not_lt] at hpanic
  refine ⟨(f.maxDataLen maxSize).toNat, by omega, by omega, rfl, rfl, ?_⟩
  exact length_gt_of_maxDataLen f maxSize hpos _ (by rw [List.length_take]; omega)

/-- Eight of ten bytes split off on stream `0`: the head is `12` bytes long. -/
theorem maybeSplitOffFrame_split_ten :
    ∃ head tail, ({ data := List.replicate 10 0 } : PRStreamFrame).maybeSplitOffFrame .quicGo 8 =
      ok (some head, true, tail) ∧ (8 : Int) + 2 * varintLen 0 < head.length :=
  ⟨_, _, rfl,
    (maybeSplitOffFrame_split .quicGo { data := List.replicate 10 0 } 8 _ _ rfl).choose_spec.2.2.2.2⟩

end PRStreamFrame

end PrQuic.Wire
