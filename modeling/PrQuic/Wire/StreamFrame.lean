import PrQuic.Wire.Basic

/-!
# STREAM frames

The send stream frames its bytes as `wire.StreamFrame`s and keeps lost ones for retransmission.
The frame's file belongs to the base protocol and is not in the sources: its length, `MaxDataLen`
and `MaybeSplitOffFrame` follow the spec's frame codec (§4.1), and its pool (§5) follows the
PR_STREAM copy in `pr_stream_frame.go`: `fromPool` travels with the buffer, a split swaps the
buffers of the frame and of a fresh pooled one, and `PutBack` panics on a pooled frame whose
buffer lost the pool's capacity.
-/

namespace PrQuic.Wire

open GoResult

/-- Modelled from the spec: `wire.StreamFrame`.  `cap` is the capacity of the `Data` slice. -/
structure StreamFrame where
  streamID : Nat := 0
  offset : Nat := 0
  data : List UInt8 := []
  fin : Bool := false
  dataLenPresent : Bool := false
  fromPool : Bool := false
  cap : Nat := 0
  deriving DecidableEq, Repr

variable (pc : Protocol)

/-- Modelled from the spec: `GetStreamFrame`, a pooled frame whose buffer has capacity
`MaxPacketBufferSize`. -/
def getStreamFrame : StreamFrame :=
  { cap := pc.maxPacketBufferSize, fromPool := true }

@[simp] theorem getStreamFrame_data : (getStreamFrame pc).data = [] := rfl

@[simp] theorem getStreamFrame_cap : (getStreamFrame pc).cap = pc.maxPacketBufferSize := rfl

@[simp] theorem getStreamFrame_fromPool : (getStreamFrame pc).fromPool = true := rfl

/-- Modelled as `putPRStreamFrame`, of which it is the original: `putStreamFrame`, reached
through `PutBack`. -/
def StreamFrame.putBack (f : StreamFrame) : GoResult Unit :=
  if !f.fromPool then ok ()
  else if f.cap ≠ pc.maxPacketBufferSize then
    .panic "wire.PutStreamFrame called with packet of wrong size!"
  else ok ()

theorem StreamFrame.putBack_ne_err (f : StreamFrame) (e : GoError) : f.putBack pc ≠ err e := by
  unfold putBack
  split_ifs <;> simp

/-- A pooled frame's buffer has the pool's capacity, the one `putStreamFrame` checks. -/
def StreamFrame.KeepsPoolCap (f : StreamFrame) : Prop :=
  f.fromPool = true → f.cap = pc.maxPacketBufferSize

instance StreamFrame.decidableKeepsPoolCap (f : StreamFrame) : Decidable (f.KeepsPoolCap pc) :=
  inferInstanceAs (Decidable (_ → _))

/-- `PutBack` returns exactly on the frames that keep the pool's capacity. -/
theorem StreamFrame.putBack_eq_ok_iff (f : StreamFrame) : f.putBack pc = ok () ↔ f.KeepsPoolCap pc := by
  unfold putBack KeepsPoolCap
  cases f.fromPool <;> by_cases hc : f.cap = pc.maxPacketBufferSize <;> simp [hc]

/-- Modelled from the spec: `(*StreamFrame).Length`, a function of the header fields present
and of the data length. -/
def StreamFrame.length (f : StreamFrame) : Nat :=
  1 + varintLen f.streamID + (if f.offset ≠ 0 then varintLen f.offset else 0) +
    (if f.dataLenPresent then varintLen f.data.length else 0) + f.data.length

/-- Modelled from the spec: `max_data_len`.  It is `0` when the header alone exceeds the
budget, and otherwise the largest payload that fits, with the length field counted as one
byte and the payload lowered by one when its length needs a longer varint. -/
def StreamFrame.maxDataLen (f : StreamFrame) (maxSize : Int) : Nat :=
  let headerLen := 1 + varintLen f.streamID + (if f.offset ≠ 0 then varintLen f.offset else 0) +
    (if f.dataLenPresent then 1 else 0)
  if (headerLen : Int) > maxSize then 0
  else
    let maxDataLen := (maxSize - headerLen).toNat
    if f.dataLenPresent ∧ varintLen maxDataLen ≠ 1 then maxDataLen - 1 else maxDataLen

/-- Modelled from the spec: `maybe_split(frame, budget)`, as `(head, was split, frame
afterwards)`.  A frame that fits is not split; when not even one data byte fits, no head is made
and the frame is left as it is; otherwise the head carries the first `maxDataLen` bytes without
FIN, and the frame keeps the rest, at `offset + head_len`, with its FIN.  As in the PR_STREAM
copy, the head takes the frame's buffer and `fromPool`, the frame a fresh pooled buffer, and
re-slicing that buffer to the rest's length panics beyond its capacity. -/
def StreamFrame.maybeSplitOffFrame (f : StreamFrame) (maxSize : Int) :
    GoResult (Option StreamFrame × Bool × StreamFrame) :=
  if maxSize ≥ f.length then ok (none, false, f)
  else
    let n := f.maxDataLen maxSize
    if n = 0 then ok (none, true, f)
    else
      let pooled := getStreamFrame pc
      let tailLen : Int := f.data.length - n
      if tailLen < 0 ∨ tailLen > pooled.cap then .panic "slice bounds out of range"
      else
        let tail := { f with cap := pooled.cap, fromPool := pooled.fromPool }
        ok (some { f with data := f.data.take n, fin := false }, true,
          { tail with data := f.data.drop n, offset := f.offset + n })

/-- A frame shorter than `2^14` bytes that does not fit keeps at least one byte of its data
when it is split: the payload `MaxDataLen` allows is shorter than the frame's. -/
theorem StreamFrame.maxDataLen_lt (f : StreamFrame) (maxSize : Int) (h : ¬maxSize ≥ f.length)
    (hn : f.maxDataLen maxSize ≠ 0) (hd : f.data.length < 2 ^ 14) :
    f.maxDataLen maxSize < f.data.length := by
  have hL := varintLen_eq_one_iff f.data.length
  have hL2 := varintLen_le_two _ hd
  unfold maxDataLen at hn ⊢
  unfold StreamFrame.length at h
  generalize 1 + varintLen f.streamID + (if f.offset ≠ 0 then varintLen f.offset else 0) = H at *
  dsimp only at hn ⊢
  have hm := varintLen_eq_one_iff (maxSize - ↑(H + 1)).toNat
  cases hdl : f.dataLenPresent <;> simp only [hdl, if_true, Bool.false_eq_true, if_false,
    true_and, false_and, add_zero] at h hn ⊢ <;> split_ifs at hn ⊢ <;> omega

/-- A frame without data is at most 18 bytes long: the type byte, two eight-byte varints and a
one-byte length. -/
theorem StreamFrame.length_le_of_data_nil (f : StreamFrame) (h : f.data = []) : f.length ≤ 18 := by
  have := varintLen_le_eight f.streamID
  have := varintLen_le_eight f.offset
  have h0 : varintLen 0 = 1 := rfl
  simp only [length, h, List.length_nil, h0]
  split_ifs <;> omega

/-- Past the longest header, `MaxDataLen` allows at least one byte. -/
theorem StreamFrame.maxDataLen_pos (f : StreamFrame) (maxSize : Int) (h : 19 ≤ maxSize) :
    0 < f.maxDataLen maxSize := by
  have hH : 1 + varintLen f.streamID + (if f.offset ≠ 0 then varintLen f.offset else 0) ≤ 17 := by
    have := varintLen_le_eight f.streamID
    have := varintLen_le_eight f.offset
    split_ifs <;> omega
  unfold maxDataLen
  generalize 1 + varintLen f.streamID + (if f.offset ≠ 0 then varintLen f.offset else 0) = H at *
  dsimp only
  have hm := varintLen_eq_one_iff (maxSize - ↑(H + 1)).toNat
  cases hdl : f.dataLenPresent <;> simp only [hdl, if_true, Bool.false_eq_true, if_false,
    true_and, false_and, add_zero] <;> split_ifs <;> omega

theorem StreamFrame.maxDataLen_le (f : StreamFrame) (maxSize : Int) :
    f.maxDataLen maxSize ≤ maxSize.toNat := by
  unfold maxDataLen
  generalize 1 + varintLen f.streamID + (if f.offset ≠ 0 then varintLen f.offset else 0) = H
  dsimp only
  split_ifs <;> omega

/-- A frame carrying at least one and at most `MaxDataLen(maxSize)` bytes fits the budget, for
a budget below `2^14`. -/
theorem StreamFrame.length_le_of_maxDataLen (f : StreamFrame) (maxSize : Int) (d : List UInt8)
    (hd : d ≠ []) (hle : d.length ≤ f.maxDataLen maxSize) (hmax : maxSize < 2 ^ 14) :
    (({ f with data := d } : StreamFrame).length : Int) ≤ maxSize := by
  have hpos : 0 < d.length := List.length_pos.mpr hd
  have hL := varintLen_eq_one_iff d.length
  have hL2 := varintLen_le_two d.length (by have := f.maxDataLen_le maxSize; omega)
  unfold maxDataLen at hle
  unfold StreamFrame.length
  generalize 1 + varintLen f.streamID + (if f.offset ≠ 0 then varintLen f.offset else 0) = H at *
  dsimp only at hle ⊢
  have hm := varintLen_eq_one_iff (maxSize - ↑(H + 1)).toNat
  cases hdl : f.dataLenPresent <;> simp only [hdl, if_true, Bool.false_eq_true, if_false,
    true_and, false_and, add_zero] at hle ⊢ <;> split_ifs at hle <;> omega

/-- The three outcomes of a `maybeSplitOffFrame` that returns. -/
theorem StreamFrame.maybeSplitOffFrame_cases {f : StreamFrame} {maxSize : Int}
    {r : Option StreamFrame × Bool × StreamFrame} (h : f.maybeSplitOffFrame pc maxSize = ok r) :
    r = (none, false, f) ∧ (f.length : Int) ≤ maxSize ∨
      r = (none, true, f) ∧ f.maxDataLen maxSize = 0 ∨
      maxSize < f.length ∧ 0 < f.maxDataLen maxSize ∧
        r = (some { f with data := f.data.take (f.maxDataLen maxSize), fin := false }, true,
          { f with
            data := f.data.drop (f.maxDataLen maxSize)
            offset := f.offset + f.maxDataLen maxSize
            fromPool := true
            cap := pc.maxPacketBufferSize }) := by
  simp only [maybeSplitOffFrame, getStreamFrame_cap, getStreamFrame_fromPool] at h
  split_ifs at h with h1 h2 <;> cases h
  · exact .inl ⟨rfl, h1⟩
  · exact .inr (.inl ⟨rfl, h2⟩)
  · exact .inr (.inr ⟨lt_of_not_le h1, Nat.pos_of_ne_zero h2, rfl⟩)

/-- Past the longest header, a split always makes a head. -/
theorem StreamFrame.maybeSplitOffFrame_isSome {f : StreamFrame} {maxSize : Int}
    {r : Option StreamFrame × Bool × StreamFrame} (h : f.maybeSplitOffFrame pc maxSize = ok r)
    (hmb : 19 ≤ maxSize) : r.2.1 = true → r.1.isSome := by
  rcases maybeSplitOffFrame_cases pc h with ⟨rfl, -⟩ | ⟨rfl, h0⟩ | ⟨-, -, rfl⟩
  · simp
  · exact absurd h0 (f.maxDataLen_pos maxSize hmb).ne'
  · simp

/-- A frame of at most a packet buffer's bytes is split without a panic. -/
theorem StreamFrame.maybeSplitOffFrame_ok (f : StreamFrame) (maxSize : Int)
    (hd : f.data.length ≤ pc.maxPacketBufferSize) : ∃ r, f.maybeSplitOffFrame pc maxSize = ok r := by
  simp only [maybeSplitOffFrame, getStreamFrame_cap]
  split_ifs with h1 h2 h3
  · exact ⟨_, rfl⟩
  · exact ⟨_, rfl⟩
  · have := f.maxDataLen_lt maxSize h1 h2 (by have := pc.maxPacketBufferSize_lt; omega)
    omega
  · exact ⟨_, rfl⟩

/-- A head split off with a budget past the longest header carries data and fits the
budget. -/
theorem StreamFrame.maybeSplitOffFrame_head {f head tail : StreamFrame} {maxSize : Int}
    {split : Bool} (h : f.maybeSplitOffFrame pc maxSize = ok (some head, split, tail))
    (hmb : 19 ≤ maxSize) (hmax : maxSize < 2 ^ 14) : head.data ≠ [] ∧ (head.length : Int) ≤ maxSize := by
  rcases maybeSplitOffFrame_cases pc h with ⟨h1, -⟩ | ⟨h1, -⟩ | ⟨hlt, hn, h1⟩ <;>
    simp only [Prod.mk.injEq, reduceCtorEq, false_and, Option.some.injEq] at h1
  obtain ⟨rfl, -, -⟩ := h1
  have hne : f.data ≠ [] := fun hd => by have := f.length_le_of_data_nil hd; omega
  have hd : f.data.take (f.maxDataLen maxSize) ≠ [] := by simp [hne, hn.ne']
  exact ⟨hd, f.length_le_of_maxDataLen maxSize _ hd (List.length_take_le _ _) hmax⟩

/-- Both halves of a split keep the pool's capacity when the frame split does: the head takes
its buffer with its `fromPool`, what stays behind a fresh pooled buffer. -/
theorem StreamFrame.maybeSplitOffFrame_keepsPoolCap {f : StreamFrame} {maxSize : Int}
    {head? : Option StreamFrame} {split : Bool} {tail : StreamFrame} (hf : f.KeepsPoolCap pc)
    (h : f.maybeSplitOffFrame pc maxSize = ok (head?, split, tail)) :
    (∀ head ∈ head?, head.KeepsPoolCap pc) ∧ tail.KeepsPoolCap pc := by
  rcases maybeSplitOffFrame_cases pc h with ⟨h1, -⟩ | ⟨h1, -⟩ | ⟨-, -, h1⟩ <;>
    simp only [Prod.mk.injEq] at h1 <;> obtain ⟨rfl, -, rfl⟩ := h1
  · exact ⟨fun _ h => (nomatch h), hf⟩
  · exact ⟨fun _ h => (nomatch h), hf⟩
  · exact ⟨fun _ h => Option.some.inj h ▸ hf, fun _ => rfl⟩

end PrQuic.Wire
