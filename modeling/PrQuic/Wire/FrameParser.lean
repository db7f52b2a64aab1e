import PrQuic.Wire.PRStreamFrame
import PrQuic.Wire.PRAckNotifyFrame
import PrQuic.Wire.PRDatagramFrame

/-!
# The frame parser's dispatch

`parseFrame` (`part_000` lines 718-768) hands the reader to the parser its type byte selects:
STREAM for `0x08..0x0f`, PR_STREAM for `0x48..0x4f`, then a `switch` with PR_ACK `0x50`,
PR_ACK_NOTIFY `0x51`, PR_DATAGRAM `0x52, 0x53` and DATAGRAM `0x30, 0x31` (the last two only
when datagrams are supported), and "unknown frame type" for the rest.  `ElidedCases` stands for
the cases the sources elide (`···`), with the one fact Go gives: no duplicate case.  Read against
the encoders, only PR_DATAGRAM frames reach their own parser, and the PR_ACK_NOTIFY parser is
only ever handed `0x51`, whose bits it reads as FIN with no offset and no length.
-/

namespace PrQuic.Wire

open GoResult

/-- The parsers `parseFrame` hands a frame to. -/
inductive FrameParser where
  | parseStreamFrame
  | parsePRStreamFrame
  | parsePRAckFrame
  | parsePRAckNotifyFrame
  | parsePRDatagramFrame
  | parseDatagramFrame
  /-- the parser of one of the cases the sources elide -/
  | elided
  deriving DecidableEq, Repr

/-- The type bytes of the `switch` cases the sources show. -/
def shownCases : List UInt8 := [0x50, 0x51, 0x52, 0x53, 0x30, 0x31]

/-- The `switch` cases the sources elide: the type bytes they take, none of them a case the
sources show. -/
structure ElidedCases where
  covers : UInt8 → Bool
  distinct : ∀ b, covers b = true → b ∉ shownCases

/-- The error of the `default` case. -/
def unknownFrameType : GoError := .msg "unknown frame type"

/-- `parseFrame`'s dispatch on `typeByte`: the parser it hands the reader to, whose result it
returns, or its error. -/
def parseFrame (cases : ElidedCases) (supportsDatagrams : Bool) (typeByte : UInt8) :
    GoResult FrameParser :=
  if typeByte &&& 0xf8 = 0x8 then ok .parseStreamFrame
  else if typeByte &&& 0xf8 = 0x48 then ok .parsePRStreamFrame
  else if cases.covers typeByte then ok .elided
  else if typeByte = 0x50 then ok .parsePRAckFrame
  else if typeByte = 0x51 then ok .parsePRAckNotifyFrame
  else if typeByte = 0x52 ∨ typeByte = 0x53 then
    if supportsDatagrams then ok .parsePRDatagramFrame else err unknownFrameType
  else if typeByte = 0x30 ∨ typeByte = 0x31 then
    if supportsDatagrams then ok .parseDatagramFrame else err unknownFrameType
  else err unknownFrameType

/-! ## Which type bytes reach which parser -/

section Dispatch

variable (cases : ElidedCases) (supportsDatagrams : Bool)

theorem ElidedCases.covers_eq_false {cases : ElidedCases} {b : UInt8} (hb : b ∈ shownCases) :
    cases.covers b = false :=
  Bool.eq_false_iff.2 fun h => cases.distinct b h hb

/-- A type byte outside `0x08..0x0f` and `0x48..0x4f` that no elided case takes goes to the
`switch` cases the sources show. -/
theorem parseFrame_switch {t : UInt8} (h8 : t &&& 0xf8 ≠ 0x8) (h48 : t &&& 0xf8 ≠ 0x48)
    (hc : cases.covers t = false) :
    parseFrame cases supportsDatagrams t =
      if t = 0x50 then ok .parsePRAckFrame
      else if t = 0x51 then ok .parsePRAckNotifyFrame
      else if t = 0x52 ∨ t = 0x53 then
        if supportsDatagrams then ok .parsePRDatagramFrame else err unknownFrameType
      else if t = 0x30 ∨ t = 0x31 then
        if supportsDatagrams then ok .parseDatagramFrame else err unknownFrameType
      else err unknownFrameType := by
  rw [parseFrame, if_neg h8, if_neg h48, if_neg (by simp [hc])]

/-- Only `0x51` reaches the PR_ACK_NOTIFY parser. -/
theorem parseFrame_eq_parsePRAckNotifyFrame {t : UInt8}
    (h : parseFrame cases supportsDatagrams t = ok .parsePRAckNotifyFrame) : t = 0x51 := by
  unfold parseFrame at h
  by_cases h8 : t &&& 0xf8 = 0x8
  · rw [if_pos h8] at h; cases h
  by_cases h48 : t &&& 0xf8 = 0x48
  · rw [if_neg h8, if_pos h48] at h; cases h
  by_cases hc : cases.covers t = true
  · rw [if_neg h8, if_neg h48, if_pos hc] at h; cases h
  by_cases h50 : t = 0x50
  · rw [if_neg h8, if_neg h48, if_neg hc, if_pos h50] at h; cases h
  by_contra h51
  rw [if_neg h8, if_neg h48, if_neg hc, if_neg h50, if_neg h51] at h
  -- the datagram cases return another parser or an error
  revert h
  cases supportsDatagrams <;> simp only [Bool.false_eq_true, ↓reduceIte] <;> split_ifs <;> simp

/-- What `PRStreamFrame.append` writes starts with a STREAM type byte. -/
theorem PRStreamFrame.append_dispatch {f : PRStreamFrame} {bs : List UInt8}
    (h : f.append [] = ok bs) :
    ∃ t rest, bs = t :: rest ∧ parseFrame cases supportsDatagrams t = ok .parseStreamFrame := by
  have hf : f.data ≠ [] ∨ f.fin = true := by
    by_contra hn
    simp only [not_or, ne_eq, not_not, Bool.not_eq_true] at hn
    simp [PRStreamFrame.append, hn] at h
  rw [PRStreamFrame.append_eq f hf] at h
  refine ⟨_, _, (ok.inj h).symm, ?_⟩
  have : appendTypeByte f.fin f.dataLenPresent (decide (f.offset ≠ 0)) &&& 0xf8 = 0x8 := by
    cases f.fin <;> cases f.dataLenPresent <;> cases decide (f.offset ≠ 0) <;> rfl
  rw [parseFrame, if_pos this]

/-- What `PRAckNotifyFrame.append` writes starts with a type byte `0x58..0x5f`, which no case
the sources show takes. -/
theorem PRAckNotifyFrame.append_dispatch (f : PRAckNotifyFrame) :
    ∃ t rest, f.append [] = t :: rest ∧ parseFrame cases supportsDatagrams t =
      if cases.covers t then ok .elided else err unknownFrameType := by
  refine ⟨_, _, f.append_eq, ?_⟩
  have h58 : f.typeByte &&& 0xf8 = 0x58 := by
    unfold PRAckNotifyFrame.typeByte
    split_ifs <;> rfl
  generalize f.typeByte = t at h58 ⊢
  cases hc : cases.covers t
  · -- no case the sources show has the high bits `0x58`
    have hne : ∀ b ∈ shownCases, t ≠ b := fun b hb htb =>
      (show ∀ b ∈ shownCases, b &&& 0xf8 ≠ 0x58 by decide) b hb (htb ▸ h58)
    simp only [shownCases, List.mem_cons, List.mem_singleton, List.not_mem_nil, or_false,
      forall_eq_or_imp, forall_eq] at hne
    rw [parseFrame_switch cases supportsDatagrams (by rw [h58]; decide) (by rw [h58]; decide) hc]
    simp [hne]
  · rw [parseFrame, if_neg (by rw [h58]; decide), if_neg (by rw [h58]; decide), if_pos hc,
      if_pos rfl]

/-- What `PRDatagramFrame.append` writes starts with `0x52` or `0x53`. -/
theorem PRDatagramFrame.append_dispatch (f : PRDatagramFrame) :
    ∃ t rest, f.append [] = t :: rest ∧ parseFrame cases supportsDatagrams t =
      if supportsDatagrams then ok .parsePRDatagramFrame else err unknownFrameType := by
  rw [PRDatagramFrame.append_eq]
  cases f.dataLenPresent <;> refine ⟨_, _, rfl, ?_⟩ <;>
    rw [parseFrame_switch cases supportsDatagrams (by decide) (by decide)
      (ElidedCases.covers_eq_false (by decide))] <;> rfl

end Dispatch

/-- What the PR_ACK_NOTIFY parser reads off the type byte: FIN and LEN from its low bits, and no
offset when its OFF bit is clear. -/
theorem parsePRAckNotifyFrame_flags {t : UInt8} {r rest : List UInt8} {f : PRAckNotifyFrame}
    (h : parsePRAckNotifyFrame (t :: r) = ok (f, rest)) :
    f.fin = decide (t &&& 0b1 > 0) ∧ f.dataLenPresent = decide (t &&& 0b10 > 0) ∧
      (t &&& 0b100 = 0 → f.offset = 0) := by
  simp only [parsePRAckNotifyFrame, readByte_cons, ok_bind] at h
  obtain ⟨⟨sid, r1⟩, -, h⟩ := bind_eq_ok.1 h
  obtain ⟨⟨ptda, r2⟩, -, h⟩ := bind_eq_ok.1 h
  obtain ⟨⟨c, r3⟩, -, h⟩ := bind_eq_ok.1 h
  -- the offset, read or `0`, then the length
  split at h <;> rename_i hb <;> obtain ⟨⟨off, r4⟩, hoff, h⟩ := bind_eq_ok.1 h <;>
    obtain ⟨⟨len, r5⟩, -, h⟩ := bind_eq_ok.1 h <;> cases h <;> refine ⟨rfl, rfl, fun h0 => ?_⟩
  · simp [h0] at hb
  · cases hoff
    rfl

section Properties

/-- Of the frames the PR encoders write, only PR_DATAGRAM frames reach their own parser, and
only when datagrams are supported: `parseFrame` hands what `PRStreamFrame.append` writes to the
STREAM parser, and what `PRAckNotifyFrame.append` writes to an elided case or to its "unknown
frame type" error. -/
theorem appended_pr_frames_dispatch (cases : ElidedCases) (supportsDatagrams : Bool) :
    (∀ (f : PRStreamFrame) bs, f.append [] = ok bs →
      ∃ t rest, bs = t :: rest ∧ parseFrame cases supportsDatagrams t = ok .parseStreamFrame) ∧
    (∀ f : PRAckNotifyFrame, ∃ t rest, f.append [] = t :: rest ∧
      parseFrame cases supportsDatagrams t =
        if cases.covers t then ok .elided else err unknownFrameType) ∧
    (∀ f : PRDatagramFrame, ∃ t rest, f.append [] = t :: rest ∧
      parseFrame cases supportsDatagrams t =
        if supportsDatagrams then ok .parsePRDatagramFrame else err unknownFrameType) :=
  ⟨fun _ _ h => PRStreamFrame.append_dispatch cases supportsDatagrams h,
    PRAckNotifyFrame.append_dispatch cases supportsDatagrams,
    PRDatagramFrame.append_dispatch cases supportsDatagrams⟩

/-- Every frame the PR_ACK_NOTIFY parser gets through `parseFrame` is read as the final frame of
its stream at offset `0`, with no length field, whatever its sender meant. -/
theorem dispatched_pr_ack_notify_is_fin (cases : ElidedCases) (supportsDatagrams : Bool)
    {t : UInt8} {r rest : List UInt8} {f : PRAckNotifyFrame}
    (hd : parseFrame cases supportsDatagrams t = ok .parsePRAckNotifyFrame)
    (h : parsePRAckNotifyFrame (t :: r) = ok (f, rest)) :
    f.fin = true ∧ f.offset = 0 ∧ f.dataLenPresent = false := by
  obtain rfl := parseFrame_eq_parsePRAckNotifyFrame cases supportsDatagrams hd
  obtain ⟨hfin, hlen, hoff⟩ := parsePRAckNotifyFrame_flags h
  exact ⟨hfin, hoff rfl, hlen⟩

/-- The notification for stream `4` that `PRAckNotifyFrame.append` would write with the type
byte `0x5e`, sent as `0x51`: read with FIN and no length. -/
example : ∃ f rest, parsePRAckNotifyFrame (0x51 :: [4, 0x80, 0, 100, 7]) = ok (f, rest) ∧
    f.fin = true ∧ f.dataLenPresent = false :=
  ⟨_, _, rfl, rfl, rfl⟩

end Properties

end PrQuic.Wire
