import PrQuic.Wire.PRStreamFrame
import PrQuic.Wire.PRAckNotifyFrame

/-!
# PR_DATAGRAM frames, and the PR parsers on untrusted input

A `PRDatagramFrame` (`part_005` lines 11-122) is a DATAGRAM frame with the PR policy: type byte
`0x52` (low bit: a length follows), the length, `PTDA`, `ptdaC` and the data.  There is no round
trip: `Append` writes `ptdaC` as one byte where the parser reads a varint
(`parsePRDatagramFrame_append_ptdaC`), and without a length the parser takes all that is left
as the data's length before reading `PTDA` (`parsePRDatagramFrame_append_implicit`).  `Length`
and `MaxDataLen` ignore `PTDA` and `ptdaC` (`PRDatagramFrame.length_add_two`,
`PRDatagramFrame.maxDataLen_exceeds_budget`).  The last section sets the PR parsers side by side.
-/

namespace PrQuic.Wire

open GoResult

/-- `wire.PRDatagramFrame`. -/
structure PRDatagramFrame where
  dataLenPresent : Bool := false
  data : List UInt8 := []
  ptda : UInt8 := 0
  p : Bool := false
  t : Bool := false
  d : Bool := false
  a : Bool := false
  ptdaC : Nat := 0
  deriving DecidableEq, Repr

/-- `parsePRDatagramFrame`.  Without a length field, `length` is `r.Len()` right after the type
byte. -/
def parsePRDatagramFrame (r : List UInt8) : GoResult (PRDatagramFrame × List UInt8) := do
  let (typeByte, r) ← readByte r
  let dataLenPresent : Bool := typeByte &&& 0x1 > 0
  let (length, r) ← if dataLenPresent then do
      let (len, r) ← readVarint r
      if len > r.length then err .eof else pure (len, r)
    else pure (r.length, r)
  let (ptda, r) ← readByte r
  let (ptdaC, r) ← readVarint r
  let (data, r) ← readFull length r
  let f : PRDatagramFrame :=
    { dataLenPresent, data, ptda, p := policyFlag ptda 0x80, t := policyFlag ptda 0x40,
      d := policyFlag ptda 0x20, a := policyFlag ptda 0x10, ptdaC }
  pure (f, r)

/-- `(*PRDatagramFrame).Append`, whose `error` result is always nil. -/
def PRDatagramFrame.append (f : PRDatagramFrame) (b : List UInt8) : List UInt8 :=
  let typeByte : UInt8 := 0x52
  let typeByte := if f.dataLenPresent then typeByte ^^^ 0b1 else typeByte
  let b := b ++ [typeByte]
  let b := if f.dataLenPresent then appendVarint b f.data.length else b
  -- the PTDA byte, then `ptdaC` truncated to one byte
  let b := b ++ [f.ptda]
  let b := b ++ [UInt8.ofNat f.ptdaC]
  b ++ f.data

/-- `(*PRDatagramFrame).MaxDataLen`, in the signed arithmetic of `protocol.ByteCount`. -/
def PRDatagramFrame.maxDataLen (f : PRDatagramFrame) (maxSize : Int) : Int :=
  let headerLen : Int := 1
  -- pretend that the data size will be 1 byte
  let headerLen := if f.dataLenPresent then headerLen + 1 else headerLen
  if headerLen > maxSize then 0
  else
    let maxDataLen := maxSize - headerLen
    if f.dataLenPresent ∧ varintLen maxDataLen.toNat ≠ 1 then maxDataLen - 1 else maxDataLen

/-- `(*PRDatagramFrame).Length`. -/
def PRDatagramFrame.length (f : PRDatagramFrame) : Nat :=
  let length := 1 + f.data.length
  if f.dataLenPresent then length + varintLen f.data.length else length

/-! ## The codec has no round trip -/

/-- The bytes `Append` writes, in either length mode. -/
theorem PRDatagramFrame.append_eq (f : PRDatagramFrame) :
    f.append [] = (if f.dataLenPresent then 0x53 :: varintBytes f.data.length else [0x52]) ++
      f.ptda :: UInt8.ofNat f.ptdaC :: f.data := by
  have hlen : (0x52 : UInt8) ^^^ 0b1 = 0x53 := by decide
  cases h : f.dataLenPresent <;> simp [append, appendVarint, h, hlen]

/-- Without a length field, no frame `Append` writes is parsed: the data length the parser
takes counts the `PTDA` byte and `ptdaC` too. -/
theorem parsePRDatagramFrame_append_implicit (f : PRDatagramFrame)
    (hf : f.dataLenPresent = false) : ∃ e, parsePRDatagramFrame (f.append []) = err e := by
  rw [PRDatagramFrame.append_eq, hf]
  unfold parsePRDatagramFrame
  -- the type byte `0x52` has no LEN bit: the length is the count of the bytes after it
  rw [if_neg Bool.false_ne_true, List.singleton_append, readByte_cons, ok_bind]
  dsimp only
  rw [if_neg (by decide), pure_eq, ok_bind, readByte_cons, ok_bind]
  dsimp only
  match hc : readVarint (UInt8.ofNat f.ptdaC :: f.data) with
  | .ok (c, r) =>
    obtain ⟨b, bs, hr, -, -⟩ := readVarint_eq_ok hc
    have hlen : r.length < (f.ptda :: UInt8.ofNat f.ptdaC :: f.data).length := by
      have := congrArg List.length hr
      simp at this ⊢; omega
    obtain ⟨e, he⟩ := readFull_eq_err hlen
    exact ⟨e, by rw [ok_bind]; dsimp only; rw [he, err_bind]⟩
  | .err e => exact ⟨e, rfl⟩
  | .panic m => exact absurd (hc ▸ readVarint_not_isPanic _) (by simp [IsPanic])

/-- With a length field, no frame whose `ptdaC` is `64` or more is read back, whatever
follows it: the parser reads a varint from the one byte `byte(ptdaC)`. -/
theorem parsePRDatagramFrame_append_ptdaC (f : PRDatagramFrame) (rest : List UInt8)
    (hf : f.dataLenPresent = true) (hlen : f.data.length < 2 ^ 62) (hc : 64 ≤ f.ptdaC) :
    parsePRDatagramFrame (f.append [] ++ rest) ≠ ok (f, rest) := by
  intro h
  rw [PRDatagramFrame.append_eq, hf] at h
  have hfits : ¬f.data.length > (f.ptda :: UInt8.ofNat f.ptdaC :: f.data ++ rest).length := by
    simp; omega
  unfold parsePRDatagramFrame at h
  -- the type byte `0x53`, the length, which fits, and the `PTDA` byte
  rw [if_pos rfl, List.cons_append, List.cons_append, readByte_cons, ok_bind] at h
  dsimp only at h
  rw [if_pos (by decide), List.append_assoc, readVarint_varintBytes _ _ hlen, ok_bind] at h
  dsimp only at h
  rw [if_neg hfits, pure_eq, ok_bind, List.cons_append, readByte_cons, ok_bind] at h
  dsimp only at h
  -- then `ptdaC`, read as a varint from `byte(ptdaC)`, and the data
  obtain ⟨⟨c, r⟩, hr, h⟩ := bind_eq_ok.mp h
  obtain ⟨⟨data, r'⟩, hdata, h⟩ := bind_eq_ok.mp h
  dsimp only at hdata h
  obtain ⟨hframe, hr'⟩ := Prod.mk.inj (ok.inj h)
  obtain ⟨hn, -, hdrop⟩ := readFull_eq_ok hdata
  have hrest : r.length = (f.data ++ rest).length := by
    have := congrArg List.length (hdrop.symm.trans hr')
    simp at this ⊢; omega
  obtain ⟨hv, hbyte⟩ := readVarint_eq_ok_of_length hr hrest
  have hcf : c = f.ptdaC := by rw [← hframe]
  rw [toNat_uint8OfNat] at hv hbyte
  omega

/-- Neither length mode of the codec round-trips: without a length field no frame is parsed at
all, and with one no frame whose `ptdaC` is `64` or more is read back. -/
theorem parsePRDatagramFrame_append_no_round_trip :
    (∀ f : PRDatagramFrame, f.dataLenPresent = false →
      ∃ e, parsePRDatagramFrame (f.append []) = err e) ∧
    ∀ (f : PRDatagramFrame) (rest : List UInt8), f.dataLenPresent = true →
      f.data.length < 2 ^ 62 → 64 ≤ f.ptdaC →
        parsePRDatagramFrame (f.append [] ++ rest) ≠ ok (f, rest) :=
  ⟨parsePRDatagramFrame_append_implicit, parsePRDatagramFrame_append_ptdaC⟩

/-- A datagram with a length field and `ptdaC = 64`: the parser runs out of bytes in the
two-byte varint that `byte(64)` starts. -/
example :
    parsePRDatagramFrame (({ dataLenPresent := true, ptda := 0x80, p := true, ptdaC := 64 } :
      PRDatagramFrame).append []) = err .eof := by
  decide

/-- Without a length field, the datagram carrying the byte `0` under the probability policy. -/
example :
    parsePRDatagramFrame (({ data := [0], ptda := 0x80, p := true } : PRDatagramFrame).append []) =
      err .unexpectedEOF := by
  decide

/-! ## Length and MaxDataLen leave out the policy bytes -/

namespace PRDatagramFrame

/-- The bytes `Append` writes: the type byte, the length field when present, the `PTDA` byte,
the byte of `ptdaC`, and the data. -/
theorem append_length (f : PRDatagramFrame) :
    (f.append []).length =
      1 + (if f.dataLenPresent then varintLen f.data.length else 0) + 2 + f.data.length := by
  rw [append_eq]
  cases f.dataLenPresent <;> simp <;> omega

/-- `Length` counts neither the `PTDA` byte nor the byte of `ptdaC`: it is two bytes short of
what `Append` writes, for every frame in either length mode. -/
theorem length_add_two (f : PRDatagramFrame) : f.length + 2 = (f.append []).length := by
  rw [append_length]
  cases h : f.dataLenPresent <;> simp [length, h] <;> omega

/-- The empty datagram without a length field: `Length` is `1` where `Append` writes three
bytes. -/
example : ({} : PRDatagramFrame).length = 1 ∧ (({} : PRDatagramFrame).append []).length = 3 := by
  decide

/-- A frame carrying `MaxDataLen(maxSize) > 0` bytes encodes to more than `maxSize` bytes: the
header `MaxDataLen` budgets for is the type byte and the length field only. -/
theorem budget_lt_append_length (f : PRDatagramFrame) (maxSize : Int)
    (hn : 0 < f.maxDataLen maxSize) (d : List UInt8) (hd : (d.length : Int) = f.maxDataLen maxSize) :
    maxSize < (({ f with data := d } : PRDatagramFrame).append []).length := by
  have h64 := varintLen_eq_one_iff (maxSize - 2).toNat
  have := varintLen_pos d.length
  rw [append_length]
  unfold maxDataLen at hn hd
  cases hdl : f.dataLenPresent <;> simp [hdl] at hn hd ⊢ <;> split_ifs at hn hd <;> omega

/-- `MaxDataLen` against the encoded size, for every frame and every budget: a frame carrying
`MaxDataLen(maxSize) > 0` bytes encodes to more than `maxSize` bytes, and when `MaxDataLen` is
`0` not even one data byte fits. -/
theorem maxDataLen_exceeds_budget (f : PRDatagramFrame) (maxSize : Int) :
    (0 < f.maxDataLen maxSize → ∀ d : List UInt8, (d.length : Int) = f.maxDataLen maxSize →
      maxSize < (({ f with data := d } : PRDatagramFrame).append []).length) ∧
    (f.maxDataLen maxSize = 0 → ∀ b : UInt8,
      maxSize < (({ f with data := [b] } : PRDatagramFrame).append []).length) := by
  refine ⟨budget_lt_append_length f maxSize, fun h0 _ => ?_⟩
  have h64 := varintLen_eq_one_iff (maxSize - 2).toNat
  have h1 : varintLen 1 = 1 := rfl
  rw [append_length]
  unfold maxDataLen at h0
  cases hdl : f.dataLenPresent <;> simp [hdl, h1] at h0 ⊢
  · omega
  · split_ifs at h0 <;> omega

/-- A packet buffer's budget for a datagram under the probability policy without a length
field: `MaxDataLen` is `1451`, and the frame carrying `1451` bytes is `1454` bytes long. -/
theorem maxDataLen_exceeds_budget_packet :
    ({ ptda := 0x80, p := true } : PRDatagramFrame).maxDataLen 1452 = 1451 ∧
      (1452 : Int) < (({ ({ ptda := 0x80, p := true } : PRDatagramFrame) with
        data := List.replicate 1451 0 } : PRDatagramFrame).append []).length :=
  ⟨by decide,
    (maxDataLen_exceeds_budget _ 1452).1 (by decide) _ (by rw [List.length_replicate]; decide)⟩

end PRDatagramFrame

/-! ## The PR parsers on untrusted input -/

/-- The datagram parser returns a frame or an error on every input. -/
theorem parsePRDatagramFrame_not_isPanic (r : List UInt8) :
    ¬(parsePRDatagramFrame r).IsPanic := by
  unfold parsePRDatagramFrame
  refine not_isPanic_bind (readByte_not_isPanic _) fun (_, r) => ?_
  dsimp only
  -- the length, read and checked against the reader, or taken from it
  split
  refine not_isPanic_bind (readVarint_not_isPanic _) fun (_, r) => ?_
  split
  -- from the length on: the PTDA byte, `ptdaC` and the data
  all_goals exact not_isPanic_bind (by simp [IsPanic]) fun _ =>
    not_isPanic_bind (readByte_not_isPanic _) fun _ =>
      not_isPanic_bind (readVarint_not_isPanic _) fun _ =>
        not_isPanic_bind (readFull_not_isPanic _ _) fun _ => not_isPanic_ok _

variable (pc : Protocol)

/-- The three PR parsers on arbitrary input.  The PR_DATAGRAM and PR_ACK_NOTIFY parsers return a
frame or an error on every input; the PR_STREAM parser returns a frame on none, and panics on
the nil frame pointer as soon as its header reads succeed, as on the two bytes `0x08 0x00` (a
STREAM type byte and stream `0`). -/
theorem pr_parsers_on_untrusted_input :
    (∀ r, ¬(parsePRDatagramFrame r).IsPanic) ∧ (∀ r, ¬(parsePRAckNotifyFrame r).IsPanic) ∧
      (∀ r x, parsePRStreamFrame pc r ≠ ok x) ∧
      parsePRStreamFrame pc [0x08, 0x00] = .panic nilDereference :=
  ⟨parsePRDatagramFrame_not_isPanic, parsePRAckNotifyFrame_not_isPanic,
    parsePRStreamFrame_ne_ok pc, rfl⟩

end PrQuic.Wire
