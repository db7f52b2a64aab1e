import Mathlib.Tactic.Ring
import Mathlib.Tactic.NormNum.Basic
import Mathlib.Tactic.Positivity.Basic

/-!
# Go results, byte readers and QUIC variable-length integers

The wire code reads frames from a `*bytes.Reader`, modelled by the bytes it still holds, and
writes them by appending to a byte slice; a Go call ends in its results, a non-nil `error`, or a
runtime panic (`GoResult`).  The `quicvarint` package is not in the sources: its length, writer
and reader follow the QUIC variable-length integer encoding the spec refers to, with the round
trip `readVarint_varintBytes`.  The PR frames' policy byte `PTDA` has its high nibble read as one
of the flags `P`, `T`, `D`, `A` (`policyFlag`).
-/

namespace PrQuic

/-- The constants of the `protocol` package that the modelled code reads.  The package is not
part of the sources, so the model takes them as parameters.  A packet buffer is shorter than
`2^14` bytes, so the length of a frame that fits one takes at most a two-byte varint. -/
structure Protocol where
  maxPacketBufferSize : Nat
  minStreamFrameBufferSize : Nat
  maxByteCount : Nat
  maxPacketBufferSize_lt : maxPacketBufferSize < 2 ^ 14

/-- The constants of quic-go's `protocol` package. -/
def Protocol.quicGo : Protocol := ⟨1452, 128, 2 ^ 62 - 1, by decide⟩

/-- A non-nil `error` returned by the wire code. -/
inductive GoError where
  | eof
  | unexpectedEOF
  | msg (text : String)
  deriving DecidableEq, Repr

/-- How a Go call ends: with its results, with a non-nil `error`, or with a runtime panic. -/
inductive GoResult (α : Type) where
  | ok (a : α)
  | err (e : GoError)
  | panic (msg : String)
  deriving DecidableEq, Repr

namespace GoResult

variable {α β : Type}

def bind : GoResult α → (α → GoResult β) → GoResult β
  | ok a, f => f a
  | err e, _ => err e
  | panic m, _ => panic m

instance : Monad GoResult where
  pure := ok
  bind := bind

@[simp] theorem pure_eq (a : α) : (pure a : GoResult α) = ok a := rfl

@[simp] theorem ok_bind (a : α) (f : α → GoResult β) : (ok a >>= f) = f a := rfl

@[simp] theorem err_bind (e : GoError) (f : α → GoResult β) : (err e >>= f) = err e := rfl

@[simp] theorem panic_bind (m : String) (f : α → GoResult β) :
    (panic m >>= f) = panic m := rfl

theorem bind_eq_ok {x : GoResult α} {f : α → GoResult β} {b : β} :
    x >>= f = ok b ↔ ∃ a, x = ok a ∧ f a = ok b := by
  cases x <;> simp

@[simp] theorem map_ok (f : α → β) (a : α) : (f <$> ok a : GoResult β) = ok (f a) := rfl

@[simp] theorem map_panic (f : α → β) (m : String) : (f <$> panic m : GoResult β) = panic m :=
  rfl

theorem map_eq_ok {x : GoResult α} {f : α → β} {b : β} :
    f <$> x = ok b ↔ ∃ a, x = ok a ∧ f a = b := by
  cases x <;> simp [Functor.map, bind]

/-- The call panicked. -/
def IsPanic : GoResult α → Prop
  | panic _ => True
  | _ => False

@[simp] theorem not_isPanic_ok (a : α) : ¬(ok a).IsPanic := id

@[simp] theorem not_isPanic_err (e : GoError) : ¬(err e : GoResult α).IsPanic := id

/-- A computation panics when its first step does, or when the step it continues with after
the first one returns does. -/
theorem isPanic_bind {x : GoResult α} {f : α → GoResult β} :
    (x >>= f).IsPanic ↔ x.IsPanic ∨ ∃ a, x = ok a ∧ (f a).IsPanic := by
  cases x <;> simp [IsPanic]

@[simp] theorem isPanic_map {x : GoResult α} {f : α → β} : (f <$> x).IsPanic ↔ x.IsPanic := by
  cases x <;> exact Iff.rfl

/-- A computation whose first step never panics, and whose continuation never does on any
value, never panics. -/
theorem not_isPanic_bind {x : GoResult α} {f : α → GoResult β} (hx : ¬x.IsPanic)
    (hf : ∀ a, ¬(f a).IsPanic) : ¬(x >>= f).IsPanic := fun h =>
  (isPanic_bind.mp h).elim hx fun ⟨a, _, ha⟩ => hf a ha

end GoResult

open GoResult

/-- The message of a nil pointer dereference. -/
def nilDereference : String := "invalid memory address or nil pointer dereference"

/-- Reading or writing a field through a Go pointer that may be nil. -/
def deref {α : Type} : Option α → GoResult α
  | some a => ok a
  | none => .panic nilDereference

@[simp] theorem deref_eq_ok {α : Type} {o : Option α} {a : α} : deref o = ok a ↔ o = some a := by
  cases o <;> simp [deref]

/-! ## Readers -/

/-- `(*bytes.Reader).ReadByte` on a reader that holds `r`. -/
def readByte : List UInt8 → GoResult (UInt8 × List UInt8)
  | [] => err .eof
  | b :: r => ok (b, r)

/-- `n` successive `ReadByte` calls, each of whose errors is returned as it is. -/
def readBytes : Nat → List UInt8 → GoResult (List UInt8 × List UInt8)
  | 0, r => ok ([], r)
  | n + 1, r => do
    let (b, r) ← readByte r
    let (bs, r) ← readBytes n r
    pure (b :: bs, r)

/-- `io.ReadFull(r, buf)` with `len(buf) = n`: the bytes read into `buf` and what is left. -/
def readFull (n : Nat) (r : List UInt8) : GoResult (List UInt8 × List UInt8) :=
  if n ≤ r.length then ok (r.take n, r.drop n)
  else if r = [] then err .eof else err .unexpectedEOF

@[simp] theorem readByte_cons (b : UInt8) (r : List UInt8) : readByte (b :: r) = ok (b, r) :=
  rfl

/-- `readBytes n` hands out the first `n` bytes and leaves the rest. -/
theorem readBytes_eq_ok {n : Nat} {r bs r' : List UInt8} (h : readBytes n r = ok (bs, r')) :
    r = bs ++ r' ∧ bs.length = n := by
  induction n generalizing r bs with
  | zero =>
    obtain ⟨rfl, rfl⟩ := Prod.mk.inj (ok.inj h)
    simp
  | succ n ih =>
    cases r with
    | nil => cases h
    | cons b r =>
      simp only [readBytes, readByte_cons, ok_bind] at h
      obtain ⟨⟨bs', r''⟩, hbs, hv⟩ := bind_eq_ok.mp h
      obtain ⟨rfl, rfl⟩ := Prod.mk.inj (ok.inj hv)
      obtain ⟨rfl, rfl⟩ := ih hbs
      simp

theorem readByte_not_isPanic (r : List UInt8) : ¬(readByte r).IsPanic := by
  cases r <;> simp [readByte]

theorem readBytes_not_isPanic (n : Nat) (r : List UInt8) : ¬(readBytes n r).IsPanic := by
  induction n generalizing r with
  | zero => exact not_isPanic_ok _
  | succ n ih => simp [readBytes, isPanic_bind, readByte_not_isPanic, ih]

theorem readFull_not_isPanic (n : Nat) (r : List UInt8) : ¬(readFull n r).IsPanic := by
  unfold readFull; split_ifs <;> simp

/-- `io.ReadFull` succeeds exactly when the reader holds the whole buffer. -/
theorem readFull_eq_ok {n : Nat} {r bs r' : List UInt8} (h : readFull n r = ok (bs, r')) :
    n ≤ r.length ∧ bs = r.take n ∧ r' = r.drop n := by
  unfold readFull at h
  split_ifs at h with hn
  · obtain ⟨rfl, rfl⟩ := Prod.mk.inj (ok.inj h)
    exact ⟨hn, rfl, rfl⟩

theorem readFull_eq_err {n : Nat} {r : List UInt8} (h : r.length < n) :
    ∃ e, readFull n r = err e := by
  unfold readFull
  split_ifs <;> first | omega | exact ⟨_, rfl⟩

theorem readBytes_append (bs r : List UInt8) :
    readBytes bs.length (bs ++ r) = ok (bs, r) := by
  induction bs with
  | nil => rfl
  | cons b bs ih => simp [readBytes, ih]

theorem readFull_append (bs r : List UInt8) :
    readFull bs.length (bs ++ r) = ok (bs, r) := by
  simp [readFull]

/-! ## Variable-length integers -/

/-- Modelled from the spec: `quicvarint.Len`, the encoded size of a QUIC variable-length
integer.  From `2^62` on the Go function panics; such values are not encodable. -/
def varintLen (v : Nat) : Nat :=
  if v < 2 ^ 6 then 1 else if v < 2 ^ 14 then 2 else if v < 2 ^ 30 then 4 else 8

theorem varintLen_eq_one_iff (v : Nat) : varintLen v = 1 ↔ v < 2 ^ 6 := by
  unfold varintLen; split_ifs <;> simp_all

theorem varintLen_le_two (v : Nat) (h : v < 2 ^ 14) : varintLen v ≤ 2 := by
  unfold varintLen; split_ifs <;> omega

theorem varintLen_le_eight (v : Nat) : varintLen v ≤ 8 := by
  unfold varintLen; split_ifs <;> omega

/-- The `n` low bytes of `x`, most significant first. -/
def bigEndian : Nat → Nat → List UInt8
  | 0, _ => []
  | n + 1, x => UInt8.ofNat (x / 256 ^ n) :: bigEndian n x

/-- The number whose bytes, most significant first, are `bs`. -/
def ofBigEndian : List UInt8 → Nat
  | [] => 0
  | b :: bs => b.toNat * 256 ^ bs.length + ofBigEndian bs

/-- Modelled from the spec: the bytes of a QUIC variable-length integer.  The first byte's two
high bits are the binary logarithm of the length: `00` one byte, `01` two, `10` four, `11`
eight. -/
def varintBytes (v : Nat) : List UInt8 :=
  if v < 2 ^ 6 then bigEndian 1 v
  else if v < 2 ^ 14 then bigEndian 2 (v + 1 * 2 ^ 14)
  else if v < 2 ^ 30 then bigEndian 4 (v + 2 * 2 ^ 30)
  else bigEndian 8 (v + 3 * 2 ^ 62)

/-- Modelled from the spec: `quicvarint.Append`. -/
def appendVarint (b : List UInt8) (v : Nat) : List UInt8 :=
  b ++ varintBytes v

/-- Modelled from the spec: `quicvarint.Read`. -/
def readVarint (r : List UInt8) : GoResult (Nat × List UInt8) := do
  let (firstByte, r) ← readByte r
  let len := 2 ^ (firstByte.toNat / 64)
  let (rest, r) ← readBytes (len - 1) r
  pure (firstByte.toNat % 64 * 256 ^ (len - 1) + ofBigEndian rest, r)

theorem toNat_uint8OfNat (n : Nat) : (UInt8.ofNat n).toNat = n % 256 := rfl

theorem readVarint_not_isPanic (r : List UInt8) : ¬(readVarint r).IsPanic := by
  simp [readVarint, isPanic_bind, readByte_not_isPanic, readBytes_not_isPanic]

/-- What `readVarint` consumes: a first byte whose two high bits give the number of bytes
that follow it. -/
theorem readVarint_eq_ok {r r' : List UInt8} {v : Nat} (h : readVarint r = ok (v, r')) :
    ∃ b bs, r = b :: (bs ++ r') ∧ bs.length = 2 ^ (b.toNat / 64) - 1 ∧
      v = b.toNat % 64 * 256 ^ bs.length + ofBigEndian bs := by
  cases r with
  | nil => cases h
  | cons b r =>
    simp only [readVarint, readByte_cons, ok_bind] at h
    obtain ⟨⟨bs, r''⟩, hbs, hv⟩ := bind_eq_ok.mp h
    obtain ⟨rfl, hlen⟩ := readBytes_eq_ok hbs
    obtain ⟨rfl, rfl⟩ := Prod.mk.inj (ok.inj hv)
    exact ⟨b, bs, rfl, hlen, by rw [hlen]⟩

/-- A varint that ends after its first byte is that byte, which is below `64`. -/
theorem readVarint_eq_ok_of_length {b : UInt8} {r r' : List UInt8} {v : Nat}
    (h : readVarint (b :: r) = ok (v, r')) (hlen : r'.length = r.length) :
    v = b.toNat ∧ b.toNat < 64 := by
  obtain ⟨b', bs, hr, hbs, rfl⟩ := readVarint_eq_ok h
  obtain ⟨rfl, rfl⟩ := List.cons.inj hr
  obtain rfl : bs = [] := List.eq_nil_of_length_eq_zero (by simpa using hlen)
  have hlow : b.toNat / 64 = 0 := by
    by_contra hk
    have := Nat.one_lt_two_pow hk
    simp at hbs; omega
  have : b.toNat < 64 := by omega
  simp [ofBigEndian, Nat.mod_eq_of_lt this, this]

@[simp] theorem bigEndian_length (n x : Nat) : (bigEndian n x).length = n := by
  induction n with
  | zero => rfl
  | succ n ih => simp [bigEndian, ih]

theorem ofBigEndian_bigEndian (n x : Nat) : ofBigEndian (bigEndian n x) = x % 256 ^ n := by
  induction n with
  | zero => simp [bigEndian, ofBigEndian, Nat.mod_one]
  | succ n ih =>
    simp only [bigEndian, ofBigEndian, bigEndian_length, ih, toNat_uint8OfNat]
    rw [Nat.mod_pow_succ]
    ring

@[simp] theorem varintLen_pos (v : Nat) : 0 < varintLen v := by
  unfold varintLen
  split_ifs <;> omega

/-- The reader undoes an encoding of `m + 1` bytes whose two tag bits hold `k`, when
`m + 1 = 2 ^ k` and the value fits the remaining `8 m + 6` bits. -/
theorem readVarint_bigEndian_tagged (m k v : Nat) (r : List UInt8) (hk : k < 4)
    (hm : 2 ^ k = m + 1) (hv : v < 2 ^ (8 * m + 6)) :
    readVarint (bigEndian (m + 1) (v + k * 2 ^ (8 * m + 6)) ++ r) = ok (v, r) := by
  have hpow : 2 ^ (8 * m + 6) = 64 * 256 ^ m := by
    rw [pow_add, pow_mul, mul_comm]; rfl
  have hbase : 0 < 256 ^ m := Nat.pos_pow_of_pos m (by decide)
  have hlow : v / 256 ^ m < 64 := by
    rw [Nat.div_lt_iff_lt_mul hbase]; omega
  have hfirst : (v + k * 2 ^ (8 * m + 6)) / 256 ^ m = v / 256 ^ m + k * 64 := by
    rw [hpow, ← Nat.mul_assoc, Nat.add_mul_div_right _ _ hbase]
  have htag : (v / 256 ^ m + k * 64) % 256 / 64 = k := by
    generalize v / 256 ^ m = a at hlow; omega
  have hval : (v / 256 ^ m + k * 64) % 256 % 64 = v / 256 ^ m := by
    generalize v / 256 ^ m = a at hlow; omega
  have hrest : (v + k * 2 ^ (8 * m + 6)) % 256 ^ m = v % 256 ^ m := by
    rw [hpow, ← Nat.mul_assoc, Nat.add_mul_mod_self_right]
  have hbytes := readBytes_append (bigEndian m (v + k * 2 ^ (8 * m + 6))) r
  simp only [bigEndian_length] at hbytes
  simp only [readVarint, bigEndian, List.cons_append, readByte_cons, ok_bind,
    toNat_uint8OfNat, hfirst, htag, hm, Nat.add_sub_cancel, hbytes, hval,
    ofBigEndian_bigEndian, hrest, pure_eq]
  rw [Nat.div_add_mod']

/-- Round trip of the varint codec. -/
theorem readVarint_varintBytes (r : List UInt8) (v : Nat) (hv : v < 2 ^ 62) :
    readVarint (varintBytes v ++ r) = ok (v, r) := by
  unfold varintBytes
  split_ifs with h1 h2 h3
  · simpa using readVarint_bigEndian_tagged 0 0 v r (by omega) rfl (by simpa using h1)
  · simpa using readVarint_bigEndian_tagged 1 1 v r (by omega) rfl (by simpa using h2)
  · simpa using readVarint_bigEndian_tagged 3 2 v r (by omega) rfl (by simpa using h3)
  · simpa using readVarint_bigEndian_tagged 7 3 v r (by omega) rfl (by simpa using hv)

@[simp] theorem varintBytes_length (v : Nat) : (varintBytes v).length = varintLen v := by
  unfold varintBytes varintLen
  split_ifs <;> simp

/-! ## The policy byte -/

/-- One case of the `switch PTDA&0xf0` of the PR parsers: the flag of the policy whose value is
`nibble` (`0x80` P, `0x40` T, `0x20` D, `0x10` A) is set when the high nibble of `PTDA` is
that value. -/
def policyFlag (ptda nibble : UInt8) : Bool :=
  ptda &&& 0xf0 == nibble

/-- The flags `P`, `T`, `D`, `A` are the ones the high nibble of `ptda` selects: the one flag
of `0x80`, `0x40`, `0x20` or `0x10`, and none for any other nibble. -/
def PolicyFlagsMatch (ptda : UInt8) (p t d a : Bool) : Prop :=
  p = policyFlag ptda 0x80 ∧ t = policyFlag ptda 0x40 ∧ d = policyFlag ptda 0x20 ∧
    a = policyFlag ptda 0x10

instance (ptda : UInt8) (p t d a : Bool) : Decidable (PolicyFlagsMatch ptda p t d a) :=
  inferInstanceAs (Decidable (_ ∧ _))

end PrQuic
