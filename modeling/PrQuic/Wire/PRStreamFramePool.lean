import PrQuic.Wire.PRStreamFrame

/-!
# Pooled PR_STREAM buffers

`GetPRStreamFrame` takes a frame from a pool whose buffers have capacity `MaxPacketBufferSize`
(`part_004`), and `PutBack` returns it through `putPRStreamFrame`, which panics on a pooled
frame whose buffer has any other capacity.  Pooling and capacity travel together:
`MaybeSplitOffFrame` swaps the data slices of the frame it splits and of a fresh pooled one, and
`fromPool` with them.  So a frame from the pool keeps its capacity (`PRStreamFrame.KeepsPoolCap`),
both halves of a split keep it when the frame split does, and `PutBack` returns exactly on the
frames that keep it.
-/

namespace PrQuic.Wire

open GoResult

variable (pc : Protocol)

/-- A pooled frame's buffer has the pool's capacity, the one `putPRStreamFrame` checks. -/
def PRStreamFrame.KeepsPoolCap (f : PRStreamFrame) : Prop :=
  f.fromPool = true → f.cap = pc.maxPacketBufferSize

instance (f : PRStreamFrame) : Decidable (f.KeepsPoolCap pc) :=
  inferInstanceAs (Decidable (_ → _))

namespace PRStreamFrame

theorem getPRStreamFrame_keepsPoolCap : (getPRStreamFrame pc).KeepsPoolCap pc := fun _ => rfl

/-- The parser returns no frame at all: it dereferences its nil frame pointer first. -/
theorem parsePRStreamFrame_keepsPoolCap {r : List UInt8} {x : PRStreamFrame × List UInt8}
    (h : parsePRStreamFrame pc r = ok x) : x.1.KeepsPoolCap pc :=
  absurd h (parsePRStreamFrame_ne_ok pc r x)

/-- The halves of a split: the head takes the split frame's buffer with its `fromPool`, and
what stays behind takes the fresh pooled buffer. -/
theorem maybeSplitOffFrame_keepsPoolCap {f : PRStreamFrame} {maxSize : Int}
    {head? : Option PRStreamFrame} {split : Bool} {tail : PRStreamFrame}
    (hf : f.KeepsPoolCap pc) (h : f.maybeSplitOffFrame pc maxSize = ok (head?, split, tail)) :
    (∀ head ∈ head?, head.KeepsPoolCap pc) ∧ tail.KeepsPoolCap pc := by
  simp only [maybeSplitOffFrame] at h
  split_ifs at h <;> cases h
  · exact ⟨fun _ h => (nomatch h), hf⟩
  · exact ⟨fun _ h => (nomatch h), hf⟩
  · exact ⟨fun _ h => Option.some.inj h ▸ hf, fun _ => rfl⟩

/-- `PutBack` returns exactly on the frames that keep the pool's capacity, and panics with the
wrong-size message on the others. -/
theorem putBack_eq_ok_iff (f : PRStreamFrame) : f.putBack pc = ok () ↔ f.KeepsPoolCap pc := by
  unfold putBack putPRStreamFrame KeepsPoolCap
  cases f.fromPool <;> by_cases hc : f.cap = pc.maxPacketBufferSize <;> simp [hc]

end PRStreamFrame

section Properties

/-- The pool's capacity along the operations that hand out PR_STREAM frames: the pool's frame
keeps it, every frame the parser returns keeps it, a split of a frame that keeps it yields two
halves that keep it, and `PutBack` of a frame that keeps it returns without the wrong-size
panic. -/
theorem pooled_buffers_keep_capacity :
    (getPRStreamFrame pc).KeepsPoolCap pc ∧
      (∀ r x, parsePRStreamFrame pc r = ok x → x.1.KeepsPoolCap pc) ∧
      (∀ (f : PRStreamFrame) (maxSize : Int) head? split tail, f.KeepsPoolCap pc →
        f.maybeSplitOffFrame pc maxSize = ok (head?, split, tail) →
          (∀ head ∈ head?, head.KeepsPoolCap pc) ∧ tail.KeepsPoolCap pc) ∧
      ∀ f : PRStreamFrame, f.KeepsPoolCap pc → f.putBack pc = ok () :=
  ⟨PRStreamFrame.getPRStreamFrame_keepsPoolCap pc,
    fun _ _ => PRStreamFrame.parsePRStreamFrame_keepsPoolCap pc,
    fun _ _ _ _ _ => PRStreamFrame.maybeSplitOffFrame_keepsPoolCap pc,
    fun f => (f.putBack_eq_ok_iff pc).mpr⟩

end Properties

end PrQuic.Wire
