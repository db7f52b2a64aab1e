import PrQuic.Stream.Steps

/-!
# What a run shows

A run's log records what the stream showed the outside world.  The functions here read it: the
bytes `Write` accepted, the frames popped (all of them, or only those a pop originated), the
frames acknowledged, and the calls of `onStreamCompleted`.  Their simp lemmas read one step's
entries, so that the invariants never unfold a log.  A run that loses a frame and pops it again
in halves closes the module; the properties are shown on it.
-/

namespace PrQuic.Stream

open Wire GoResult

namespace Observation

/-- The bytes a returned `Write(p)` accepted: `p[0:n]`. -/
@[simp] def acceptedBytes : Observation → List UInt8
  | writeReturned p n _ => p.take n
  | upcall _ | popped _ _ _ | closeReturned _ | acked _ | lost _ => []

/-- The frame a pop returned. -/
@[simp] def poppedFrame : Observation → Option OutFrame
  | popped f _ _ => f
  | upcall _ | writeReturned _ _ _ | closeReturned _ | acked _ | lost _ => none

/-- The frame a pop originated: one it did not take from the retransmission queue. -/
@[simp] def newFrame : Observation → Option OutFrame
  | popped f _ retransmitted => if retransmitted then none else f
  | upcall _ | writeReturned _ _ _ | closeReturned _ | acked _ | lost _ => none

/-- The frame whose `OnAcked` ran. -/
@[simp] def ackedFrame : Observation → Option OutFrame
  | acked f => some f
  | upcall _ | popped _ _ _ | writeReturned _ _ _ | closeReturned _ | lost _ => none

end Observation

/-- The bytes the returned `Write` calls accepted, in call order. -/
def accepted (log : List Observation) : List UInt8 :=
  log.flatMap Observation.acceptedBytes

/-- Every frame the pops returned, in order. -/
def poppedFrames (log : List Observation) : List OutFrame :=
  log.filterMap Observation.poppedFrame

/-- The frames the pops originated, in order. -/
def newFrames (log : List Observation) : List OutFrame :=
  log.filterMap Observation.newFrame

/-- The bytes of the originated frames, one after another. -/
def newData (log : List Observation) : List UInt8 :=
  (newFrames log).flatMap OutFrame.data

/-- The frames acknowledged so far. -/
def ackedFrames (log : List Observation) : List OutFrame :=
  log.filterMap Observation.ackedFrame

/-- How many times a run has called `onStreamCompleted`. -/
def completions (log : List Observation) : Nat :=
  log.count (.upcall .onStreamCompleted)

section Simp

variable (o : Observation) (l l₁ l₂ : List Observation)

@[simp] theorem accepted_nil : accepted [] = [] := rfl
@[simp] theorem accepted_cons : accepted (o :: l) = o.acceptedBytes ++ accepted l := rfl
@[simp] theorem accepted_append : accepted (l₁ ++ l₂) = accepted l₁ ++ accepted l₂ :=
  List.flatMap_append ..

@[simp] theorem poppedFrames_nil : poppedFrames [] = [] := rfl
@[simp] theorem poppedFrames_cons :
    poppedFrames (o :: l) = o.poppedFrame.toList ++ poppedFrames l := by
  cases h : o.poppedFrame <;>
    simp only [poppedFrames, List.filterMap_cons, h, Option.toList, List.nil_append, List.singleton_append]
@[simp] theorem poppedFrames_append :
    poppedFrames (l₁ ++ l₂) = poppedFrames l₁ ++ poppedFrames l₂ :=
  List.filterMap_append ..

@[simp] theorem newFrames_nil : newFrames [] = [] := rfl
@[simp] theorem newFrames_cons :
    newFrames (o :: l) = o.newFrame.toList ++ newFrames l := by
  cases h : o.newFrame <;>
    simp only [newFrames, List.filterMap_cons, h, Option.toList, List.nil_append, List.singleton_append]
@[simp] theorem newFrames_append :
    newFrames (l₁ ++ l₂) = newFrames l₁ ++ newFrames l₂ :=
  List.filterMap_append ..

@[simp] theorem newData_nil : newData [] = [] := rfl
@[simp] theorem newData_cons :
    newData (o :: l) = (o.newFrame.map OutFrame.data).getD [] ++ newData l := by
  simp only [newData, newFrames_cons, List.flatMap_append]
  cases o.newFrame <;> simp
@[simp] theorem newData_append : newData (l₁ ++ l₂) = newData l₁ ++ newData l₂ := by
  simp [newData]

@[simp] theorem ackedFrames_nil : ackedFrames [] = [] := rfl
@[simp] theorem ackedFrames_cons :
    ackedFrames (o :: l) = o.ackedFrame.toList ++ ackedFrames l := by
  cases h : o.ackedFrame <;>
    simp only [ackedFrames, List.filterMap_cons, h, Option.toList, List.nil_append, List.singleton_append]
@[simp] theorem ackedFrames_append :
    ackedFrames (l₁ ++ l₂) = ackedFrames l₁ ++ ackedFrames l₂ :=
  List.filterMap_append ..

@[simp] theorem completions_nil : completions [] = 0 := rfl
@[simp] theorem completions_cons :
    completions (o :: l) = completions l + if o = .upcall .onStreamCompleted then 1 else 0 := by
  simp [completions, List.count_cons]
@[simp] theorem completions_append : completions (l₁ ++ l₂) = completions l₁ + completions l₂ :=
  List.count_append ..

@[simp] theorem accepted_map_upcall (ups : List Upcall) : accepted (ups.map .upcall) = [] := by
  induction ups <;> simp_all

@[simp] theorem poppedFrames_map_upcall (ups : List Upcall) :
    poppedFrames (ups.map .upcall) = [] := by
  induction ups <;> simp_all

@[simp] theorem newFrames_map_upcall (ups : List Upcall) : newFrames (ups.map .upcall) = [] := by
  induction ups <;> simp_all

@[simp] theorem newData_map_upcall (ups : List Upcall) : newData (ups.map .upcall) = [] := by
  simp [newData]

@[simp] theorem ackedFrames_map_upcall (ups : List Upcall) :
    ackedFrames (ups.map .upcall) = [] := by
  induction ups <;> simp_all

end Simp

/-! ## The log of a pass of `Write` -/

section WritePass

variable (s : Sys) (p : List UInt8) (first : Bool) (r : SendStream × WriteStep)

/-- A pass of `Write` appends entries that originate no frame. -/
theorem afterWritePass_log :
    ∃ M, (s.afterWritePass p first r).log = s.log ++ M ∧ newFrames M = [] := by
  rcases r with ⟨st, _ | _ | _⟩ <;> cases first <;> exact ⟨_, rfl, by simp⟩

@[simp] theorem poppedFrames_afterWritePass :
    poppedFrames (s.afterWritePass p first r).log = poppedFrames s.log := by
  rcases r with ⟨st, _ | _ | _⟩ <;> cases first <;> simp [Sys.afterWritePass]

@[simp] theorem newFrames_afterWritePass :
    newFrames (s.afterWritePass p first r).log = newFrames s.log := by
  rcases r with ⟨st, _ | _ | _⟩ <;> cases first <;> simp [Sys.afterWritePass]

@[simp] theorem newData_afterWritePass :
    newData (s.afterWritePass p first r).log = newData s.log := by
  simp [newData]

@[simp] theorem ackedFrames_afterWritePass :
    ackedFrames (s.afterWritePass p first r).log = ackedFrames s.log := by
  rcases r with ⟨st, _ | _ | _⟩ <;> cases first <;> simp [Sys.afterWritePass]

@[simp] theorem completions_afterWritePass :
    completions (s.afterWritePass p first r).log = completions s.log := by
  rcases r with ⟨st, _ | _ | _⟩ <;> cases first <;> simp [Sys.afterWritePass]

end WritePass

/-- Three bytes popped as two frames under a two-byte window; the first frame is lost and popped
again in two halves under a 13-byte budget, then `Close`, the FIN's pop, and the acknowledgement
of the first half. -/
def halvedRetransmission : List Event :=
  [.write [0, 1, 2], .pop 1452 2, .pop 1452 4, .lost 0 0, .pop 13 4, .pop 1452 4, .close,
    .pop 1452 4, .acked 1]

end PrQuic.Stream
