import Mathlib.Data.Finmap

/-!
# C conventions shared by the driver and the i915 backend

Negative `errno` statuses, the two build switches the sources test with
`#ifdef`, the GPU topology the driver hands the backend, the resources a
call acquires and releases, and the `ALIGN` and `DIV_ROUND_UP` macros of `util.h` over
fixed-width words. `util.h` is not part of the sources; the macros are
written as it defines them, and the one fact the layout proofs need,
that `ALIGN` by a power of two clears the low bits, is proved here once.
-/

namespace Minigbm

/-- An `errno` value after a failed call: always positive, so `-errno`
is a negative status. -/
structure Errno where
  val : Nat
  pos : 0 < val
  deriving DecidableEq, Repr

def Errno.neg (e : Errno) : Int := -(e.val : Int)

theorem Errno.neg_lt_zero (e : Errno) : e.neg < 0 := by
  have := e.pos
  simp only [Errno.neg]
  omega

def ENOMEM : Errno := ⟨12, by decide⟩
def EFAULT : Errno := ⟨14, by decide⟩
def ENODEV : Errno := ⟨19, by decide⟩
def EINVAL : Errno := ⟨22, by decide⟩

/-- The `#ifdef` switches the two sources are compiled under. -/
structure BuildConfig where
  useGralloc1 : Bool
  i915ScanoutYTiled : Bool
  deriving DecidableEq, Repr

/-- `drv->gpu_grp_type`, the GPU topology `cros_gralloc_driver::init` hands
to `drv_init`: the enumerators of `drv.h`, which is not part of the sources,
and `unset` for the 0 `init` starts from and keeps with four or more render
nodes. -/
inductive GpuGrpType
  | unset
  | oneGpuIntel
  | oneGpuVirtio
  | twoGpuIgpuVirtio
  | twoGpuIgpuDgpu
  | threeGpuIgpuVirtioDgpu
  deriving DecidableEq, Repr

/-- A kernel object or descriptor a call can leave behind: an open file
descriptor or a live GEM handle. -/
inductive Resource
  | fd (n : Int)
  | gem (handle : BitVec 32)
  deriving DecidableEq, Repr

/-- What a call does to the process's resources, in order. -/
inductive ResourceEvent
  | acquire (r : Resource)
  | release (r : Resource)
  deriving DecidableEq, Repr

/-- The resources a sequence of events leaves held, by how many acquisitions
outnumber releases. -/
def ResourceEvent.held (events : List ResourceEvent) (r : Resource) : Int :=
  (events.count (.acquire r) : Int) - events.count (.release r)

namespace ResourceEvent

@[simp] theorem held_nil (r : Resource) : held [] r = 0 := rfl

@[simp] theorem held_cons (e : ResourceEvent) (events : List ResourceEvent) (r : Resource) :
    held (e :: events) r =
      (if e = .acquire r then 1 else 0) - (if e = .release r then 1 else 0) + held events r := by
  simp only [held, List.count_cons, beq_iff_eq]
  split <;> split <;> simp_all <;> omega

@[simp] theorem held_append (l₁ l₂ : List ResourceEvent) (r : Resource) :
    held (l₁ ++ l₂) r = held l₁ r + held l₂ r := by
  simp only [held, List.count_append]
  omega

end ResourceEvent

-- ---------------------------------------------------------------------------
-- util.h
-- ---------------------------------------------------------------------------

/-- `ALIGN(A, B)`: `((A) + (B)-1) & ~((B)-1)` in the width of its operands. -/
def align (a b : BitVec w) : BitVec w := (a + (b - 1)) &&& ~~~(b - 1)

/-- `DIV_ROUND_UP(n, d)`: `((n) + (d)-1) / (d)`. -/
def divRoundUp (n d : BitVec w) : BitVec w := (n + (d - 1)) / d

theorem and_not_low_mask_toNat (x : BitVec w) (k : Nat) :
    (x &&& ~~~(BitVec.ofNat w (2 ^ k - 1))).toNat = x.toNat / 2 ^ k * 2 ^ k := by
  apply Nat.eq_of_testBit_eq
  intro i
  rw [← Nat.shiftRight_eq_div_pow, ← Nat.shiftLeft_eq, Nat.testBit_shiftLeft,
    Nat.testBit_shiftRight]
  change (x &&& _).getLsbD i = _
  by_cases hik : k ≤ i
  · rw [Nat.add_sub_cancel' hik]
    by_cases hi : i < w
    · simp [BitVec.getLsbD_ofNat, hi, hik, show ¬ i < k by omega]
      rfl
    · simp [hi, hik, BitVec.getLsbD_ge x i (by omega), BitVec.testBit_toNat]
  · simp [BitVec.getLsbD_ofNat, hik, show i < k by omega]

section
variable {a b : BitVec w} {k : Nat}

theorem align_mod (hb : b - 1 = BitVec.ofNat w (2 ^ k - 1)) : (align a b).toNat % 2 ^ k = 0 := by
  rw [align, hb, and_not_low_mask_toNat]
  exact Nat.mul_mod_left _ _

theorem align_toNat (hb : b - 1 = BitVec.ofNat w (2 ^ k - 1)) (hw : a.toNat + (2 ^ k - 1) < 2 ^ w) :
    (align a b).toNat = (a.toNat + (2 ^ k - 1)) / 2 ^ k * 2 ^ k := by
  rw [align, hb, and_not_low_mask_toNat, BitVec.toNat_add, BitVec.toNat_ofNat,
    Nat.mod_eq_of_lt (show 2 ^ k - 1 < 2 ^ w by omega), Nat.mod_eq_of_lt hw]

end

end Minigbm
