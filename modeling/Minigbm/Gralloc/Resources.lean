import Minigbm.Gralloc.Driver
import Minigbm.I915.Gem

/-!
# What a failed allocate leaves held

A failed `allocate` destroys the bo it created, but when `ftruncate` of the
reserved region fails, `create_reserved_region` returns the error without
closing the memfd it just created, and nothing after it does: the fd stays
open (`reserved_region_fd_leaks`).
-/

namespace Minigbm.Gralloc

open Minigbm

theorem reservedRegionOf_held_gem (w : World) (d : BufferDescriptor) (h : BitVec 32) :
    ResourceEvent.held (reservedRegionOf w d).2 (.gem h) = 0 := by
  unfold reservedRegionOf createReservedRegion
  split_ifs
  · dsimp only
    split
    · rfl
    · split <;> simp
  · rfl

theorem allocate_failure_releases_gem (c : Config) (w : World) (d : BufferDescriptor) (p : Process)
    (hs : (allocate c w d p).status < 0) (h : BitVec 32) :
    ResourceEvent.held (allocate c w d p).events (.gem h) = 0 := by
  unfold allocate at hs ⊢
  rcases hb : w.drvBoCreate (allocateBoRequest c d) with _ | bo
  · rfl
  · simp only [hb] at hs ⊢
    split_ifs at hs ⊢
    · simp
    · have hr := reservedRegionOf_held_gem w d h
      rcases hreg : reservedRegionOf w d with ⟨_ | fd, evs⟩ <;> simp only [hreg] at hs hr ⊢
      · simp [hr]
      · simp at hs

/-- When `ftruncate` of the reserved region fails, the failed `allocate`
leaves the memfd open. Every other cleanup the call owes holds: a failed
`allocate` holds no GEM handle, and failed `i915_bo_create_from_metadata`
and `i915_bo_import` hold nothing. -/
theorem reserved_region_fd_leaks (c : Config) (w : World) (d : BufferDescriptor) (p : Process)
    {bo : Bo} {fd : Nat} {e : Errno} (hbo : w.drvBoCreate (allocateBoRequest c d) = some bo)
    (hone : bo.numBuffers = 1) (hsize : d.reservedRegionSize ≠ 0)
    (hfd : w.memfdCreate (d.name ++ " reserved region") = .ok fd)
    (hft : w.ftruncate fd d.reservedRegionSize = some e) :
    ((allocate c w d p).status < 0 ∧ ResourceEvent.held (allocate c w d p).events (.fd fd) = 1) ∧
    (∀ (c' : Config) (w' : World) (d' : BufferDescriptor) (p' : Process),
      (allocate c' w' d' p').status < 0 → ∀ h, ResourceEvent.held (allocate c' w' d' p').events (.gem h) = 0) ∧
    (∀ k numPlanes totalSize tiling stride0,
      (I915.i915BoCreateFromMetadata k numPlanes totalSize tiling stride0).1 ≠ 0 → ∀ r,
        ResourceEvent.held (I915.i915BoCreateFromMetadata k numPlanes totalSize tiling stride0).2.2 r = 0) ∧
    (∀ k fds, (I915.i915BoImport k fds).1 ≠ 0 → ∀ r, ResourceEvent.held (I915.i915BoImport k fds).2.2 r = 0) := by
  have hreg : reservedRegionOf w d = (.error e, [.acquire (.fd fd)]) := by
    simp only [reservedRegionOf, if_pos hsize, createReservedRegion, hfd, hft]
    rfl
  exact ⟨by simp [allocate, hbo, hone, hreg, Errno.neg_lt_zero], allocate_failure_releases_gem,
    I915.i915BoCreateFromMetadata_failure_releases, I915.i915BoImport_failure_releases⟩

theorem ftruncate_failure_leaks_fd :
    let w : World := ⟨fun _ => some ⟨[], by decide, 1, 1, 64, 64, 0, 0, 0⟩, fun _ => .ok 3,
      fun _ _ => some ENOMEM, 1, 1, fun _ => .error EINVAL, fun _ => none, fun _ _ => 0, fun _ _ => 0⟩
    (allocate (Config.ofBuild ⟨false, false⟩) w ⟨64, 64, 0, 0, 0, "", 4096⟩ Process.init).status < 0 ∧
      ResourceEvent.held (allocate (Config.ofBuild ⟨false, false⟩) w ⟨64, 64, 0, 0, 0, "", 4096⟩
        Process.init).events (.fd 3) = 1 :=
  (reserved_region_fd_leaks _ _ _ _ rfl rfl (by decide) rfl rfl).1

end Minigbm.Gralloc
