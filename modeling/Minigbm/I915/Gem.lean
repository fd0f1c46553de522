import Minigbm.Format

/-!
# The GEM objects behind a bo

`i915_bo_create_from_metadata` creates one GEM object for all the planes
and sets its tiling; `i915_bo_import` turns the planes' fds into GEM
handles and reads the tiling back. When the second kernel call fails, both
give back what the first one acquired, so a failed call leaves no GEM
handle held (`i915BoCreateFromMetadata_failure_releases`,
`i915BoImport_failure_releases`).

`backend_i915` destroys a bo with `drv_gem_bo_destroy`. Over a bo's whole
life, created or imported, then destroyed if the call succeeded, every GEM
handle is closed exactly once: none leaks and none is closed twice
(`gem_handles_closed_once`).
-/

namespace Minigbm.I915

open Minigbm

/-- The kernel's answers to the GEM calls of `i915.c`: the handle
`DRM_IOCTL_I915_GEM_CREATE` returns, the outcome of
`DRM_IOCTL_I915_GEM_SET_TILING` and `DRM_IOCTL_I915_GEM_GET_TILING`, and
what `drv_prime_bo_import` makes of the planes' fds: a GEM handle per
plane, or its status. -/
structure GemKernel where
  gemCreate : BitVec 64 → Except Errno (BitVec 32)
  gemSetTiling : BitVec 32 → Tiling → BitVec 32 → Option Errno
  gemGetTiling : BitVec 32 → Except Int (BitVec 32)
  primeBoImport : List Int → Except Int (List (BitVec 32))

/-- Modelled from the spec ("object create/destroy"): `drv_gem_bo_destroy`,
which closes each distinct GEM handle of the bo's planes. -/
def drvGemBoDestroy (handles : List (BitVec 32)) : List ResourceEvent :=
  handles.dedup.map fun h => .release (.gem h)

/-- `i915_bo_create_from_metadata`: the status, the GEM handle of each plane,
and the events. `SET_TILING` and `GEM_CLOSE` name `handles[0]`, the new
object's handle. -/
def i915BoCreateFromMetadata (k : GemKernel) (numPlanes : Nat) (totalSize : BitVec 64)
    (tiling : Tiling) (stride0 : BitVec 32) : Int × List (BitVec 32) × List ResourceEvent :=
  match k.gemCreate totalSize with
  | .error e => (e.neg, [], [])
  | .ok h =>
    let handles := List.replicate numPlanes h
    match k.gemSetTiling h tiling stride0 with
    | some e => (e.neg, handles, [.acquire (.gem h), .release (.gem h)])
    | none => (0, handles, [.acquire (.gem h)])

/-- `i915_bo_import`: the status, the tiling it reads back, and the events.
`drv_prime_bo_import` holds each distinct handle it returns. -/
def i915BoImport (k : GemKernel) (fds : List Int) : Int × Option (BitVec 32) × List ResourceEvent :=
  match k.primeBoImport fds with
  | .error ret => (ret, none, [])
  | .ok handles =>
    let imported := handles.dedup.map fun h => .acquire (.gem h)
    match k.gemGetTiling (handles.getD 0 0) with
    | .error ret => (ret, none, imported ++ drvGemBoDestroy handles)
    | .ok tiling => (0, some tiling, imported)

theorem held_acquire_release (handles : List (BitVec 32)) (r : Resource) :
    ResourceEvent.held ((handles.map fun h => .acquire (.gem h)) ++
      handles.map fun h => .release (.gem h)) r = 0 := by
  rw [ResourceEvent.held_append]
  induction handles with
  | nil => rfl
  | cons h hs ih =>
    simp only [List.map_cons, ResourceEvent.held_cons, ResourceEvent.acquire.injEq,
      ResourceEvent.release.injEq, reduceCtorEq, if_false]
    split <;> omega

theorem i915BoCreateFromMetadata_failure_releases (k : GemKernel) (numPlanes : Nat)
    (totalSize : BitVec 64) (tiling : Tiling) (stride0 : BitVec 32)
    (h : (i915BoCreateFromMetadata k numPlanes totalSize tiling stride0).1 ≠ 0) (r : Resource) :
    ResourceEvent.held (i915BoCreateFromMetadata k numPlanes totalSize tiling stride0).2.2 r = 0 := by
  unfold i915BoCreateFromMetadata at *
  cases hc : k.gemCreate totalSize with
  | error e => rfl
  | ok g =>
    cases hs : k.gemSetTiling g tiling stride0 with
    | some e => simp [hs]
    | none => simp [hc, hs] at h

theorem i915BoImport_failure_releases (k : GemKernel) (fds : List Int)
    (h : (i915BoImport k fds).1 ≠ 0) (r : Resource) :
    ResourceEvent.held (i915BoImport k fds).2.2 r = 0 := by
  unfold i915BoImport at *
  cases hp : k.primeBoImport fds with
  | error ret => rfl
  | ok handles =>
    cases ht : k.gemGetTiling (handles.getD 0 0) with
    | error ret =>
      simp only [ht]
      exact held_acquire_release _ r
    | ok tiling => simp only [hp, ht, ne_eq, not_true_eq_false] at h

-- ---------------------------------------------------------------------------
-- A bo's whole life
-- ---------------------------------------------------------------------------

/-- For a kernel whose failed `GET_TILING` returns a nonzero status, as the
`if (ret)` of `i915_bo_import` reads it, and a bo with at least one plane: a
bo created by `i915_bo_create_from_metadata`, or imported by
`i915_bo_import`, then destroyed by `drv_gem_bo_destroy` when the call
succeeded, leaves no GEM handle held and closes none twice. -/
theorem gem_handles_closed_once (k : GemKernel) (hk : ∀ h ret, k.gemGetTiling h = .error ret → ret ≠ 0)
    (numPlanes : Nat) (hplanes : 0 < numPlanes) (totalSize : BitVec 64) (tiling : Tiling)
    (stride0 : BitVec 32) (fds : List Int) (handles : List (BitVec 32))
    (hp : k.primeBoImport fds = .ok handles) (r : Resource) :
    let created := i915BoCreateFromMetadata k numPlanes totalSize tiling stride0
    let imported := i915BoImport k fds
    ResourceEvent.held (created.2.2 ++ if created.1 = 0 then drvGemBoDestroy created.2.1 else []) r = 0 ∧
      ResourceEvent.held (imported.2.2 ++ if imported.1 = 0 then drvGemBoDestroy handles else []) r = 0 := by
  refine ⟨?_, ?_⟩
  · unfold i915BoCreateFromMetadata
    cases hc : k.gemCreate totalSize with
    | error e => simp [(Errno.neg_lt_zero e).ne]
    | ok h =>
      cases hs : k.gemSetTiling h tiling stride0 with
      | some e => simp [hs, (Errno.neg_lt_zero e).ne]
      | none => simp [hs, drvGemBoDestroy, List.replicate_dedup (Nat.pos_iff_ne_zero.mp hplanes)]
  · unfold i915BoImport
    rw [hp]
    cases ht : k.gemGetTiling (handles.getD 0 0) with
    | error ret =>
      simp only [ht, hk _ ret ht, if_false, List.append_nil]
      exact held_acquire_release handles.dedup r
    | ok tiling =>
      simp only [ht, if_true]
      exact held_acquire_release handles.dedup r

def oneObjectKernel : GemKernel :=
  ⟨fun _ => .ok 7, fun _ _ _ => none, fun _ => .ok 0, fun fds => .ok (fds.map fun _ => 5)⟩

theorem two_plane_bos_closed_once :
    (∀ h ret, oneObjectKernel.gemGetTiling h = .error ret → ret ≠ 0) ∧ 0 < 2 ∧
      oneObjectKernel.primeBoImport [3, 4] = .ok [5, 5] ∧
      (let created := i915BoCreateFromMetadata oneObjectKernel 2 8192 .y 512
        let imported := i915BoImport oneObjectKernel [3, 4]
        ResourceEvent.held (created.2.2 ++ if created.1 = 0 then drvGemBoDestroy created.2.1 else [])
            (.gem 5) = 0 ∧
          ResourceEvent.held (imported.2.2 ++ if imported.1 = 0 then drvGemBoDestroy [5, 5] else [])
            (.gem 5) = 0) :=
  have hk : ∀ h ret, oneObjectKernel.gemGetTiling h = .error ret → ret ≠ 0 := fun _ _ h => nomatch h
  ⟨hk, by decide, rfl, gem_handles_closed_once oneObjectKernel hk 2 (by decide) 8192 .y 512 [3, 4] [5, 5] rfl (.gem 5)⟩

end Minigbm.I915
