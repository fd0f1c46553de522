import Minigbm.Format

/-!
# Format resolution

`i915_resolve_format` turns the flexible Android formats into concrete
ones: `IMPLEMENTATION_DEFINED` into NV12 for the camera and XBGR8888
otherwise, `YCbCr_420_888` into NV12. It reads the use flags only through
the camera bits, so the scanout retry of `is_supported` resolves to the
same format (`i915ResolveFormat_drop_scanout`), and the formats a camera
asks for resolve to NV12 (`i915ResolveFormat_nv12`).
-/

namespace Minigbm.I915

open Minigbm

/-- `i915_resolve_format`. `privateResolve` is `i915_private_resolve_format`,
which `USE_GRALLOC1` builds consult first; it is not part of the sources. -/
def i915ResolveFormat (build : BuildConfig)
    (privateResolve : BitVec 32 → BitVec 64 → Option (BitVec 32)) (format : BitVec 32)
    (useFlags : BitVec 64) : BitVec 32 :=
  match if build.useGralloc1 then privateResolve format useFlags else none with
  | some resolved => resolved
  | none =>
    if format = drmFormatFlexImplementationDefined then
      if useFlags &&& (boUseCameraRead ||| boUseCameraWrite) ≠ 0 then drmFormatNv12
      else drmFormatXbgr8888
    else if format = drmFormatFlexYCbCr420888 then drmFormatNv12
    else format

theorem i915ResolveFormat_drop_scanout (build : BuildConfig)
    (privateResolve : BitVec 32 → BitVec 64 → Option (BitVec 32)) (hb : build.useGralloc1 = false)
    (format : BitVec 32) (useFlags : BitVec 64) :
    i915ResolveFormat build privateResolve format (useFlags &&& ~~~boUseScanout) =
      i915ResolveFormat build privateResolve format useFlags := by
  have hcam : (useFlags &&& ~~~boUseScanout) &&& (boUseCameraRead ||| boUseCameraWrite) =
      useFlags &&& (boUseCameraRead ||| boUseCameraWrite) := by
    rw [BitVec.and_assoc, show ~~~boUseScanout &&& (boUseCameraRead ||| boUseCameraWrite) =
      boUseCameraRead ||| boUseCameraWrite by decide]
  simp only [i915ResolveFormat, hb, hcam, Bool.false_eq_true, if_false]

section
variable (build : BuildConfig) (privateResolve : BitVec 32 → BitVec 64 → Option (BitVec 32))
  (hb : build.useGralloc1 = false)
include hb

theorem i915ResolveFormat_nv12 {format : BitVec 32} {useFlags : BitVec 64}
    (h : format = drmFormatNv12 ∨ format = drmFormatFlexYCbCr420888 ∨
      format = drmFormatFlexImplementationDefined ∧ useFlags &&& (boUseCameraRead ||| boUseCameraWrite) ≠ 0) :
    i915ResolveFormat build privateResolve format useFlags = drmFormatNv12 := by
  simp only [i915ResolveFormat, hb, Bool.false_eq_true, if_false]
  rcases h with rfl | rfl | ⟨rfl, hc⟩
  · rfl
  · rfl
  · rw [if_pos rfl, if_pos hc]

theorem i915ResolveFormat_r8 (useFlags : BitVec 64) :
    i915ResolveFormat build privateResolve drmFormatR8 useFlags = drmFormatR8 := by
  simp only [i915ResolveFormat, hb, Bool.false_eq_true, if_false]
  rfl

end

end Minigbm.I915
