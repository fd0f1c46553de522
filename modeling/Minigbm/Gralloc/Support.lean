import Minigbm.Gralloc.Driver
import Minigbm.I915.Formats
import Minigbm.I915.Choice

/-!
# Support checks and the allocation that follows

`is_supported` answers whether some registered combination serves the
resolved format with the descriptor's use flags, after dropping
`BO_USE_SCANOUT` if it has to (`isSupported_iff`). `allocate` then asks for
a subset of those flags, plus `BO_USE_LINEAR` when the format resolves to
NV12 (`allocateUseFlags_within`). So, when the resolution does not depend
on the scanout bit (as for `i915_resolve_format` without `USE_GRALLOC1`),
a supported descriptor whose format does not resolve to NV12 is served
again when `allocate` asks (`allocate_request_served`); for NV12 it is
served exactly when a combination also admits `BO_USE_LINEAR`.

On the i915 backend, the camera's buffers are always accepted as asked:
whatever the device, the masks and the extra linear flags, a descriptor
that resolves to NV12 with video, camera, scanout or texture flags, and an
R8 blob with camera or texture flags, is served by the linear entry
`i915_add_combinations` grants those flags (`i915_camera_formats_supported`).
-/

namespace Minigbm.Gralloc

open Minigbm

section
variable {c : Config} {d : BufferDescriptor}

theorem isSupported_cases (c : Config) (d : BufferDescriptor) :
    let served := fun useFlags =>
      (drvGetCombination c.combinations (c.resolveFormat d.drmFormat d.useFlags) useFlags).isSome
    served d.useFlags ∧ isSupported c d = (true, d) ∨
    ¬served d.useFlags ∧ d.useFlags &&& boUseScanout ≠ 0 ∧
      isSupported c d = (served (d.useFlags &&& ~~~boUseScanout),
        { d with useFlags := d.useFlags &&& ~~~boUseScanout }) ∨
    ¬served d.useFlags ∧ d.useFlags &&& boUseScanout = 0 ∧ isSupported c d = (false, d) := by
  intro served
  unfold isSupported
  by_cases h1 : served d.useFlags
  · exact .inl ⟨h1, if_pos h1⟩
  · rw [if_neg h1]
    by_cases h2 : d.useFlags &&& boUseScanout = 0
    · exact .inr (.inr ⟨h1, h2, if_neg (not_not.mpr h2)⟩)
    · exact .inr (.inl ⟨h1, h2, if_pos h2⟩)

theorem isSupported_descriptor :
    (isSupported c d).2 = d ∨ (isSupported c d).2 = { d with useFlags := d.useFlags &&& ~~~boUseScanout } := by
  rcases isSupported_cases c d with ⟨-, h⟩ | ⟨-, -, h⟩ | ⟨-, -, h⟩ <;> simp [h]

theorem isSupported_iff :
    (isSupported c d).1 = true ↔ ∃ comb ∈ c.combinations,
      comb.Serves (c.resolveFormat d.drmFormat d.useFlags) (isSupported c d).2.useFlags := by
  rw [← drvGetCombination_isSome]
  rcases isSupported_cases c d with ⟨h1, h⟩ | ⟨-, -, h⟩ | ⟨h1, -, h⟩ <;> simp_all

end

/- A linear-only ARGB8888 registry accepts a scanout request once the
scanout bit is dropped. -/
example : isSupported ⟨fun format _ => format, [⟨drmFormatArgb8888, ⟨1, .none, drmFormatModLinear⟩,
      boUseLinear⟩], ⟨32, 5, rfl, by decide, by decide⟩, ⟨false, false⟩⟩
    ⟨64, 64, drmFormatArgb8888, boUseScanout ||| boUseLinear, 0, "", 0⟩ =
    (true, ⟨64, 64, drmFormatArgb8888, boUseLinear, 0, "", 0⟩) := by decide

theorem allocateUseFlags_within (d : BufferDescriptor) (resolved : BitVec 32) :
    allocateUseFlags d resolved &&&
        (if resolved = drmFormatNv12 then d.useFlags ||| boUseLinear else d.useFlags) =
      allocateUseFlags d resolved := by
  have hdrop : ∀ x y : BitVec 64, (x &&& y) &&& x = x &&& y := fun x y => by
    rw [BitVec.and_comm x y, BitVec.and_assoc, BitVec.and_self]
  unfold allocateUseFlags
  split_ifs <;> first | exact hdrop _ _ | exact BitVec.and_self

theorem allocate_request_served (c : Config) (d : BufferDescriptor) (hsup : (isSupported c d).1 = true)
    (hres : c.resolveFormat d.drmFormat (isSupported c d).2.useFlags =
      c.resolveFormat d.drmFormat d.useFlags)
    (hmod : c.build.useGralloc1 = false ∨ d.modifier = 0)
    (hnv : c.resolveFormat d.drmFormat d.useFlags ≠ drmFormatNv12) :
    ∃ useFlags, allocateBoRequest c (isSupported c d).2 =
        .create d.width d.height (c.resolveFormat d.drmFormat d.useFlags) useFlags ∧
      (drvGetCombination c.combinations (c.resolveFormat d.drmFormat d.useFlags) useFlags).isSome := by
  obtain ⟨u, hu⟩ : ∃ u, (isSupported c d).2 = { d with useFlags := u } :=
    isSupported_descriptor.elim (fun h => ⟨d.useFlags, h⟩) (fun h => ⟨_, h⟩)
  obtain ⟨comb, hmem, hserves⟩ := isSupported_iff.mp hsup
  rw [hu] at hres hserves ⊢
  have hwithin := allocateUseFlags_within { d with useFlags := u } (c.resolveFormat d.drmFormat d.useFlags)
  rw [if_neg hnv] at hwithin
  refine ⟨_, ?_, (drvGetCombination_isSome _).mpr ⟨comb, hmem, hserves.mono hwithin⟩⟩
  simp only [allocateBoRequest, hres]
  rw [if_neg (by rcases hmod with h | h <;> simp [h])]

/-- On the i915 backend without `USE_GRALLOC1`, `allocate` asks `drv.c` for
a bo that the registry serves whenever `is_supported` accepted the
descriptor, after dropping `BO_USE_SCANOUT` or not, and its format does not
resolve to NV12. -/
theorem i915_allocate_request_served
    (privateResolve : BitVec 32 → BitVec 64 → Option (BitVec 32)) (c : Config) (d : BufferDescriptor)
    (hc : c.resolveFormat = I915.i915ResolveFormat c.build privateResolve)
    (hb : c.build.useGralloc1 = false) (hsup : (isSupported c d).1 = true)
    (hnv : c.resolveFormat d.drmFormat d.useFlags ≠ drmFormatNv12) :
    ∃ useFlags, allocateBoRequest c (isSupported c d).2 =
        .create d.width d.height (c.resolveFormat d.drmFormat d.useFlags) useFlags ∧
      (drvGetCombination c.combinations (c.resolveFormat d.drmFormat d.useFlags) useFlags).isSome := by
  refine allocate_request_served c d hsup ?_ (.inl hb) hnv
  rcases isSupported_descriptor (c := c) (d := d) with h | h <;> rw [h, hc]
  exact I915.i915ResolveFormat_drop_scanout _ _ hb _ _

def xbgrConfig : Config :=
  ⟨I915.i915ResolveFormat ⟨false, false⟩ (fun _ _ => none),
    [⟨drmFormatXbgr8888, ⟨1, .none, drmFormatModLinear⟩, boUseLinear ||| boUseHwVideoEncoder⟩],
    ⟨32, 5, rfl, by decide, by decide⟩, ⟨false, false⟩⟩

def encoderDescriptor : BufferDescriptor :=
  ⟨64, 64, drmFormatFlexImplementationDefined, boUseScanout ||| boUseHwVideoEncoder, 0, "", 0⟩

theorem implementation_defined_request_served :
    (isSupported xbgrConfig encoderDescriptor).1 = true ∧
      xbgrConfig.resolveFormat encoderDescriptor.drmFormat encoderDescriptor.useFlags ≠ drmFormatNv12 ∧
      ∃ useFlags, allocateBoRequest xbgrConfig (isSupported xbgrConfig encoderDescriptor).2 =
          .create encoderDescriptor.width encoderDescriptor.height
            (xbgrConfig.resolveFormat encoderDescriptor.drmFormat encoderDescriptor.useFlags) useFlags ∧
        (drvGetCombination xbgrConfig.combinations
          (xbgrConfig.resolveFormat encoderDescriptor.drmFormat encoderDescriptor.useFlags) useFlags).isSome := by
  have hsup : (isSupported xbgrConfig encoderDescriptor).1 = true := by decide
  have hnv : xbgrConfig.resolveFormat encoderDescriptor.drmFormat encoderDescriptor.useFlags ≠
      drmFormatNv12 := by decide
  exact ⟨hsup, hnv, i915_allocate_request_served (fun _ _ => none) xbgrConfig encoderDescriptor rfl rfl
    hsup hnv⟩

/-- Without `USE_GRALLOC1`, for every device, masks, extra linear flags and
handle layout, `is_supported` accepts as asked, without dropping a flag,
every descriptor that resolves to NV12 (NV12, `YCbCr_420_888`, or
`IMPLEMENTATION_DEFINED` for the camera) with flags among the texture mask
and the video, camera and scanout flags, and every R8 descriptor with flags
among the texture mask and the camera flags. -/
theorem i915_camera_formats_supported (build : BuildConfig) (dev : I915.DeviceConfig)
    (masks : I915.UseMasks) (extra : Combination → BitVec 64)
    (privateAdd : List Combination → List Combination)
    (privateResolve : BitVec 32 → BitVec 64 → Option (BitVec 32)) (layout : HandleLayout)
    (hb : build.useGralloc1 = false) (d : BufferDescriptor)
    (hcam : (d.drmFormat = drmFormatNv12 ∨ d.drmFormat = drmFormatFlexYCbCr420888 ∨
        d.drmFormat = drmFormatFlexImplementationDefined ∧
          d.useFlags &&& (boUseCameraRead ||| boUseCameraWrite) ≠ 0) ∧
        d.useFlags &&& (masks.texture ||| (boUseHwVideoEncoder ||| boUseHwVideoDecoder |||
          boUseCameraRead ||| boUseCameraWrite ||| boUseScanout)) = d.useFlags ∨
      d.drmFormat = drmFormatR8 ∧
        d.useFlags &&& (masks.texture ||| (boUseCameraRead ||| boUseCameraWrite)) = d.useFlags) :
    isSupported ⟨I915.i915ResolveFormat build privateResolve,
      I915.i915AddCombinations build dev masks extra privateAdd, layout, build⟩ d = (true, d) := by
  have hserved : (drvGetCombination (I915.i915AddCombinations build dev masks extra privateAdd)
      (I915.i915ResolveFormat build privateResolve d.drmFormat d.useFlags) d.useFlags).isSome := by
    simp only [I915.i915AddCombinations, hb, Bool.false_eq_true, if_false]
    rcases hcam with ⟨hfmt, hsub⟩ | ⟨hfmt, hsub⟩
    · rw [I915.i915ResolveFormat_nv12 build privateResolve hb hfmt]
      exact (I915.registry_nv12_linear build dev masks extra).isSome hsub
    · rw [hfmt, I915.i915ResolveFormat_r8 build privateResolve hb]
      exact (I915.registry_r8_linear build dev masks extra).isSome hsub
  exact if_pos hserved

def cameraDescriptor : BufferDescriptor :=
  ⟨640, 480, drmFormatFlexImplementationDefined, boUseCameraWrite ||| boUseHwVideoEncoder, 0, "", 0⟩

theorem camera_nv12_supported :
    (⟨false, false⟩ : BuildConfig).useGralloc1 = false ∧
      ((cameraDescriptor.drmFormat = drmFormatNv12 ∨ cameraDescriptor.drmFormat = drmFormatFlexYCbCr420888 ∨
          cameraDescriptor.drmFormat = drmFormatFlexImplementationDefined ∧
            cameraDescriptor.useFlags &&& (boUseCameraRead ||| boUseCameraWrite) ≠ 0) ∧
          cameraDescriptor.useFlags &&& ((0 : BitVec 64) ||| (boUseHwVideoEncoder ||| boUseHwVideoDecoder |||
            boUseCameraRead ||| boUseCameraWrite ||| boUseScanout)) = cameraDescriptor.useFlags ∨
        cameraDescriptor.drmFormat = drmFormatR8 ∧
          cameraDescriptor.useFlags &&& ((0 : BitVec 64) ||| (boUseCameraRead ||| boUseCameraWrite)) =
            cameraDescriptor.useFlags) ∧
      isSupported ⟨I915.i915ResolveFormat ⟨false, false⟩ (fun _ _ => none),
          I915.i915AddCombinations ⟨false, false⟩ ⟨.oneGpuIntel, false, false⟩ ⟨0, 0, 0⟩ (fun _ => 0) id,
          ⟨32, 5, rfl, by decide, by decide⟩, ⟨false, false⟩⟩ cameraDescriptor =
        (true, cameraDescriptor) :=
  ⟨rfl, by decide, i915_camera_formats_supported ⟨false, false⟩ ⟨.oneGpuIntel, false, false⟩ ⟨0, 0, 0⟩
    (fun _ => 0) id (fun _ _ => none) ⟨32, 5, rfl, by decide, by decide⟩ rfl cameraDescriptor (by decide)⟩

end Minigbm.Gralloc
