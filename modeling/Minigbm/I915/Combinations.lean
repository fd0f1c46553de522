import Minigbm.I915.Layout

/-!
# The i915 combination registry

`i915_init` identifies the device and fills the registry through
`i915_add_combinations`: linear entries for every format the backend
knows, then X-tiled and Y-tiled entries for the render and scanout
formats, and Y-tiled NV12 and P010 for video decoding. Before the tiled
entries it masks out the flags of CPU access, Renderscript, protected
content and the camera, so a request with any of them is only ever served
linearly (`cpu_camera_use_gets_linear`).

Scanout is masked out of the Y-tiled render entries on topologies with a
discrete GPU, and out of every tiled render entry for a KVM guest on ADL-P.
A build with `I915_SCANOUT_Y_TILED` also registers a Y-tiled NV12 entry with
scanout, whatever the topology, and it outranks the linear one
(`scanout_nv12_y_tiled`).
-/

namespace Minigbm.I915

open Minigbm

-- ---------------------------------------------------------------------------
-- The device
-- ---------------------------------------------------------------------------

/-- `gen9_ids` of `i915_info_from_device_id`. -/
def gen9Ids : List Int :=
  [0x1902, 0x1906, 0x190A, 0x190B, 0x190E, 0x1912, 0x1913, 0x1915, 0x1916, 0x1917,
    0x191A, 0x191B, 0x191D, 0x191E, 0x1921, 0x1923, 0x1926, 0x1927, 0x192A, 0x192B,
    0x192D, 0x1932, 0x193A, 0x193B, 0x193D, 0x0A84, 0x1A84, 0x1A85, 0x5A84, 0x5A85,
    0x3184, 0x3185, 0x5902, 0x5906, 0x590A, 0x5908, 0x590B, 0x590E, 0x5913, 0x5915,
    0x5917, 0x5912, 0x5916, 0x591A, 0x591B, 0x591D, 0x591E, 0x5921, 0x5923, 0x5926,
    0x5927, 0x593B, 0x591C, 0x87C0, 0x87CA, 0x3E90, 0x3E93, 0x3E99, 0x3E9C, 0x3E91,
    0x3E92, 0x3E96, 0x3E98, 0x3E9A, 0x3E9B, 0x3E94, 0x3EA9, 0x3EA5, 0x3EA6, 0x3EA7,
    0x3EA8, 0x3EA1, 0x3EA4, 0x3EA0, 0x3EA3, 0x3EA2, 0x9B21, 0x9BA0, 0x9BA2, 0x9BA4,
    0x9BA5, 0x9BA8, 0x9BAA, 0x9BAB, 0x9BAC, 0x9B41, 0x9BC0, 0x9BC2, 0x9BC4, 0x9BC5,
    0x9BC6, 0x9BC8, 0x9BCA, 0x9BCB, 0x9BCC, 0x9BE6, 0x9BF6]

/-- `gen12_ids` of `i915_info_from_device_id`. -/
def gen12Ids : List Int :=
  [0x4c8a, 0x4c8b, 0x4c8c, 0x4c90, 0x4c9a, 0x4680, 0x4681, 0x4682, 0x4683, 0x4688,
    0x4689, 0x4690, 0x4691, 0x4692, 0x4693, 0x4698, 0x4699, 0x4626, 0x4628, 0x462a,
    0x46a0, 0x46a1, 0x46a2, 0x46a3, 0x46a6, 0x46a8, 0x46aa, 0x46b0, 0x46b1, 0x46b2,
    0x46b3, 0x46c0, 0x46c1, 0x46c2, 0x46c3, 0x9A40, 0x9A49, 0x9A59, 0x9A60, 0x9A68,
    0x9A70, 0x9A78, 0x9AC0, 0x9AC9, 0x9AD9, 0x9AF8, 0x4905, 0x4906, 0x4907, 0x4908]

/-- `adlp_ids` of `i915_info_from_device_id`. -/
def adlpIds : List Int :=
  [0x46A0, 0x46A1, 0x46A2, 0x46A3, 0x46A6, 0x46A8, 0x46AA, 0x462A, 0x4626, 0x4628,
    0x46B0, 0x46B1, 0x46B2, 0x46B3, 0x46C0, 0x46C1, 0x46C2, 0x46C3, 0x46D0, 0x46D1,
    0x46D2]

/-- `i915->gen` and `i915->is_adlp`. -/
structure DeviceInfo where
  gen : Nat
  isAdlp : Bool
  deriving DecidableEq, Repr

/-- `i915_info_from_device_id`: the three tables are searched in turn, and
an id in none of them is generation 12. -/
def i915InfoFromDeviceId (deviceId : Int) : DeviceInfo :=
  if deviceId ∈ gen9Ids then ⟨9, false⟩
  else if deviceId ∈ adlpIds then ⟨12, true⟩
  else if deviceId ∈ gen12Ids then ⟨12, false⟩
  else ⟨12, false⟩

def hypertypeAny : BitVec 32 := 0x1
def hypertypeTypeAcrn : BitVec 32 := 0x2
def hypertypeTypeKvm : BitVec 32 := 0x4

/-- `vm_type`, from what `cpuid` reports: `ecx` of leaf 1 (`none` when
`__get_cpuid` fails) and the hypervisor signature of leaf `0x40000000`, the
twelve bytes of `ebx`, `ecx` and `edx`. -/
def vmType (leaf1Ecx : Option (BitVec 32)) (signature : String) : BitVec 32 :=
  match leaf1Ecx with
  | some ecx =>
    if (ecx >>> 31) &&& 1 = 1 then
      hypertypeAny |||
        (if signature.take 12 = "ACRNACRNACRN" then hypertypeTypeAcrn
        else if signature.take 9 = "KVMKVMKVM" ∨ signature.take 12 = "EVMMEVMMEVMM" then
          hypertypeTypeKvm
        else 0)
    else 0
  | none => 0

/-- What `i915_add_combinations` reads of the device: the topology
`drv_init` recorded, whether `vm_type()` reports KVM, and whether the
device is ADL-P. -/
structure DeviceConfig where
  gpuGrpType : GpuGrpType
  isKvm : Bool
  isAdlp : Bool
  deriving DecidableEq, Repr

/-- Whether the topology has a discrete GPU, which takes no Y-tiled
scanout. -/
def DeviceConfig.hasDgpu (dev : DeviceConfig) : Prop :=
  dev.gpuGrpType = .twoGpuIgpuDgpu ∨ dev.gpuGrpType = .threeGpuIgpuVirtioDgpu

instance (dev : DeviceConfig) : Decidable dev.hasDgpu := inferInstanceAs (Decidable (_ ∨ _))

-- ---------------------------------------------------------------------------
-- i915_add_combinations
-- ---------------------------------------------------------------------------

/-- `BO_USE_RENDER_MASK`, `BO_USE_TEXTURE_MASK` and `BO_USE_SW_MASK` of
`drv_priv.h`, which is not part of the sources. -/
structure UseMasks where
  render : BitVec 64
  texture : BitVec 64
  sw : BitVec 64
  deriving DecidableEq, Repr

def scanoutRenderFormats : List (BitVec 32) :=
  [drmFormatAbgr2101010, drmFormatAbgr8888, drmFormatArgb2101010, drmFormatArgb8888,
    drmFormatRgb565, drmFormatXbgr2101010, drmFormatXbgr8888, drmFormatXrgb2101010,
    drmFormatXrgb8888]

def renderFormats : List (BitVec 32) := [drmFormatAbgr16161616f]

def textureOnlyFormats (build : BuildConfig) : List (BitVec 32) :=
  [drmFormatR8, drmFormatNv12, drmFormatP010, drmFormatYvu420, drmFormatYvu420Android] ++
    if build.useGralloc1 then [drmFormatYuyv] else []

/-- `unset_flags`. -/
def unsetFlags (currentFlags mask : BitVec 64) : BitVec 64 := currentFlags &&& ~~~mask

/-- The three settings of `metadata` in `i915_add_combinations`. -/
def linearMetadata : FormatMetadata := ⟨1, .none, drmFormatModLinear⟩
def xTiledMetadata : FormatMetadata := ⟨2, .x, i915FormatModXTiled⟩
def yTiledMetadata : FormatMetadata := ⟨3, .y, i915FormatModYTiled⟩

namespace i915AddCombinations

def linearMask : BitVec 64 :=
  boUseRenderscript ||| boUseLinear ||| boUseProtected ||| boUseSwReadOften ||| boUseSwWriteOften

def cameraMask : BitVec 64 := boUseCameraRead ||| boUseCameraWrite

/-- `scanout_and_render` for the linear entries. -/
def scanoutAndRender (masks : UseMasks) : BitVec 64 := masks.render ||| boUseScanout

/-- `render` for the linear entries. -/
def render (build : BuildConfig) (masks : UseMasks) : BitVec 64 :=
  if build.useGralloc1 then masks.render &&& ~~~(boUseRendering ||| boUseTexture) else masks.render

/-- `render` for the tiled entries. -/
def tiledRender (build : BuildConfig) (masks : UseMasks) : BitVec 64 :=
  unsetFlags (render build masks) (linearMask ||| cameraMask)

/-- `scanout_and_render` for the X-tiled entries. -/
def xScanoutAndRender (dev : DeviceConfig) (masks : UseMasks) : BitVec 64 :=
  let flags := unsetFlags (scanoutAndRender masks) (linearMask ||| cameraMask)
  if dev.isKvm && dev.isAdlp then unsetFlags flags boUseScanout else flags

/-- `scanout_and_render` for the Y-tiled entries. -/
def yScanoutAndRender (dev : DeviceConfig) (masks : UseMasks) : BitVec 64 :=
  let flags := unsetFlags (xScanoutAndRender dev masks) (boUseSwReadRarely ||| boUseSwWriteRarely)
  if dev.hasDgpu then unsetFlags flags boUseScanout else flags

def nv12YTiledFlags (build : BuildConfig) : BitVec 64 :=
  if build.i915ScanoutYTiled then boUseTexture ||| boUseHwVideoDecoder ||| boUseScanout
  else boUseTexture ||| boUseHwVideoDecoder

def linearCalls (build : BuildConfig) (masks : UseMasks) : List RegistryCall :=
  [.addCombinations scanoutRenderFormats linearMetadata (scanoutAndRender masks),
    .addCombinations renderFormats linearMetadata (render build masks),
    .addCombinations (textureOnlyFormats build) linearMetadata masks.texture,
    .modifyLinearCombinations,
    .modifyCombination drmFormatYvu420 linearMetadata boUseHwVideoEncoder,
    .modifyCombination drmFormatNv12 linearMetadata
      (boUseHwVideoEncoder ||| boUseHwVideoDecoder ||| boUseCameraRead ||| boUseCameraWrite |||
        boUseScanout),
    .addCombination drmFormatBgr888 linearMetadata masks.sw] ++
  (if build.useGralloc1 then
    [.modifyCombination drmFormatAbgr2101010 linearMetadata masks.sw,
      .addCombination drmFormatRgb888 linearMetadata masks.sw]
  else []) ++
  [.modifyCombination drmFormatR8 linearMetadata (boUseCameraRead ||| boUseCameraWrite)]

def xTiledCalls (build : BuildConfig) (dev : DeviceConfig) (masks : UseMasks) : List RegistryCall :=
  [.addCombinations renderFormats xTiledMetadata (tiledRender build masks),
    .addCombinations scanoutRenderFormats xTiledMetadata (xScanoutAndRender dev masks)]

def yTiledCalls (build : BuildConfig) (dev : DeviceConfig) (masks : UseMasks) : List RegistryCall :=
  [.addCombination drmFormatNv12 yTiledMetadata (nv12YTiledFlags build),
    .addCombination drmFormatP010 yTiledMetadata (boUseTexture ||| boUseHwVideoDecoder),
    .addCombinations renderFormats yTiledMetadata (tiledRender build masks),
    .addCombinations scanoutRenderFormats yTiledMetadata (yScanoutAndRender dev masks)]

def calls (build : BuildConfig) (dev : DeviceConfig) (masks : UseMasks) : List RegistryCall :=
  linearCalls build masks ++ xTiledCalls build dev masks ++ yTiledCalls build dev masks

end i915AddCombinations

/-- `i915_add_combinations` on the empty registry `drv_create` starts
with. `extra` is what `drv_modify_linear_combinations` adds; `privateAdd`
is `i915_private_add_combinations`, which `USE_GRALLOC1` builds call last
and which is not part of the sources. -/
def i915AddCombinations (build : BuildConfig) (dev : DeviceConfig) (masks : UseMasks)
    (extra : Combination → BitVec 64) (privateAdd : List Combination → List Combination) :
    List Combination :=
  let combos := RegistryCall.runAll extra (i915AddCombinations.calls build dev masks) []
  if build.useGralloc1 then privateAdd combos else combos

/-- An entry that is linear or has none of the CPU, Renderscript,
protected-content and camera flags. -/
def i915AddCombinations.LinearOrMasked (c : Combination) : Prop :=
  c.metadata.IsLinear ∨
    c.useFlags &&& (i915AddCombinations.linearMask ||| i915AddCombinations.cameraMask) = 0

/-- What is asked of `i915_private_add_combinations`, which is not in the
sources: like the calls `i915_add_combinations` makes itself, it leaves
every entry linear or free of those flags. -/
def PrivateAddKeepsLinear (privateAdd : List Combination → List Combination) : Prop :=
  ∀ combos, (∀ c ∈ combos, i915AddCombinations.LinearOrMasked c) →
    ∀ c ∈ privateAdd combos, i915AddCombinations.LinearOrMasked c

/-- The part of `struct i915_device` `i915_init` fills. -/
structure I915Device where
  deviceId : Int
  info : DeviceInfo
  hasLlc : Int
  deriving DecidableEq, Repr

/-- `i915_init`: the answers of the `I915_PARAM_CHIPSET_ID` and
`I915_PARAM_HAS_LLC` queries (`none` for a failed ioctl) and what `cpuid`
reports decide the device and the registry. -/
def i915Init (build : BuildConfig) (gpuGrpType : GpuGrpType) (masks : UseMasks)
    (extra : Combination → BitVec 64) (privateAdd : List Combination → List Combination)
    (leaf1Ecx : Option (BitVec 32)) (signature : String) (chipsetId hasLlc : Option Int) :
    Except Errno (I915Device × List Combination) :=
  match chipsetId, hasLlc with
  | some deviceId, some llc =>
    let info := i915InfoFromDeviceId deviceId
    let dev : DeviceConfig :=
      ⟨gpuGrpType, vmType leaf1Ecx signature &&& hypertypeTypeKvm != 0, info.isAdlp⟩
    .ok (⟨deviceId, info, llc⟩, i915AddCombinations build dev masks extra privateAdd)
  | _, _ => .error EINVAL

-- ---------------------------------------------------------------------------
-- What the calls register
-- ---------------------------------------------------------------------------

@[simp] theorem unsetFlags_and_self (x mask : BitVec 64) : unsetFlags x mask &&& mask = 0 := by
  ext i
  simp [unsetFlags]

theorem unsetFlags_and_eq_zero {x mask : BitVec 64} (k : BitVec 64) (h : x &&& mask = 0) :
    unsetFlags x k &&& mask = 0 := by
  rw [unsetFlags, BitVec.and_assoc, BitVec.and_comm (~~~k), ← BitVec.and_assoc, h]
  simp

theorem and_eq_zero_of_includes {a b mask : BitVec 64} (h : a &&& b = b) (h0 : a &&& mask = 0) :
    b &&& mask = 0 := by
  rw [← h, BitVec.and_comm a, BitVec.and_assoc, h0]
  simp

namespace i915AddCombinations

variable {build : BuildConfig} {dev : DeviceConfig} {masks : UseMasks}

theorem linearCalls_admits {Q : FormatMetadata → Prop} {R : BitVec 64 → Prop} (hQ : Q linearMetadata) :
    ∀ call ∈ linearCalls build masks, call.Admits Q R := by
  have hlin : linearMetadata.IsLinear := ⟨rfl, rfl⟩
  simp only [linearCalls, List.forall_mem_append, List.forall_mem_cons, RegistryCall.Admits,
    RegistryCall.addCombination, hQ, hlin, true_or, List.not_mem_nil, false_implies, implies_true,
    and_true, true_and]
  split <;> simp [RegistryCall.Admits, RegistryCall.addCombination, hQ, hlin]

theorem linearCalls_addsWith {Q : FormatMetadata → Prop} (hQ : Q linearMetadata) :
    ∀ call ∈ linearCalls build masks, call.AddsWith Q := by
  simp only [linearCalls, List.forall_mem_append, List.forall_mem_cons, RegistryCall.AddsWith,
    RegistryCall.addCombination, hQ, List.not_mem_nil, false_implies, implies_true, and_true,
    true_and]
  split <;> simp [RegistryCall.AddsWith, RegistryCall.addCombination, hQ]

theorem tiledRender_and_mask : tiledRender build masks &&& (linearMask ||| cameraMask) = 0 :=
  unsetFlags_and_self _ _

theorem xScanoutAndRender_and_mask : xScanoutAndRender dev masks &&& (linearMask ||| cameraMask) = 0 := by
  unfold xScanoutAndRender
  split
  · exact unsetFlags_and_eq_zero _ (unsetFlags_and_self _ _)
  · exact unsetFlags_and_self _ _

theorem yScanoutAndRender_and_mask : yScanoutAndRender dev masks &&& (linearMask ||| cameraMask) = 0 := by
  have hx : xScanoutAndRender dev masks &&& (linearMask ||| cameraMask) = 0 := xScanoutAndRender_and_mask
  have h := unsetFlags_and_eq_zero (boUseSwReadRarely ||| boUseSwWriteRarely) hx
  unfold yScanoutAndRender
  split
  · exact unsetFlags_and_eq_zero _ h
  · exact h

theorem calls_admits_linear_or_masked :
    ∀ call ∈ calls build dev masks,
      call.Admits FormatMetadata.IsLinear (· &&& (linearMask ||| cameraMask) = 0) := by
  have hnv12 : nv12YTiledFlags build &&& (linearMask ||| cameraMask) = 0 := by
    unfold nv12YTiledFlags
    split <;> decide
  simp only [calls, List.forall_mem_append, List.forall_mem_cons, xTiledCalls, yTiledCalls,
    RegistryCall.Admits, RegistryCall.addCombination, List.not_mem_nil, false_implies, implies_true,
    and_true]
  exact ⟨⟨linearCalls_admits ⟨rfl, rfl⟩, .inr tiledRender_and_mask, .inr xScanoutAndRender_and_mask⟩,
    .inr hnv12, .inr (by decide), .inr tiledRender_and_mask, .inr yScanoutAndRender_and_mask⟩

theorem xTiledCalls_addsWith {Q : FormatMetadata → Prop} (hQ : Q xTiledMetadata) :
    ∀ call ∈ xTiledCalls build dev masks, call.AddsWith Q := by
  simp [xTiledCalls, RegistryCall.AddsWith, hQ]

theorem tiledRender_and_scanout (hb : build.useGralloc1 = false)
    (hrender : masks.render &&& boUseScanout = 0) : tiledRender build masks &&& boUseScanout = 0 := by
  simp only [tiledRender, render, hb, Bool.false_eq_true, if_false]
  exact unsetFlags_and_eq_zero _ hrender

theorem yScanoutAndRender_and_scanout (h : dev.hasDgpu ∨ (dev.isKvm ∧ dev.isAdlp)) :
    yScanoutAndRender dev masks &&& boUseScanout = 0 := by
  unfold yScanoutAndRender
  split
  · exact unsetFlags_and_self _ _
  · have hk : dev.isKvm && dev.isAdlp := by simp_all
    refine unsetFlags_and_eq_zero _ ?_
    simp only [xScanoutAndRender, hk, if_true, unsetFlags_and_self]

theorem yTiledCalls_admit_scanout_free {Q : FormatMetadata → Prop}
    (hrender : masks.render &&& boUseScanout = 0) (hy : yScanoutAndRender dev masks &&& boUseScanout = 0) :
    ∀ call ∈ yTiledCalls ⟨false, false⟩ dev masks, call.Admits Q (· &&& boUseScanout = 0) := by
  simp only [yTiledCalls, List.forall_mem_cons, RegistryCall.Admits, RegistryCall.addCombination,
    List.not_mem_nil, false_implies, implies_true, and_true]
  exact ⟨.inr (by decide), .inr (by decide), .inr (tiledRender_and_scanout rfl hrender), .inr hy⟩

theorem scanoutYTiled_registry (dev : DeviceConfig) (masks : UseMasks)
    (extra : Combination → BitVec 64) (privateAdd : List Combination → List Combination) :
    i915AddCombinations ⟨false, true⟩ dev masks extra privateAdd =
      RegistryCall.runAll extra (linearCalls ⟨false, true⟩ masks ++ xTiledCalls ⟨false, true⟩ dev masks) [] ++
        (⟨drmFormatNv12, yTiledMetadata, nv12YTiledFlags ⟨false, true⟩⟩ ::
          ⟨drmFormatP010, yTiledMetadata, boUseTexture ||| boUseHwVideoDecoder⟩ ::
          (renderFormats.map fun f => ⟨f, yTiledMetadata, tiledRender ⟨false, true⟩ masks⟩) ++
          scanoutRenderFormats.map fun f => ⟨f, yTiledMetadata, yScanoutAndRender dev masks⟩) := by
  simp only [i915AddCombinations, calls, RegistryCall.runAll, List.foldl_append, yTiledCalls,
    List.foldl_cons, List.foldl_nil, RegistryCall.run, RegistryCall.addCombination, drvAddCombinations,
    Bool.false_eq_true, if_false, List.map_cons, List.map_nil, List.append_assoc, List.cons_append,
    List.nil_append]

end i915AddCombinations

/-- A request with any of `BO_USE_LINEAR`, `BO_USE_RENDERSCRIPT`,
`BO_USE_PROTECTED`, the frequent CPU reads and writes, or the camera flags
is only served by linear entries of the registry `i915_add_combinations`
builds, in every build and device configuration. Without `USE_GRALLOC1`, or
when `i915_private_add_combinations` keeps that so, the whole registry
serves it linearly and such a buffer laid out without a modifier list is
linear. -/
theorem cpu_camera_use_gets_linear (build : BuildConfig) (dev : DeviceConfig) (masks : UseMasks)
    (extra : Combination → BitVec 64) (privateAdd : List Combination → List Combination)
    (format : BitVec 32) (useFlags : BitVec 64)
    (hflags : useFlags &&& (i915AddCombinations.linearMask ||| i915AddCombinations.cameraMask) ≠ 0) :
    (∀ c ∈ RegistryCall.runAll extra (i915AddCombinations.calls build dev masks) [],
      c.useFlags &&& useFlags = useFlags →
        c.metadata.tiling = .none ∧ c.metadata.modifier = drmFormatModLinear) ∧
    (build.useGralloc1 = false ∨ PrivateAddKeepsLinear privateAdd →
      (∀ c ∈ i915AddCombinations build dev masks extra privateAdd, c.useFlags &&& useFlags = useFlags →
        c.metadata.tiling = .none ∧ c.metadata.modifier = drmFormatModLinear) ∧
      ∀ (env : LayoutEnv) (width height : BitVec 32) (m : BoMetadata),
        i915BoComputeMetadata env (i915AddCombinations build dev masks extra privateAdd) width height
            format useFlags none = .ok m →
          m.tiling = .none ∧ m.formatModifier = drmFormatModLinear) := by
  have hinv : ∀ c ∈ RegistryCall.runAll extra (i915AddCombinations.calls build dev masks) [],
      i915AddCombinations.LinearOrMasked c :=
    RegistryCall.runAll_keeps (fun call hc => RegistryCall.Admits.keeps (fun _ h => h)
      (i915AddCombinations.calls_admits_linear_or_masked call hc)) (by simp)
  have hlin : ∀ c, i915AddCombinations.LinearOrMasked c → c.useFlags &&& useFlags = useFlags →
      c.metadata.IsLinear :=
    fun c hc hs => hc.resolve_right fun h0 => hflags (and_eq_zero_of_includes hs h0)
  refine ⟨fun c hc => hlin c (hinv c hc), fun hb => ?_⟩
  have hreg : ∀ c ∈ i915AddCombinations build dev masks extra privateAdd,
      c.useFlags &&& useFlags = useFlags → c.metadata.IsLinear := by
    intro c hc
    refine hlin c ?_
    unfold i915AddCombinations at hc
    split at hc
    · rename_i hg
      exact hb.resolve_left (by simp [hg]) _ hinv c hc
    · exact hinv c hc
  refine ⟨hreg, fun env width height m hm => ?_⟩
  obtain ⟨modifier, hmod, rfl⟩ := i915BoComputeMetadata_ok hm
  simp only [i915ModifierFor] at hmod
  split at hmod
  · rename_i c hc
    cases hmod
    obtain ⟨hmem, -, hserves⟩ := drvGetCombination_mem hc
    obtain ⟨-, hmod⟩ := hreg c hmem hserves
    exact ⟨by simp only [hmod]; rfl, hmod⟩
  · cases hmod

theorem camera_nv12_gets_linear :
    boUseCameraRead &&& (i915AddCombinations.linearMask ||| i915AddCombinations.cameraMask) ≠ 0 ∧
      PrivateAddKeepsLinear id ∧
      ∀ (env : LayoutEnv) (width height : BitVec 32) (m : BoMetadata),
        i915BoComputeMetadata env (i915AddCombinations ⟨true, false⟩ ⟨.twoGpuIgpuDgpu, true, true⟩
            ⟨0, 0, 0⟩ (fun _ => 0) id) width height drmFormatNv12 boUseCameraRead none = .ok m →
          m.tiling = .none ∧ m.formatModifier = drmFormatModLinear :=
  have hid : PrivateAddKeepsLinear id := fun _ h => h
  ⟨by decide, hid, ((cpu_camera_use_gets_linear ⟨true, false⟩ ⟨.twoGpuIgpuDgpu, true, true⟩ ⟨0, 0, 0⟩
    (fun _ => 0) id drmFormatNv12 boUseCameraRead (by decide)).2 (.inr hid)).2⟩

-- ---------------------------------------------------------------------------
-- Scanout and the topology
-- ---------------------------------------------------------------------------

theorem scanout_respects_topology (dev : DeviceConfig) (masks : UseMasks)
    (extra : Combination → BitVec 64) (privateAdd : List Combination → List Combination)
    (hrender : masks.render &&& boUseScanout = 0) (format : BitVec 32) (useFlags : BitVec 64)
    (hscan : useFlags &&& boUseScanout ≠ 0) {c : Combination}
    (h : drvGetCombination (i915AddCombinations ⟨false, false⟩ dev masks extra privateAdd) format
      useFlags = some c) :
    (dev.hasDgpu → c.metadata.tiling ≠ .y) ∧ (dev.isKvm ∧ dev.isAdlp → c.metadata.tiling = .none) := by
  obtain ⟨hmem, -, hserves⟩ := drvGetCombination_mem h
  simp only [i915AddCombinations, Bool.false_eq_true, if_false] at hmem
  have hno : c.useFlags &&& boUseScanout ≠ 0 := fun h0 => hscan (and_eq_zero_of_includes hserves h0)
  -- A property of linear metadata that the X-tiled entries have or that comes with scanout-free
  -- flags holds of every entry with scanout.
  have hentry : ∀ Q : FormatMetadata → Prop, (∀ m : FormatMetadata, m.IsLinear → Q m) →
      (∀ call ∈ i915AddCombinations.xTiledCalls ⟨false, false⟩ dev masks,
        call.Admits Q (· &&& boUseScanout = 0)) →
      i915AddCombinations.yScanoutAndRender dev masks &&& boUseScanout = 0 → Q c.metadata := by
    intro Q hQ hx hy
    refine (RegistryCall.runAll_keeps (fun call hc =>
      RegistryCall.Admits.keeps (R := (· &&& boUseScanout = 0)) hQ ?_) (by simp) c hmem).resolve_right hno
    rcases List.mem_append.1 hc with hc | hc
    · rcases List.mem_append.1 hc with hc | hc
      · exact i915AddCombinations.linearCalls_admits (hQ _ ⟨rfl, rfl⟩) call hc
      · exact hx call hc
    · exact i915AddCombinations.yTiledCalls_admit_scanout_free hrender hy call hc
  have hx : ∀ Q : FormatMetadata → Prop, Q xTiledMetadata →
      ∀ call ∈ i915AddCombinations.xTiledCalls ⟨false, false⟩ dev masks,
        call.Admits Q (· &&& boUseScanout = 0) := by
    intro Q hQ
    simp [i915AddCombinations.xTiledCalls, RegistryCall.Admits, hQ]
  constructor
  · exact fun hd => hentry (·.tiling ≠ .y) (fun m hm => by show m.tiling ≠ .y; rw [hm.1]; decide)
      (hx _ (by decide))
      (i915AddCombinations.yScanoutAndRender_and_scanout (.inl hd))
  · intro hka
    have hxs : i915AddCombinations.xScanoutAndRender dev masks &&& boUseScanout = 0 := by
      simp only [i915AddCombinations.xScanoutAndRender, hka.1, hka.2, Bool.and_self, if_true,
        unsetFlags_and_self]
    refine hentry (·.tiling = .none) (fun m hm => hm.1) ?_
      (i915AddCombinations.yScanoutAndRender_and_scanout (.inr hka))
    simp only [i915AddCombinations.xTiledCalls, List.forall_mem_cons, RegistryCall.Admits,
      List.not_mem_nil, false_implies, implies_true, and_true]
    exact ⟨.inr (i915AddCombinations.tiledRender_and_scanout rfl hrender), .inr hxs⟩

/-- An `I915_SCANOUT_Y_TILED` build registers a Y-tiled NV12 entry with
scanout, and a scanout request for NV12 gets it on every topology, a
discrete GPU or a KVM guest on ADL-P included; without that flag and
`USE_GRALLOC1`, and with a render mask that leaves scanout out, no scanout
request gets a Y-tiled entry on a discrete GPU or a tiled one for a KVM
guest on ADL-P. -/
theorem scanout_nv12_y_tiled (dev : DeviceConfig) (masks : UseMasks)
    (extra : Combination → BitVec 64) (privateAdd : List Combination → List Combination) :
    drvGetCombination (i915AddCombinations ⟨false, true⟩ dev masks extra privateAdd) drmFormatNv12
        boUseScanout =
      some ⟨drmFormatNv12, yTiledMetadata, boUseTexture ||| boUseHwVideoDecoder ||| boUseScanout⟩ ∧
    (masks.render &&& boUseScanout = 0 → ∀ format useFlags (c : Combination), useFlags &&& boUseScanout ≠ 0 →
      drvGetCombination (i915AddCombinations ⟨false, false⟩ dev masks extra privateAdd) format useFlags =
        some c →
      (dev.hasDgpu → c.metadata.tiling ≠ .y) ∧ (dev.isKvm ∧ dev.isAdlp → c.metadata.tiling = .none)) := by
  refine ⟨?_, fun hrender format useFlags _ hscan h =>
    scanout_respects_topology dev masks extra privateAdd hrender format useFlags hscan h⟩
  have hpre : ∀ c ∈ RegistryCall.runAll extra (i915AddCombinations.linearCalls ⟨false, true⟩ masks ++
      i915AddCombinations.xTiledCalls ⟨false, true⟩ dev masks) [], c.metadata.priority < 3 := by
    refine RegistryCall.runAll_keeps (fun call hc =>
      RegistryCall.AddsWith.keeps (Q := fun m => m.priority < 3) ?_) (by simp)
    rcases List.mem_append.1 hc with hc | hc
    exacts [i915AddCombinations.linearCalls_addsWith (by decide) call hc,
      i915AddCombinations.xTiledCalls_addsWith (by decide) call hc]
  rw [i915AddCombinations.scanoutYTiled_registry]
  apply drvGetCombination_eq_of_dominates
  · exact List.mem_append.2 (.inr (List.mem_append.2 (.inl (List.mem_cons_self _ _))))
  · exact ⟨rfl, by decide⟩
  · intro c hc hs
    simp only [List.mem_append, List.mem_cons, List.mem_map] at hc
    rcases hc with hc | (rfl | rfl | ⟨f, hf, rfl⟩) | ⟨f, hf, rfl⟩
    · exact .inr (hpre c hc)
    · exact .inl rfl
    · exact absurd hs.1 (by decide)
    · exact absurd ((show f = drmFormatNv12 from hs.1) ▸ hf) (by decide)
    · exact absurd ((show f = drmFormatNv12 from hs.1) ▸ hf) (by decide)

end Minigbm.I915
