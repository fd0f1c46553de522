import Minigbm.Combination

/-!
# The i915 layout engine

`i915_bo_compute_metadata` picks a modifier, from the caller's list or
from the registry, turns it into a tiling, and lays the planes out in one
of three branches: Android's YV12 through `drv_bo_from_format`, the Y-tiled
surface with its compression control surface, and the generic plane loop
of `i915_bo_from_format`. All of it is 32-bit arithmetic.

`drv_bo_from_format`, the format table of `helpers.c` and `getpagesize()`
are not in the sources: the layout code takes them from a `LayoutEnv`, and
what is asked of `drv_bo_from_format` is only `LayoutEnv.RecordsStride`,
from spec step 3. `i915BoComputeMetadata_ok` reads a success back as the
modifier chosen and the layout of that modifier; the laws of the engine are
in `Minigbm.I915.LayoutLaws`.
-/

namespace Minigbm.I915

open Minigbm

/-- One plane of `bo->meta`: `strides[i]`, `sizes[i]`, `offsets[i]`. -/
structure PlaneMeta where
  stride : BitVec 32
  size : BitVec 32
  offset : BitVec 32
  deriving DecidableEq, Repr

/-- The part of `bo->meta` the layout engine writes. `planes` holds planes
`0 .. num_planes - 1`. -/
structure BoMetadata where
  tiling : Tiling
  formatModifier : BitVec 64
  planes : List PlaneMeta
  totalSize : BitVec 32
  deriving DecidableEq, Repr

/-- `strides[0]`, zero (as `drv_bo_new` leaves it) for a layout without
planes. -/
def BoMetadata.stride0 (m : BoMetadata) : BitVec 32 := (m.planes.head?.map PlaneMeta.stride).getD 0

/-- What the layout code takes from outside `i915.c`: the format table of
`helpers.c`, `getpagesize()`, the build, and `drv_bo_from_format`, which
lays out Android's YV12 from a luma stride and a height. -/
structure LayoutEnv where
  layoutFromFormat : BitVec 32 → PlanarLayout
  pagesize : BitVec 32
  build : BuildConfig
  drvBoFromFormat : BitVec 32 → BitVec 32 → BitVec 32 → List PlaneMeta × BitVec 32

/-- Modelled from the spec (step 3: the legacy Android planar format is laid
out from the stride `ALIGN(width, 32)`): `drv_bo_from_format`, which is not
in the sources, records the stride it is handed as `strides[0]`. -/
def LayoutEnv.RecordsStride (env : LayoutEnv) : Prop :=
  ∀ stride height format, (env.drvBoFromFormat stride height format).1.head?.map PlaneMeta.stride = some stride

/-- Modelled from the comment of the YV12 branch ("the Cr and Cb stride to be
ALIGN(Y_stride / 2, 16)"): `drv_bo_from_format` for
`DRM_FORMAT_YVU420_ANDROID`, the luma plane at the stride it is handed, then
Cr and Cb at half of it and half the rows. -/
def drvBoFromFormatYvu420Android (stride height : BitVec 32) : List PlaneMeta × BitVec 32 :=
  let cStride := align (stride / 2) 16
  let ySize := stride * height
  let cSize := cStride * divRoundUp height 2
  ([⟨stride, ySize, 0⟩, ⟨cStride, cSize, ySize⟩, ⟨cStride, cSize, ySize + cSize⟩], ySize + cSize + cSize)

-- ---------------------------------------------------------------------------
-- i915_align_dimensions, i915_bo_from_format
-- ---------------------------------------------------------------------------

/-- The `switch (tiling)` of `i915_align_dimensions`: horizontal (bytes)
and vertical (rows) alignment. -/
def tilingAlignment : Tiling → BitVec 32 × BitVec 32
  | .none => (64, 4)
  | .x => (512, 8)
  | .y => (128, 32)

/-- `i915_align_dimensions`, returning the aligned stride and height. -/
def i915AlignDimensions (build : BuildConfig) (format : BitVec 32) (tiling : Tiling)
    (stride alignedHeight : BitVec 32) : BitVec 32 × BitVec 32 :=
  ((if build.useGralloc1 ∧ format = drmFormatR8 then stride
    else align stride (tilingAlignment tiling).1),
   align alignedHeight (tilingAlignment tiling).2)

/-- The plane loop of `i915_bo_from_format` from the running `offset` on:
the planes it writes and the offset after them. -/
def i915BoFromFormat.planeLoop (build : BuildConfig) (format : BitVec 32) (tiling : Tiling)
    (width height : BitVec 32) : List PlaneSubsampling → BitVec 32 → List PlaneMeta × BitVec 32
  | [], offset => ([], offset)
  | p :: ps, offset =>
    let aligned := i915AlignDimensions build format tiling (p.stride width) (p.height height)
    let size := aligned.1 * aligned.2
    let rest := planeLoop build format tiling width height ps (offset + size)
    (⟨aligned.1, size, offset⟩ :: rest.1, rest.2)

/-- `i915_bo_from_format`: the planes, and the total size rounded up to the
page size. -/
def i915BoFromFormat (env : LayoutEnv) (tiling : Tiling) (width height format : BitVec 32) :
    List PlaneMeta × BitVec 32 :=
  let loop := i915BoFromFormat.planeLoop env.build format tiling width height
    (env.layoutFromFormat format).planes 0
  (loop.1, align loop.2 env.pagesize)

-- ---------------------------------------------------------------------------
-- i915_bo_compute_metadata
-- ---------------------------------------------------------------------------

/-- `modifier_order` of `i915_bo_compute_metadata`. -/
def modifierOrder : List (BitVec 64) := [i915FormatModYTiled, i915FormatModXTiled, drmFormatModLinear]

/-- Modelled from the spec ("pick the first entry, in descending preference
order ..., that also appears in the supplied list"): `drv_pick_modifier`
of `drv.c`; linear, last in every order, when the list has none of them. -/
def drvPickModifier (modifiers order : List (BitVec 64)) : BitVec 64 :=
  (order.find? (· ∈ modifiers)).getD drmFormatModLinear

/-- The `switch (modifier)` of `i915_bo_compute_metadata`. A modifier it has
no case for leaves the tiling `drv_bo_new` zeroed, `I915_TILING_NONE`. -/
def tilingOfModifier (build : BuildConfig) (m : BitVec 64) : Tiling :=
  if m = drmFormatModLinear then .none
  else if m = i915FormatModXTiled then .x
  else if m = i915FormatModYTiled ∨ m = i915FormatModYTiledCcs then .y
  else if build.useGralloc1 ∧ (m = i915FormatModYfTiled ∨ m = i915FormatModYfTiledCcs) then .y
  else .none

/-- The modifier `i915_bo_compute_metadata` lays out with: the preferred one
of the caller's list, else the registry's choice for the format and use
flags, or `-EINVAL` when the registry has none. -/
def i915ModifierFor (combos : List Combination) (format : BitVec 32) (useFlags : BitVec 64) :
    Option (List (BitVec 64)) → Except Errno (BitVec 64)
  | some modifiers => .ok (drvPickModifier modifiers modifierOrder)
  | none => match drvGetCombination combos format useFlags with
    | some combo => .ok combo.metadata.modifier
    | none => .error EINVAL

/-- The `I915_FORMAT_MOD_Y_TILED_CCS` branch: the main surface in Y tiles of
128 bytes x 32 rows, then the control surface, one tile per 32 x 16 main
tiles. -/
def i915CcsLayout (stride height : BitVec 32) : List PlaneMeta × BitVec 32 :=
  let widthInTiles := divRoundUp stride 128
  let heightInTiles := divRoundUp height 32
  let size := widthInTiles * heightInTiles * 4096
  let ccsWidthInTiles := divRoundUp widthInTiles 32
  let ccsHeightInTiles := divRoundUp heightInTiles 16
  let ccsSize := ccsWidthInTiles * ccsHeightInTiles * 4096
  ([⟨widthInTiles * 128, size, 0⟩, ⟨ccsWidthInTiles * 128, ccsSize, 0 + size⟩], 0 + size + ccsSize)

/-- The three layout branches of `i915_bo_compute_metadata`. -/
def i915Layout (env : LayoutEnv) (modifier : BitVec 64) (width height format : BitVec 32) :
    List PlaneMeta × BitVec 32 :=
  if format = drmFormatYvu420Android then env.drvBoFromFormat (align width 32) height format
  else if modifier = i915FormatModYTiledCcs then
    i915CcsLayout ((env.layoutFromFormat format).stride width 0) height
  else i915BoFromFormat env (tilingOfModifier env.build modifier) width height format

/-- `i915_bo_compute_metadata`. -/
def i915BoComputeMetadata (env : LayoutEnv) (combos : List Combination)
    (width height format : BitVec 32) (useFlags : BitVec 64) (modifiers : Option (List (BitVec 64))) :
    Except Errno BoMetadata :=
  (i915ModifierFor combos format useFlags modifiers).map fun modifier =>
    let layout := i915Layout env modifier width height format
    ⟨tilingOfModifier env.build modifier, modifier, layout.1, layout.2⟩

theorem i915BoComputeMetadata_ok {env : LayoutEnv} {combos : List Combination}
    {width height format : BitVec 32} {useFlags : BitVec 64} {modifiers : Option (List (BitVec 64))}
    {m : BoMetadata} (h : i915BoComputeMetadata env combos width height format useFlags modifiers = .ok m) :
    ∃ modifier, i915ModifierFor combos format useFlags modifiers = .ok modifier ∧
      m = ⟨tilingOfModifier env.build modifier, modifier,
        (i915Layout env modifier width height format).1, (i915Layout env modifier width height format).2⟩ := by
  unfold i915BoComputeMetadata at h
  cases hm : i915ModifierFor combos format useFlags modifiers with
  | error e => simp [hm, Except.map] at h
  | ok modifier =>
    simp only [hm, Except.map, Except.ok.injEq] at h
    exact ⟨modifier, rfl, h.symm⟩

end Minigbm.I915
