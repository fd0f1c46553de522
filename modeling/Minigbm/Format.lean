import Minigbm.Basic

/-!
# Formats, modifiers, tilings and use flags

The vocabulary both sources share: DRM fourcc format codes and format
modifiers (`drm_fourcc.h`), the i915 tiling modes (`i915_drm.h`), the
`BO_USE_*` bits and the private format codes of `drv.h`, and the plane
layout of a format that `helpers.c` tabulates.

`drv.h` and `helpers.c` are not part of the sources. The `BO_USE_*` bits
and the private codes are written with the values `drv.h` gives them; the
proofs use them only through the named bits being distinct. The format
table is not fixed at all: the layout code takes it as a parameter, so
every result about layouts holds for every table.
-/

namespace Minigbm

/-- `fourcc_code(a, b, c, d)`. -/
def fourccCode (a b c d : Char) : BitVec 32 :=
  BitVec.ofNat 32 (a.toNat + b.toNat * 2 ^ 8 + c.toNat * 2 ^ 16 + d.toNat * 2 ^ 24)

def drmFormatAbgr2101010 : BitVec 32 := fourccCode 'A' 'B' '3' '0'
def drmFormatAbgr8888 : BitVec 32 := fourccCode 'A' 'B' '2' '4'
def drmFormatArgb2101010 : BitVec 32 := fourccCode 'A' 'R' '3' '0'
def drmFormatArgb8888 : BitVec 32 := fourccCode 'A' 'R' '2' '4'
def drmFormatRgb565 : BitVec 32 := fourccCode 'R' 'G' '1' '6'
def drmFormatXbgr2101010 : BitVec 32 := fourccCode 'X' 'B' '3' '0'
def drmFormatXbgr8888 : BitVec 32 := fourccCode 'X' 'B' '2' '4'
def drmFormatXrgb2101010 : BitVec 32 := fourccCode 'X' 'R' '3' '0'
def drmFormatXrgb8888 : BitVec 32 := fourccCode 'X' 'R' '2' '4'
def drmFormatAbgr16161616f : BitVec 32 := fourccCode 'A' 'B' '4' 'H'
def drmFormatR8 : BitVec 32 := fourccCode 'R' '8' ' ' ' '
def drmFormatNv12 : BitVec 32 := fourccCode 'N' 'V' '1' '2'
def drmFormatP010 : BitVec 32 := fourccCode 'P' '0' '1' '0'
def drmFormatYvu420 : BitVec 32 := fourccCode 'Y' 'V' '1' '2'
def drmFormatBgr888 : BitVec 32 := fourccCode 'B' 'G' '2' '4'
def drmFormatRgb888 : BitVec 32 := fourccCode 'R' 'G' '2' '4'
def drmFormatYuyv : BitVec 32 := fourccCode 'Y' 'U' 'Y' 'V'

/-- Android's YV12, private to `drv.h`. -/
def drmFormatYvu420Android : BitVec 32 := fourccCode '9' '9' '9' '7'
/-- Android's `IMPLEMENTATION_DEFINED`, private to `drv.h`. -/
def drmFormatFlexImplementationDefined : BitVec 32 := fourccCode '9' '9' '9' '8'
/-- Android's `YCbCr_420_888`, private to `drv.h`. -/
def drmFormatFlexYCbCr420888 : BitVec 32 := fourccCode '9' '9' '9' '9'

/-- `fourcc_mod_code(vendor, val)`: the vendor in the top byte. -/
def fourccModCode (vendor val : Nat) : BitVec 64 := BitVec.ofNat 64 (vendor * 2 ^ 56 + val)

def drmFormatModLinear : BitVec 64 := 0
def i915FormatModXTiled : BitVec 64 := fourccModCode 1 1
def i915FormatModYTiled : BitVec 64 := fourccModCode 1 2
def i915FormatModYfTiled : BitVec 64 := fourccModCode 1 3
def i915FormatModYTiledCcs : BitVec 64 := fourccModCode 1 4
def i915FormatModYfTiledCcs : BitVec 64 := fourccModCode 1 5

/-- `I915_TILING_NONE`, `I915_TILING_X`, `I915_TILING_Y`. -/
inductive Tiling
  | none
  | x
  | y
  deriving DecidableEq, Repr

-- ---------------------------------------------------------------------------
-- BO_USE_* (drv.h)
-- ---------------------------------------------------------------------------

def boUseScanout : BitVec 64 := 1 <<< 0
def boUseCursor : BitVec 64 := 1 <<< 1
def boUseRendering : BitVec 64 := 1 <<< 2
def boUseLinear : BitVec 64 := 1 <<< 3
def boUseSwReadRarely : BitVec 64 := 1 <<< 5
def boUseSwReadOften : BitVec 64 := 1 <<< 6
def boUseSwWriteRarely : BitVec 64 := 1 <<< 8
def boUseSwWriteOften : BitVec 64 := 1 <<< 9
def boUseProtected : BitVec 64 := 1 <<< 11
def boUseHwVideoEncoder : BitVec 64 := 1 <<< 12
def boUseCameraWrite : BitVec 64 := 1 <<< 13
def boUseCameraRead : BitVec 64 := 1 <<< 14
def boUseRenderscript : BitVec 64 := 1 <<< 16
def boUseTexture : BitVec 64 := 1 <<< 17
def boUseHwVideoDecoder : BitVec 64 := 1 <<< 18

def boMapWrite : BitVec 32 := 1 <<< 1

-- ---------------------------------------------------------------------------
-- Plane layouts (helpers.c)
-- ---------------------------------------------------------------------------

/-- One plane of a `planar_layout`: its subsampling and bytes per pixel. -/
structure PlaneSubsampling where
  horizontal : BitVec 32
  vertical : BitVec 32
  bytesPerPixel : BitVec 32
  deriving DecidableEq, Repr

/-- A `planar_layout`: one entry per plane, so `drv_num_planes_from_format`
is the length of `planes`. -/
structure PlanarLayout where
  planes : List PlaneSubsampling
  deriving DecidableEq, Repr

/-- Modelled from the spec ("compute unaligned stride and per-plane height
from the format's plane-subsampling rules"): `drv_stride_from_format` of
`helpers.c` for one plane, in the 32-bit arithmetic of its result. -/
def PlaneSubsampling.stride (p : PlaneSubsampling) (width : BitVec 32) : BitVec 32 :=
  divRoundUp width p.horizontal * p.bytesPerPixel

/-- Modelled from the spec, as `PlaneSubsampling.stride`:
`drv_height_from_format` of `helpers.c` for one plane. -/
def PlaneSubsampling.height (p : PlaneSubsampling) (height : BitVec 32) : BitVec 32 :=
  divRoundUp height p.vertical

def PlaneSubsampling.strideNat (p : PlaneSubsampling) (width : BitVec 32) : Nat :=
  (width.toNat + p.horizontal.toNat - 1) / p.horizontal.toNat * p.bytesPerPixel.toNat

def PlaneSubsampling.rowsNat (p : PlaneSubsampling) (height : BitVec 32) : Nat :=
  (height.toNat + p.vertical.toNat - 1) / p.vertical.toNat

/-- `drv_stride_from_format(format, width, plane)`; a plane the format
does not have, where the C asserts, gives 0. -/
def PlanarLayout.stride (l : PlanarLayout) (width : BitVec 32) (plane : Nat) : BitVec 32 :=
  ((l.planes.get? plane).map (·.stride width)).getD 0

def PlanarLayout.packed (bpp : BitVec 32) : PlanarLayout := ⟨[⟨1, 1, bpp⟩]⟩

end Minigbm
