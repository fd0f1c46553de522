import Minigbm.Format

/-!
# Buffer handles

A `cros_gralloc_handle` is a `native_handle_t` header (`version`, `numFds`,
`numInts`) followed by ints: first the fds, then the metadata, then the
buffer's name at int `name_offset`. Consumers copy `numFds + numInts` ints
after the header (`native_handle_clone`, binder), so the header has to
count exactly the ints that were allocated.

`allocate` counts `numInts` in bytes: the header then claims about four
times the allocation, for every name and plane count
(`handle_ints_overcount`). The fd count and the place of the name are as
they should be.
-/

namespace Minigbm.Gralloc

open Minigbm

/-- An address in the process. -/
abbrev Ptr := Nat

/-- `DRV_MAX_PLANES` of `drv.h`. -/
def drvMaxPlanes : Nat := 4

/-- `sizeof(native_handle_t)`: three ints. -/
def sizeofNativeHandle : Nat := 12

/-- The layout of `struct cros_gralloc_handle`, whose header is not part of
the sources: its size, and `handle_data_size`, the ints after the
`native_handle_t` header, the fds array of `DRV_MAX_PLANES + 1` first. -/
structure HandleLayout where
  size : Nat
  dataSize : Nat
  size_eq : size = sizeofNativeHandle + 4 * dataSize
  fds_fit : drvMaxPlanes + 1 ≤ dataSize
  size_lt : size < 2 ^ 16

def crosGrallocMagic : BitVec 32 := 0xABCDDCBA

/-- A `cros_gralloc_buffer_descriptor`, with the fields `allocate` reads. -/
structure BufferDescriptor where
  width : BitVec 32
  height : BitVec 32
  drmFormat : BitVec 32
  useFlags : BitVec 64
  modifier : BitVec 64
  name : String
  reservedRegionSize : BitVec 64
  deriving DecidableEq, Repr

/-- One plane of a bo as its accessors `drv_bo_get_plane_*` give it. -/
structure BoPlane where
  fd : Int
  stride : BitVec 32
  offset : BitVec 32
  size : BitVec 32
  deriving DecidableEq, Repr

/-- A `struct bo` as the driver sees it through `drv.h`: its planes, at most
`DRV_MAX_PLANES`, the GEM handle of plane 0, the number of kernel buffers
behind it, and its dimensions, format, modifier and total size. -/
structure Bo where
  planes : List BoPlane
  planes_le : planes.length ≤ drvMaxPlanes
  handle0 : BitVec 32
  numBuffers : Nat
  width : BitVec 32
  height : BitVec 32
  format : BitVec 32
  formatModifier : BitVec 64
  totalSize : BitVec 64

/-- The fields of a `cros_gralloc_handle` the driver writes and reads. `fds`
holds `fds[0 .. num_planes]`, the last one the reserved region's or -1. -/
structure CrosGrallocHandle where
  numFds : Nat
  numInts : Nat
  fds : List Int
  strides : List (BitVec 32)
  offsets : List (BitVec 32)
  numPlanes : Nat
  id : BitVec 32
  width : BitVec 32
  height : BitVec 32
  format : BitVec 32
  formatModifier : BitVec 64
  useFlags : BitVec 64
  magic : BitVec 32
  reservedRegionSize : BitVec 64
  nameOffset : Nat
  name : String
  deriving DecidableEq, Repr

/-- A `buffer_handle_t` as the driver receives it: the address, which keys
the handle table, and the handle stored there. -/
structure BufferHandle where
  addr : Ptr
  hnd : CrosGrallocHandle
  deriving DecidableEq, Repr

/-- Modelled from the spec ("fails with invalid-argument on a malformed
handle"): `cros_gralloc_convert_handle` of `cros_gralloc_helpers.cc`, which
turns away a null handle and one without the magic `allocate` writes. -/
def crosGrallocConvertHandle (h : BufferHandle) : Option BufferHandle :=
  if h.addr ≠ 0 ∧ h.hnd.magic = crosGrallocMagic then some h else none

/-- `num_fds` of `allocate`: one per plane, one more for a reserved region. -/
def numFdsOf (d : BufferDescriptor) (bo : Bo) : Nat :=
  bo.planes.length + if d.reservedRegionSize ≠ 0 then 1 else 0

/-- `num_bytes` of `allocate`: the handle and the name with its terminator,
rounded up to a whole int. -/
def numBytesOf (l : HandleLayout) (d : BufferDescriptor) : Nat :=
  (align (BitVec.ofNat 64 (l.size + d.name.utf8ByteSize + 1)) 4).toNat

/-- The handle `allocate` builds for a bo, with the size it `malloc`s. -/
def crosGrallocHandleOf (l : HandleLayout) (d : BufferDescriptor) (bo : Bo)
    (reservedRegionFd : Int) (id : BitVec 32) : CrosGrallocHandle × Nat :=
  let numBytes := numBytesOf l d
  let numFds := numFdsOf d bo
  (⟨numFds, numBytes - sizeofNativeHandle - numFds, bo.planes.map (·.fd) ++ [reservedRegionFd],
    bo.planes.map (·.stride), bo.planes.map (·.offset), bo.planes.length, id, bo.width,
    bo.height, bo.format, bo.formatModifier, d.useFlags, crosGrallocMagic, d.reservedRegionSize,
    l.dataSize, d.name⟩, numBytes)

-- ---------------------------------------------------------------------------
-- The size the header claims
-- ---------------------------------------------------------------------------

theorem numBytesOf_eq (l : HandleLayout) (d : BufferDescriptor)
    (hname : d.name.utf8ByteSize < 2 ^ 32) :
    numBytesOf l d = (l.size + d.name.utf8ByteSize + 1 + 3) / 4 * 4 := by
  have := l.size_lt
  rw [numBytesOf, align_toNat (k := 2) (by decide)] <;>
    rw [BitVec.toNat_ofNat, Nat.mod_eq_of_lt (by omega)] <;> omega

theorem numFdsOf_le (d : BufferDescriptor) (bo : Bo) : numFdsOf d bo ≤ drvMaxPlanes + 1 := by
  have := bo.planes_le
  unfold numFdsOf
  split <;> omega

theorem name_within_allocation (l : HandleLayout) (d : BufferDescriptor) (bo : Bo) (fd : Int)
    (id : BitVec 32) (hname : d.name.utf8ByteSize < 2 ^ 32) :
    sizeofNativeHandle + 4 * (crosGrallocHandleOf l d bo fd id).1.nameOffset +
      d.name.utf8ByteSize + 1 ≤ (crosGrallocHandleOf l d bo fd id).2 := by
  simp only [crosGrallocHandleOf, numBytesOf_eq l d hname, ← l.size_eq]
  omega

theorem header_overcount (l : HandleLayout) (d : BufferDescriptor) (bo : Bo) (fd : Int)
    (id : BitVec 32) (hname : d.name.utf8ByteSize < 2 ^ 32) :
    sizeofNativeHandle + 4 * ((crosGrallocHandleOf l d bo fd id).1.numFds +
        (crosGrallocHandleOf l d bo fd id).1.numInts) =
      4 * (crosGrallocHandleOf l d bo fd id).2 - 36 ∧
    (crosGrallocHandleOf l d bo fd id).2 < 4 * (crosGrallocHandleOf l d bo fd id).2 - 36 := by
  have hfds := numFdsOf_le d bo
  have hsize := l.size_eq
  have hfit := l.fds_fit
  simp only [crosGrallocHandleOf, numBytesOf_eq l d hname, sizeofNativeHandle, drvMaxPlanes] at *
  omega

/-- A handle for a buffer with an empty name and no reserved region, over any
bo and any layout of the handle struct: a consumer copying `numFds + numInts`
ints reads about three times the allocation past its end. The name and its
terminator, for any descriptor, lie inside the allocation. -/
theorem handle_ints_overcount (l : HandleLayout) (bo : Bo) (width height format : BitVec 32)
    (useFlags : BitVec 64) (fd : Int) (id : BitVec 32) :
    let d : BufferDescriptor := ⟨width, height, format, useFlags, 0, "", 0⟩
    sizeofNativeHandle + 4 * ((crosGrallocHandleOf l d bo fd id).1.numFds +
        (crosGrallocHandleOf l d bo fd id).1.numInts) ≠ (crosGrallocHandleOf l d bo fd id).2 ∧
    ∀ d' : BufferDescriptor, d'.name.utf8ByteSize < 2 ^ 32 →
      sizeofNativeHandle + 4 * (crosGrallocHandleOf l d' bo fd id).1.nameOffset +
        d'.name.utf8ByteSize + 1 ≤ (crosGrallocHandleOf l d' bo fd id).2 := by
  intro d
  have h := header_overcount l d bo fd id (by decide : ("" : String).utf8ByteSize < 2 ^ 32)
  exact ⟨by omega, fun d' hname => name_within_allocation l d' bo fd id hname⟩

end Minigbm.Gralloc
