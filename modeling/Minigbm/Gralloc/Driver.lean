import Minigbm.Gralloc.Handle
import Minigbm.Combination

/-!
# The gralloc driver

`cros_gralloc_driver` keeps two tables under one mutex: `buffers_` maps a
kernel object id to the `cros_gralloc_buffer` stored for it, and
`handles_` maps a handle address to its buffer and a count of the handle's
own references. Buffers live on the heap and are reached through
pointers, so a table entry can in principle point at a buffer that was
deleted; `Minigbm.Gralloc.Invariant` shows that it never does.

Every entry point takes the mutex for its table work, so a run of the
driver under any interleaving of threads is a sequence of whole calls.
The kernel, the allocator and the buffers' own methods answer through a
`World`, one per call; `Reachable` closes the initial state under calls
whose world keeps the kernel's and the caller's contract.
-/

namespace Minigbm.Gralloc

open Minigbm

/-- `std::unordered_map::emplace`: inserts unless the key is present. -/
def emplace {α β : Type} [DecidableEq α] (k : α) (v : β) (m : Finmap fun _ : α => β) :
    Finmap fun _ : α => β :=
  if k ∈ m then m else m.insert k v

theorem emplace_of_not_mem {α β : Type} [DecidableEq α] {k : α} {m : Finmap fun _ : α => β}
    (h : k ∉ m) (v : β) : emplace k v m = m.insert k v := if_neg h

theorem lookup_insert_eq_some {α β : Type} [DecidableEq α] {m : Finmap fun _ : α => β} {a x : α}
    {v w : β} : (m.insert a v).lookup x = some w ↔ x = a ∧ v = w ∨ x ≠ a ∧ m.lookup x = some w := by
  by_cases hx : x = a
  · subst hx
    simp
  · simp [Finmap.lookup_insert_of_ne _ hx, hx]

/-- A `cros_gralloc_buffer`: the kernel object id it is stored under, the bo,
the handle it was allocated with (`nullptr` when imported), the reserved
region, and its reference count. -/
structure CrosGrallocBuffer where
  id : BitVec 32
  bo : Bo
  hnd : Option Ptr
  reservedRegionFd : Int
  reservedRegionSize : BitVec 64
  refcount : Nat

/-- Modelled from the spec ("creates a matching Buffer with refcount 1"):
the constructor of `cros_gralloc_buffer.cc`. -/
def CrosGrallocBuffer.new (id : BitVec 32) (bo : Bo) (hnd : Option Ptr) (reservedRegionFd : Int)
    (reservedRegionSize : BitVec 64) : CrosGrallocBuffer :=
  ⟨id, bo, hnd, reservedRegionFd, reservedRegionSize, 1⟩

/-- Modelled from the spec: `increase_refcount`. -/
def CrosGrallocBuffer.increaseRefcount (b : CrosGrallocBuffer) : CrosGrallocBuffer :=
  { b with refcount := b.refcount + 1 }

/-- Modelled from the spec: `decrease_refcount`, whose result is the new
count. -/
def CrosGrallocBuffer.decreaseRefcount (b : CrosGrallocBuffer) : CrosGrallocBuffer :=
  { b with refcount := b.refcount - 1 }

/-- The driver's tables and the buffers on the heap. A handle's count is a
natural number: it never drops below 1 in the table, so the decrement
that saturates at 0 agrees with the C's. -/
@[ext] structure CrosGrallocDriver where
  buffers : Finmap fun _ : BitVec 32 => Ptr
  handles : Finmap fun _ : Ptr => Ptr × Nat
  heap : Ptr → Option CrosGrallocBuffer

/-- The process the driver lives in: the driver and the counter
`next_buffer_id` of `allocate`, which starts at 1. -/
structure Process where
  driver : CrosGrallocDriver
  nextBufferId : BitVec 32

def Process.init : Process := ⟨⟨∅, ∅, fun _ => none⟩, 1⟩

-- ---------------------------------------------------------------------------
-- The world a call runs in
-- ---------------------------------------------------------------------------

/-- The bo `allocate` asks `drv.c` for: `drv_bo_create` with use flags, or,
in `USE_GRALLOC1` builds with a modifier, `drv_bo_create_with_modifiers`. -/
inductive BoRequest
  | create (width height format : BitVec 32) (useFlags : BitVec 64)
  | createWithModifiers (width height format : BitVec 32) (modifiers : List (BitVec 64))

/-- `struct drv_import_fd_data` as `retain` fills it from a handle. -/
structure DrvImportFdData where
  fds : List Int
  strides : List (BitVec 32)
  offsets : List (BitVec 32)
  formatModifiers : List (BitVec 64)
  width : BitVec 32
  height : BitVec 32
  format : BitVec 32
  useFlags : BitVec 64

/-- `struct rectangle`. -/
structure Rectangle where
  x : BitVec 32
  y : BitVec 32
  width : BitVec 32
  height : BitVec 32

inductive BufferMethod
  | lock (rect : Rectangle) (mapFlags : BitVec 32)
  | unlock
  | invalidate
  | flush
  | resourceInfo
  | getReservedRegion

/-- What answers a call from outside the driver: the library calls of
`drv.c`, the kernel, `memfd_create` and `ftruncate`, the addresses
`malloc` and `new` return, the fence wait, and the buffers' methods. -/
structure World where
  drvBoCreate : BoRequest → Option Bo
  memfdCreate : String → Except Errno Nat
  ftruncate : Nat → BitVec 64 → Option Errno
  malloc : Ptr
  new : Ptr
  primeFdToHandle : Int → Except Errno (BitVec 32)
  drvBoImport : DrvImportFdData → Option Bo
  syncWait : Int → Bool → Int
  bufferCall : Ptr → BufferMethod → Int

/-- What the driver takes from the backend and the build: `drv_resolve_format`,
the combinations the backend registered, the layout of the handle struct,
and the `#ifdef` switches. -/
structure Config where
  resolveFormat : BitVec 32 → BitVec 64 → BitVec 32
  combinations : List Combination
  handleLayout : HandleLayout
  build : BuildConfig

/-- A backend that resolves every format to itself and registers no
combination, with a handle struct of the fds and nothing else, built with
the given switches. -/
def Config.ofBuild (build : BuildConfig) : Config :=
  ⟨fun format _ => format, [], ⟨32, 5, rfl, by decide, by decide⟩, build⟩

-- ---------------------------------------------------------------------------
-- Table operations
-- ---------------------------------------------------------------------------

namespace CrosGrallocDriver

variable (dr : CrosGrallocDriver)

/-- `get_buffer`. -/
def getBuffer (addr : Ptr) : Option Ptr := (dr.handles.lookup addr).map Prod.fst

/-- The buffer at an address, as the C dereferences it; a default for a
dangling pointer, which no reachable state has. -/
def bufferAt (ptr : Ptr) : CrosGrallocBuffer :=
  (dr.heap ptr).getD ⟨0, ⟨[], by decide, 0, 0, 0, 0, 0, 0, 0⟩, none, -1, 0, 0⟩

def updateBuffer (ptr : Ptr) (f : CrosGrallocBuffer → CrosGrallocBuffer) : CrosGrallocDriver :=
  { dr with heap := Function.update dr.heap ptr ((dr.heap ptr).map f) }

/-- `handles_[addr].second++` on a registered handle. -/
def incrementHandle (addr : Ptr) : CrosGrallocDriver :=
  match dr.handles.lookup addr with
  | some (ptr, count) => { dr with handles := dr.handles.insert addr (ptr, count + 1) }
  | none => dr

/-- `if (!--handles_[addr].second) handles_.erase(addr);` on a registered
handle. -/
def decrementHandle (addr : Ptr) : CrosGrallocDriver :=
  match dr.handles.lookup addr with
  | some (ptr, count) =>
    if count - 1 = 0 then { dr with handles := dr.handles.erase addr }
    else { dr with handles := dr.handles.insert addr (ptr, count - 1) }
  | none => dr

/-- `handles_.emplace(addr, std::make_pair(ptr, 1))`. -/
def emplaceHandle (addr ptr : Ptr) : CrosGrallocDriver :=
  { dr with handles := emplace addr (ptr, 1) dr.handles }

/-- `new cros_gralloc_buffer(...)` at `ptr`, then `buffers_.emplace(id, ptr)`
and `handles_.emplace(addr, std::make_pair(ptr, 1))`. -/
def register (id : BitVec 32) (ptr : Ptr) (buffer : CrosGrallocBuffer) (addr : Ptr) :
    CrosGrallocDriver :=
  { buffers := emplace id ptr dr.buffers
    handles := emplace addr (ptr, 1) dr.handles
    heap := Function.update dr.heap ptr (some buffer) }

/-- `buffers_.erase(buffer->get_id()); delete buffer;` -/
def destroy (ptr : Ptr) : CrosGrallocDriver :=
  { dr with buffers := dr.buffers.erase (dr.bufferAt ptr).id, heap := Function.update dr.heap ptr none }

variable {dr} {addr ptr : Ptr} {count : Nat}

@[simp] theorem updateBuffer_buffers (f : CrosGrallocBuffer → CrosGrallocBuffer) :
    (dr.updateBuffer ptr f).buffers = dr.buffers := rfl
@[simp] theorem updateBuffer_handles (f : CrosGrallocBuffer → CrosGrallocBuffer) :
    (dr.updateBuffer ptr f).handles = dr.handles := rfl
@[simp] theorem updateBuffer_heap (f : CrosGrallocBuffer → CrosGrallocBuffer) :
    (dr.updateBuffer ptr f).heap = Function.update dr.heap ptr ((dr.heap ptr).map f) := rfl

@[simp] theorem emplaceHandle_buffers (p : Ptr) : (dr.emplaceHandle addr p).buffers = dr.buffers := rfl
@[simp] theorem emplaceHandle_heap (p : Ptr) : (dr.emplaceHandle addr p).heap = dr.heap := rfl
@[simp] theorem emplaceHandle_handles (p : Ptr) :
    (dr.emplaceHandle addr p).handles = emplace addr (p, 1) dr.handles := rfl

@[simp] theorem register_buffers (id : BitVec 32) (b : CrosGrallocBuffer) :
    (dr.register id ptr b addr).buffers = emplace id ptr dr.buffers := rfl
@[simp] theorem register_handles (id : BitVec 32) (b : CrosGrallocBuffer) :
    (dr.register id ptr b addr).handles = emplace addr (ptr, 1) dr.handles := rfl
@[simp] theorem register_heap (id : BitVec 32) (b : CrosGrallocBuffer) :
    (dr.register id ptr b addr).heap = Function.update dr.heap ptr (some b) := rfl

theorem register_eq {id : BitVec 32} {b : CrosGrallocBuffer} (hid : id ∉ dr.buffers)
    (haddr : addr ∉ dr.handles) :
    dr.register id ptr b addr = ⟨dr.buffers.insert id ptr, dr.handles.insert addr (ptr, 1),
      Function.update dr.heap ptr (some b)⟩ := by
  simp [register, emplace_of_not_mem hid, emplace_of_not_mem haddr]

@[simp] theorem destroy_handles : (dr.destroy ptr).handles = dr.handles := rfl

theorem incrementHandle_of_lookup (h : dr.handles.lookup addr = some (ptr, count)) :
    dr.incrementHandle addr = { dr with handles := dr.handles.insert addr (ptr, count + 1) } := by
  simp [incrementHandle, h]

theorem decrementHandle_of_lookup (h : dr.handles.lookup addr = some (ptr, count)) :
    dr.decrementHandle addr = if count - 1 = 0 then { dr with handles := dr.handles.erase addr }
      else { dr with handles := dr.handles.insert addr (ptr, count - 1) } := by
  simp [decrementHandle, h]

@[simp] theorem decrementHandle_buffers : (dr.decrementHandle addr).buffers = dr.buffers := by
  unfold decrementHandle; split <;> (try split) <;> rfl
@[simp] theorem decrementHandle_heap : (dr.decrementHandle addr).heap = dr.heap := by
  unfold decrementHandle; split <;> (try split) <;> rfl

end CrosGrallocDriver

-- ---------------------------------------------------------------------------
-- Entry points
-- ---------------------------------------------------------------------------

/-- `is_supported`: whether the registry has a combination for the resolved
format and the use flags, asked once more without `BO_USE_SCANOUT` when
that fails; with the descriptor as the call leaves it, whose use flags lose
`BO_USE_SCANOUT` on the second query. -/
def isSupported (c : Config) (d : BufferDescriptor) : Bool × BufferDescriptor :=
  let resolved := c.resolveFormat d.drmFormat d.useFlags
  if (drvGetCombination c.combinations resolved d.useFlags).isSome then (true, d)
  else if d.useFlags &&& boUseScanout ≠ 0 then
    let d' := { d with useFlags := d.useFlags &&& ~~~boUseScanout }
    ((drvGetCombination c.combinations resolved d'.useFlags).isSome, d')
  else (false, d)

/-- The flags `allocate` asks the bo for: linear for NV12, and no video
encoder for an `IMPLEMENTATION_DEFINED` buffer resolved to RGBX/RGBA. -/
def allocateUseFlags (d : BufferDescriptor) (resolved : BitVec 32) : BitVec 64 :=
  let useFlags := if resolved = drmFormatNv12 then d.useFlags ||| boUseLinear else d.useFlags
  if d.drmFormat = drmFormatFlexImplementationDefined ∧
      (resolved = drmFormatXbgr8888 ∨ resolved = drmFormatAbgr8888) then
    useFlags &&& ~~~boUseHwVideoEncoder
  else useFlags

def allocateBoRequest (c : Config) (d : BufferDescriptor) : BoRequest :=
  let resolved := c.resolveFormat d.drmFormat d.useFlags
  if c.build.useGralloc1 ∧ d.modifier ≠ 0 then .createWithModifiers d.width d.height resolved [d.modifier]
  else .create d.width d.height resolved (allocateUseFlags d resolved)

/-- `create_reserved_region`: the memfd, or the `errno` of `memfd_create` or
`ftruncate`, with the descriptors it opened. -/
def createReservedRegion (w : World) (name : String) (size : BitVec 64) :
    Except Errno Nat × List ResourceEvent :=
  match w.memfdCreate (name ++ " reserved region") with
  | .error e => (.error e, [])
  | .ok fd => match w.ftruncate fd size with
    | some e => (.error e, [.acquire (.fd fd)])
    | none => (.ok fd, [.acquire (.fd fd)])

/-- The reserved region `allocate` sets up: `create_reserved_region` when the
descriptor asks for one, the fd -1 otherwise. -/
def reservedRegionOf (w : World) (d : BufferDescriptor) : Except Errno Int × List ResourceEvent :=
  if d.reservedRegionSize ≠ 0 then
    let r := createReservedRegion w d.name d.reservedRegionSize
    (r.1.map Int.ofNat, r.2)
  else (.ok (-1), [])

/-- What `allocate` returns: the status, the process after it, `*out_handle`,
and the resources it acquired and released. -/
structure AllocateResult where
  status : Int
  process : Process
  handle : Option BufferHandle
  events : List ResourceEvent

/-- `cros_gralloc_driver::allocate`. -/
def allocate (c : Config) (w : World) (d : BufferDescriptor) (p : Process) : AllocateResult :=
  match w.drvBoCreate (allocateBoRequest c d) with
  | none => ⟨ENOMEM.neg, p, none, []⟩
  | some bo =>
    let created := [ResourceEvent.acquire (.gem bo.handle0)]
    let destroyed := [ResourceEvent.release (.gem bo.handle0)]
    if bo.numBuffers ≠ 1 then ⟨EINVAL.neg, p, none, created ++ destroyed⟩
    else
      let region := reservedRegionOf w d
      match region.1 with
      | .error e => ⟨e.neg, p, none, created ++ region.2 ++ destroyed⟩
      | .ok reservedRegionFd =>
        let hnd := (crosGrallocHandleOf c.handleLayout d bo reservedRegionFd p.nextBufferId).1
        let buffer := CrosGrallocBuffer.new bo.handle0 bo (some w.malloc) reservedRegionFd
          d.reservedRegionSize
        ⟨0, ⟨p.driver.register bo.handle0 w.new buffer w.malloc, p.nextBufferId + 1⟩,
          some ⟨w.malloc, hnd⟩, created ++ region.2 ++ bo.planes.map (.acquire <| .fd ·.fd)⟩

/-- The import request `retain` builds from a handle. -/
def importData (hnd : CrosGrallocHandle) : DrvImportFdData :=
  ⟨hnd.fds.take drvMaxPlanes, hnd.strides, hnd.offsets, List.replicate drvMaxPlanes hnd.formatModifier,
    hnd.width, hnd.height, hnd.format, hnd.useFlags⟩

theorem importData_fd0 (hnd : CrosGrallocHandle) :
    (importData hnd).fds.getD 0 (-1) = hnd.fds.getD 0 (-1) := by
  unfold importData
  generalize hnd.fds = fds
  cases fds <;> rfl

namespace CrosGrallocDriver

variable (dr : CrosGrallocDriver) (w : World)

/-- `cros_gralloc_driver::retain`. -/
def retain (handle : BufferHandle) : Int × CrosGrallocDriver :=
  match crosGrallocConvertHandle handle with
  | none => (EINVAL.neg, dr)
  | some h =>
    match dr.getBuffer h.addr with
    | some ptr => (0, (dr.incrementHandle h.addr).updateBuffer ptr CrosGrallocBuffer.increaseRefcount)
    | none =>
      match w.primeFdToHandle (h.hnd.fds.getD 0 (-1)) with
      | .error e => (e.neg, dr)
      | .ok id =>
        match dr.buffers.lookup id with
        | some ptr => (0, (dr.updateBuffer ptr CrosGrallocBuffer.increaseRefcount).emplaceHandle h.addr ptr)
        | none =>
          match w.drvBoImport (importData h.hnd) with
          | none => (EFAULT.neg, dr)
          | some bo =>
            (0, dr.register bo.handle0 w.new (CrosGrallocBuffer.new bo.handle0 bo none
              (h.hnd.fds.getD h.hnd.numPlanes (-1)) h.hnd.reservedRegionSize) h.addr)

/-- `cros_gralloc_driver::release`. -/
def release (handle : BufferHandle) : Int × CrosGrallocDriver :=
  match crosGrallocConvertHandle handle with
  | none => (EINVAL.neg, dr)
  | some h =>
    match dr.getBuffer h.addr with
    | none => (EINVAL.neg, dr)
    | some ptr =>
      let dr' := (dr.decrementHandle h.addr).updateBuffer ptr CrosGrallocBuffer.decreaseRefcount
      if (dr'.bufferAt ptr).refcount = 0 then (0, dr'.destroy ptr) else (0, dr')

/-- The prelude the remaining entry points share: the buffer of a valid,
registered handle, or `-EINVAL`. -/
def lookupBuffer (handle : BufferHandle) : Except Int Ptr :=
  match crosGrallocConvertHandle handle with
  | none => .error EINVAL.neg
  | some h => match dr.getBuffer h.addr with
    | none => .error EINVAL.neg
    | some ptr => .ok ptr

def callBuffer (handle : BufferHandle) (m : BufferMethod) : Int :=
  match dr.lookupBuffer handle with
  | .error status => status
  | .ok ptr => w.bufferCall ptr m

/-- `lock`: the fence wait, before the mutex, then the buffer's `lock`. -/
def lock (handle : BufferHandle) (acquireFence : Int) (closeAcquireFence : Bool)
    (rect : Rectangle) (mapFlags : BitVec 32) : Int :=
  let ret := w.syncWait acquireFence closeAcquireFence
  if ret ≠ 0 then ret else dr.callBuffer w handle (.lock rect mapFlags)

/-- `unlock`, with the release fence it writes once the buffer is found. -/
def unlock (handle : BufferHandle) : Int × Option Int :=
  match dr.lookupBuffer handle with
  | .error status => (status, none)
  | .ok ptr => (w.bufferCall ptr .unlock, some (-1))

def invalidate (handle : BufferHandle) : Int := dr.callBuffer w handle .invalidate

/-- `flush`, with the release fence it writes once the buffer is found. -/
def flush (handle : BufferHandle) : Int × Option Int :=
  match dr.lookupBuffer handle with
  | .error status => (status, none)
  | .ok ptr => (w.bufferCall ptr .flush, some (-1))

def resourceInfo (handle : BufferHandle) : Int := dr.callBuffer w handle .resourceInfo

def getReservedRegion (handle : BufferHandle) : Int := dr.callBuffer w handle .getReservedRegion

/-- `get_backing_store`: the handle's own `id` in `USE_GRALLOC1` builds,
otherwise the id of its buffer. -/
def getBackingStore (build : BuildConfig) (handle : BufferHandle) : Int × Option (BitVec 64) :=
  if build.useGralloc1 then
    match crosGrallocConvertHandle handle with
    | none => (EINVAL.neg, none)
    | some h => (0, some (h.hnd.id.setWidth 64))
  else
    match dr.lookupBuffer handle with
    | .error status => (status, none)
    | .ok ptr => (0, some ((dr.bufferAt ptr).id.setWidth 64))

end CrosGrallocDriver

-- ---------------------------------------------------------------------------
-- Runs
-- ---------------------------------------------------------------------------

inductive Call
  | allocate (d : BufferDescriptor)
  | retain (handle : BufferHandle)
  | release (handle : BufferHandle)
  | lock (handle : BufferHandle) (acquireFence : Int) (closeAcquireFence : Bool) (rect : Rectangle)
      (mapFlags : BitVec 32)
  | unlock (handle : BufferHandle)
  | invalidate (handle : BufferHandle)
  | flush (handle : BufferHandle)
  | getBackingStore (handle : BufferHandle)
  | resourceInfo (handle : BufferHandle)
  | getReservedRegion (handle : BufferHandle)

def Process.exec (c : Config) (w : World) : Call → Process → Int × Process
  | .allocate d, p => let r := allocate c w d p; (r.status, r.process)
  | .retain handle, p => let r := p.driver.retain w handle; (r.1, { p with driver := r.2 })
  | .release handle, p => let r := p.driver.release handle; (r.1, { p with driver := r.2 })
  | .lock handle fence close rect flags, p => (p.driver.lock w handle fence close rect flags, p)
  | .unlock handle, p => ((p.driver.unlock w handle).1, p)
  | .invalidate handle, p => (p.driver.invalidate w handle, p)
  | .flush handle, p => ((p.driver.flush w handle).1, p)
  | .getBackingStore handle, p => ((p.driver.getBackingStore c.build handle).1, p)
  | .resourceInfo handle, p => (p.driver.resourceInfo w handle, p)
  | .getReservedRegion handle, p => (p.driver.getReservedRegion w handle, p)

/-- The kernel's and the caller's side of the contract, for one call: a GEM
handle `drv_bo_create` returns is the id of no buffer in the table,
`drv_bo_import` returns the GEM handle `drmPrimeFDToHandle` gives for the
same fd, `malloc` returns a non-null handle address not in the table (the
C writes through it at once), and `new` an address no live buffer has. -/
structure World.Contract (w : World) (dr : CrosGrallocDriver) : Prop where
  created_fresh : ∀ r bo, w.drvBoCreate r = some bo → bo.handle0 ∉ dr.buffers
  import_same : ∀ data bo id, w.drvBoImport data = some bo →
    w.primeFdToHandle (data.fds.getD 0 (-1)) = .ok id → bo.handle0 = id
  malloc_ne_zero : w.malloc ≠ 0
  malloc_fresh : w.malloc ∉ dr.handles
  new_fresh : dr.heap w.new = none

inductive Step (c : Config) : Process → Process → Prop
  | call {p : Process} (w : World) (call : Call) : w.Contract p.driver → Step c p (p.exec c w call).2

/-- The processes a run of calls reaches from the start. -/
inductive Reachable (c : Config) : Process → Prop
  | init : Reachable c Process.init
  | step {p p' : Process} : Reachable c p → Step c p p' → Reachable c p'

end Minigbm.Gralloc
