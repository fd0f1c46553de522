import Minigbm.Gralloc.BackingStore

/-!
# Releases in any order

`release` runs under `mutex_`, so the releases of several threads take
effect one after the other, in the order the threads get the lock. That
order does not matter: a release drops the reference of its own handle
entry and of its own buffer, and deletes the buffer once no reference is
left, so two releases give the same tables and heap in either order
(`release_comm`), and so does any batch of them, from every state
(`releases_any_order`): no interleaving of the threads changes which
references are dropped or which buffers are deleted.

The proof splits a release of a valid, registered handle into its two
halves (`release_eq_dropBuffer`): `decrementHandle` on the handle table,
then `dropBuffer` on the buffer table and the heap. Each half commutes with
the other and with itself at another address or buffer.
-/

namespace Minigbm.Gralloc

open Minigbm

namespace CrosGrallocDriver

/-- The second half of `release`: `buffer->decrease_refcount()`, and when no
reference is left, `buffers_.erase(buffer->get_id()); delete buffer;`. -/
def dropBuffer (dr : CrosGrallocDriver) (ptr : Ptr) : CrosGrallocDriver :=
  let dr' := dr.updateBuffer ptr CrosGrallocBuffer.decreaseRefcount
  if (dr'.bufferAt ptr).refcount = 0 then dr'.destroy ptr else dr'

variable {dr : CrosGrallocDriver} {a addr ptr : Ptr}

theorem bufferAt_updateBuffer_congr {dr' : CrosGrallocDriver} (h : dr.heap ptr = dr'.heap ptr)
    (f : CrosGrallocBuffer → CrosGrallocBuffer) :
    (dr.updateBuffer ptr f).bufferAt ptr = (dr'.updateBuffer ptr f).bufferAt ptr := by
  simp [bufferAt, h]

section
variable (dr ptr)

@[simp] theorem dropBuffer_handles : (dr.dropBuffer ptr).handles = dr.handles := by
  unfold dropBuffer
  dsimp only
  split <;> rfl

theorem dropBuffer_buffers : (dr.dropBuffer ptr).buffers =
    let b := (dr.updateBuffer ptr CrosGrallocBuffer.decreaseRefcount).bufferAt ptr
    if b.refcount = 0 then dr.buffers.erase b.id else dr.buffers := by
  unfold dropBuffer
  dsimp only
  split <;> rfl

theorem dropBuffer_heap : (dr.dropBuffer ptr).heap = Function.update dr.heap ptr
    (if ((dr.updateBuffer ptr CrosGrallocBuffer.decreaseRefcount).bufferAt ptr).refcount = 0 then none
    else (dr.heap ptr).map CrosGrallocBuffer.decreaseRefcount) := by
  unfold dropBuffer
  dsimp only
  split
  · simp [destroy, updateBuffer]
  · rfl

end

theorem dropBuffer_heap_ne {q : Ptr} (hq : q ≠ ptr) : (dr.dropBuffer ptr).heap q = dr.heap q := by
  rw [dropBuffer_heap, Function.update_noteq hq]

theorem decrementHandle_lookup (a : Ptr) : (dr.decrementHandle addr).handles.lookup a =
    if a = addr then (dr.handles.lookup addr).bind fun v => if v.2 - 1 = 0 then none else some (v.1, v.2 - 1)
    else dr.handles.lookup a := by
  unfold decrementHandle
  by_cases ha : a = addr
  · subst ha
    split <;> (try split) <;> simp_all
  · rw [if_neg ha]
    split <;> (try split) <;> simp [ha, Finmap.lookup_erase_ne, Finmap.lookup_insert_of_ne]

theorem decrementHandle_handles_congr {dr' : CrosGrallocDriver} (h : dr.handles = dr'.handles) :
    (dr.decrementHandle addr).handles = (dr'.decrementHandle addr).handles :=
  Finmap.ext_lookup fun a => by rw [decrementHandle_lookup, decrementHandle_lookup, h]

theorem decrementHandle_dropBuffer :
    (dr.dropBuffer ptr).decrementHandle addr = (dr.decrementHandle addr).dropBuffer ptr := by
  have hb : ((dr.dropBuffer ptr).decrementHandle addr).buffers = (dr.dropBuffer ptr).buffers := by simp
  have hh : ((dr.dropBuffer ptr).decrementHandle addr).heap = (dr.dropBuffer ptr).heap := by simp
  refine CrosGrallocDriver.ext ?_ ?_ ?_
  · rw [hb, dropBuffer_buffers, dropBuffer_buffers,
      bufferAt_updateBuffer_congr (congrFun decrementHandle_heap.symm ptr), decrementHandle_buffers]
  · rw [dropBuffer_handles, decrementHandle_handles_congr (dropBuffer_handles dr ptr)]
  · rw [hh, dropBuffer_heap, dropBuffer_heap, decrementHandle_heap,
      bufferAt_updateBuffer_congr (congrFun decrementHandle_heap.symm ptr)]

theorem decrementHandle_comm {addr' : Ptr} (hne : addr ≠ addr') :
    (dr.decrementHandle addr).decrementHandle addr' = (dr.decrementHandle addr').decrementHandle addr := by
  refine CrosGrallocDriver.ext (by simp) (Finmap.ext_lookup fun a => ?_) (by simp)
  simp only [decrementHandle_lookup]
  by_cases h1 : a = addr
  · subst h1
    simp [hne]
  · by_cases h2 : a = addr'
    · subst h2
      simp [h1, Ne.symm hne]
    · simp [h1, h2]

theorem dropBuffer_comm {ptr' : Ptr} (hne : ptr ≠ ptr') :
    (dr.dropBuffer ptr).dropBuffer ptr' = (dr.dropBuffer ptr').dropBuffer ptr := by
  have h1 : ((dr.dropBuffer ptr).updateBuffer ptr' CrosGrallocBuffer.decreaseRefcount).bufferAt ptr' =
      (dr.updateBuffer ptr' CrosGrallocBuffer.decreaseRefcount).bufferAt ptr' :=
    bufferAt_updateBuffer_congr (dropBuffer_heap_ne hne.symm) _
  have h2 : ((dr.dropBuffer ptr').updateBuffer ptr CrosGrallocBuffer.decreaseRefcount).bufferAt ptr =
      (dr.updateBuffer ptr CrosGrallocBuffer.decreaseRefcount).bufferAt ptr :=
    bufferAt_updateBuffer_congr (dropBuffer_heap_ne hne) _
  refine CrosGrallocDriver.ext ?_ (by simp) ?_
  · simp only [dropBuffer_buffers, h1, h2]
    split_ifs <;> simp only [Finmap.erase_erase]
  · rw [dropBuffer_heap, dropBuffer_heap (dr.dropBuffer ptr'), h1, h2, dropBuffer_heap_ne hne.symm,
      dropBuffer_heap_ne hne, dropBuffer_heap, dropBuffer_heap, Function.update_comm hne]

end CrosGrallocDriver

-- ---------------------------------------------------------------------------
-- Two releases commute
-- ---------------------------------------------------------------------------

theorem crosGrallocConvertHandle_cases (handle : BufferHandle) :
    crosGrallocConvertHandle handle = none ∨ crosGrallocConvertHandle handle = some handle := by
  unfold crosGrallocConvertHandle
  split <;> simp

section
variable {dr : CrosGrallocDriver} {handle : BufferHandle} {ptr : Ptr}

theorem release_eq_dropBuffer (hc : crosGrallocConvertHandle handle = some handle)
    (hp : dr.getBuffer handle.addr = some ptr) :
    (dr.release handle).2 = (dr.decrementHandle handle.addr).dropBuffer ptr := by
  simp only [CrosGrallocDriver.release, hc, hp, CrosGrallocDriver.dropBuffer]
  split_ifs <;> rfl

theorem release_of_invalid (hc : crosGrallocConvertHandle handle = none) (dr : CrosGrallocDriver) :
    (dr.release handle).2 = dr := by
  simp [CrosGrallocDriver.release, hc]

theorem release_of_getBuffer_none (hc : crosGrallocConvertHandle handle = some handle)
    (hp : dr.getBuffer handle.addr = none) : (dr.release handle).2 = dr := by
  simp [CrosGrallocDriver.release, hc, hp]

theorem release_congr {handle' : BufferHandle} (hc : crosGrallocConvertHandle handle = some handle)
    (hc' : crosGrallocConvertHandle handle' = some handle') (ha : handle.addr = handle'.addr)
    (dr : CrosGrallocDriver) : dr.release handle = dr.release handle' := by
  simp only [CrosGrallocDriver.release, hc, hc', ha]

theorem getBuffer_release_ne {a : Ptr} (ha : a ≠ handle.addr) :
    (dr.release handle).2.getBuffer a = dr.getBuffer a := by
  rcases crosGrallocConvertHandle_cases handle with hc | hc
  · rw [release_of_invalid hc]
  rcases hp : dr.getBuffer handle.addr with _ | ptr
  · rw [release_of_getBuffer_none hc hp]
  · simp only [release_eq_dropBuffer hc hp, CrosGrallocDriver.getBuffer,
      CrosGrallocDriver.dropBuffer_handles, CrosGrallocDriver.decrementHandle_lookup, if_neg ha]

end

theorem release_comm (dr : CrosGrallocDriver) (h1 h2 : BufferHandle) :
    ((dr.release h1).2.release h2).2 = ((dr.release h2).2.release h1).2 := by
  rcases crosGrallocConvertHandle_cases h1 with hc1 | hc1
  · simp only [release_of_invalid hc1]
  rcases crosGrallocConvertHandle_cases h2 with hc2 | hc2
  · simp only [release_of_invalid hc2]
  by_cases ha : h1.addr = h2.addr
  · simp only [release_congr hc1 hc2 ha]
  rcases hp1 : dr.getBuffer h1.addr with _ | p1
  · have hp1' : (dr.release h2).2.getBuffer h1.addr = none := by rw [getBuffer_release_ne ha, hp1]
    rw [release_of_getBuffer_none hc1 hp1, release_of_getBuffer_none hc1 hp1']
  rcases hp2 : dr.getBuffer h2.addr with _ | p2
  · have hp2' : (dr.release h1).2.getBuffer h2.addr = none := by rw [getBuffer_release_ne (Ne.symm ha), hp2]
    rw [release_of_getBuffer_none hc2 hp2, release_of_getBuffer_none hc2 hp2']
  -- both handles registered, at two addresses: each call drops its own
  -- entry and its own buffer's reference
  have hp1' : (dr.release h2).2.getBuffer h1.addr = some p1 := by rw [getBuffer_release_ne ha, hp1]
  have hp2' : (dr.release h1).2.getBuffer h2.addr = some p2 := by rw [getBuffer_release_ne (Ne.symm ha), hp2]
  rw [release_eq_dropBuffer hc2 hp2', release_eq_dropBuffer hc1 hp1', release_eq_dropBuffer hc1 hp1,
    release_eq_dropBuffer hc2 hp2, CrosGrallocDriver.decrementHandle_dropBuffer,
    CrosGrallocDriver.decrementHandle_dropBuffer, CrosGrallocDriver.decrementHandle_comm ha]
  by_cases hp : p1 = p2
  · rw [hp]
  · exact CrosGrallocDriver.dropBuffer_comm hp

-- ---------------------------------------------------------------------------
-- Any order of a batch of releases
-- ---------------------------------------------------------------------------

def releaseAll (handles : List BufferHandle) (dr : CrosGrallocDriver) : CrosGrallocDriver :=
  handles.foldl (fun dr handle => (dr.release handle).2) dr

/-- From every state, releases in any order, as the threads get `mutex_`,
end in the same tables and heap. -/
theorem releases_any_order {handles handles' : List BufferHandle} (h : handles.Perm handles')
    (dr : CrosGrallocDriver) : releaseAll handles dr = releaseAll handles' dr := by
  induction h generalizing dr with
  | nil => rfl
  | cons handle _ ih => exact ih _
  | swap h1 h2 handles => exact congrArg (releaseAll handles) (release_comm dr h2 h1)
  | trans _ _ ih1 ih2 => exact (ih1 dr).trans (ih2 dr)

theorem imported_releases_any_order :
    [importedHandle 1 10, importedHandle 2 20].Perm [importedHandle 2 20, importedHandle 1 10] ∧
      releaseAll [importedHandle 1 10, importedHandle 2 20] twoImportsDriver =
        releaseAll [importedHandle 2 20, importedHandle 1 10] twoImportsDriver :=
  ⟨List.Perm.swap _ _ _, releases_any_order (List.Perm.swap _ _ _) twoImportsDriver⟩

end Minigbm.Gralloc
