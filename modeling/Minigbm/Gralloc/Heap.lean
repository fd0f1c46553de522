import Minigbm.Gralloc.Invariant

/-!
# No buffer is leaked

A `cros_gralloc_buffer` lives on the heap from its `new` in `allocate` or
`retain` to its `delete` in `release`. `reachable_inv` shows that the
tables never point at a deleted buffer; here is the converse. In every
process a run reaches, each buffer alive on the heap is stored in
`buffers_` under its own id and is referenced by some handle entry
(`live_buffer_reachable`): no call leaves behind a buffer that the tables
no longer reach, so none is leaked.
-/

namespace Minigbm.Gralloc

open Minigbm

/-- Every buffer alive on the heap is stored in `buffers_` under its id. -/
def HeapStored (dr : CrosGrallocDriver) : Prop :=
  ∀ ptr b, dr.heap ptr = some b → dr.buffers.lookup b.id = some ptr

theorem heapStored_init : HeapStored Process.init.driver := fun _ _ h => nomatch h

theorem exists_entry_of_refSum_pos {m : Finmap fun _ : Ptr => Ptr × Nat} {ptr : Ptr}
    (h : 0 < refSum m ptr) : ∃ addr count, m.lookup addr = some (ptr, count) := by
  by_contra hno
  refine absurd (refSum_eq_zero fun a v hv hp => hno ⟨a, v.2, ?_⟩) (Nat.pos_iff_ne_zero.mp h)
  rw [hv, ← hp]

-- ---------------------------------------------------------------------------
-- Every call keeps the heap stored
-- ---------------------------------------------------------------------------

section
variable {dr : CrosGrallocDriver}

theorem HeapStored.register (hs : HeapStored dr) {id : BitVec 32} {ptr addr : Ptr}
    {b : CrosGrallocBuffer} (hid : id ∉ dr.buffers) (hbid : b.id = id) :
    HeapStored (dr.register id ptr b addr) := by
  intro q b' hq
  simp only [CrosGrallocDriver.register_heap, CrosGrallocDriver.register_buffers,
    emplace_of_not_mem hid] at hq ⊢
  by_cases hqp : q = ptr
  · subst hqp
    simp only [Function.update_same, Option.some.injEq] at hq
    subst hq
    rw [hbid, Finmap.lookup_insert]
  · rw [Function.update_noteq hqp] at hq
    have hl := hs q b' hq
    have hne : b'.id ≠ id := fun e => hid (e ▸ Finmap.mem_of_lookup_eq_some hl)
    rw [Finmap.lookup_insert_of_ne _ hne, hl]

theorem HeapStored.updateBuffer (hs : HeapStored dr) (ptr : Ptr)
    (f : CrosGrallocBuffer → CrosGrallocBuffer) (hf : ∀ b, (f b).id = b.id) :
    HeapStored (dr.updateBuffer ptr f) := by
  intro q b' hq
  simp only [CrosGrallocDriver.updateBuffer_heap, CrosGrallocDriver.updateBuffer_buffers] at hq ⊢
  by_cases hqp : q = ptr
  · subst hqp
    rw [Function.update_same] at hq
    obtain ⟨b, hb, rfl⟩ := Option.map_eq_some'.mp hq
    rw [hf]
    exact hs q b hb
  · rw [Function.update_noteq hqp] at hq
    exact hs q b' hq

theorem HeapStored.of_buffers_heap {dr' : CrosGrallocDriver} (hs : HeapStored dr)
    (hb : dr'.buffers = dr.buffers) (hh : dr'.heap = dr.heap) : HeapStored dr' := by
  intro q b hq
  rw [hb]
  rw [hh] at hq
  exact hs q b hq

theorem HeapStored.retain (hs : HeapStored dr) {w : World} (hw : w.Contract dr) (handle : BufferHandle) :
    HeapStored (dr.retain w handle).2 := by
  rcases retain_spec dr w handle with ⟨-, hr⟩ | ⟨-, -, hcase⟩
  · rw [hr]; exact hs
  rcases hcase with ⟨ptr, count, hl, hr⟩ | ⟨id, ptr, -, -, -, hr⟩ | ⟨id, bo, -, hid, hnone, hbo, hr⟩
  · rw [hr, CrosGrallocDriver.incrementHandle_of_lookup hl]
    exact (hs.of_buffers_heap rfl rfl).updateBuffer ptr _ fun _ => rfl
  · rw [hr]
    exact (hs.updateBuffer ptr CrosGrallocBuffer.increaseRefcount fun _ => rfl).of_buffers_heap rfl rfl
  · have hid' : bo.handle0 = id := hw.import_same _ bo id hbo (by rwa [importData_fd0])
    rw [hr]
    exact hs.register (hid' ▸ hnone) rfl

theorem HeapStored.release (hs : HeapStored dr) (hi : Inv dr) (handle : BufferHandle) :
    HeapStored (dr.release handle).2 := by
  rcases release_spec dr handle with ⟨-, hr⟩ | ⟨ptr, count, hc, hl, -⟩
  · rw [hr]; exact hs
  obtain ⟨b, hb, hstored, -, -⟩ := hi.entry_buffer hl
  rw [release_of_lookup hc hl hb]
  dsimp only
  split
  · intro q b' hq
    dsimp only at hq ⊢
    have hqp : q ≠ ptr := by
      rintro rfl
      simp at hq
    rw [Function.update_noteq hqp] at hq
    have hl' := hs q b' hq
    have hne : b'.id ≠ b.id := by
      intro e
      rw [e, hstored] at hl'
      exact hqp (Option.some.inj hl').symm
    rw [Finmap.lookup_erase_ne hne, hl']
  · exact (hs.updateBuffer ptr CrosGrallocBuffer.decreaseRefcount fun _ => rfl).of_buffers_heap rfl
      (by simp [hb])

theorem HeapStored.allocate {p : Process} (hs : HeapStored p.driver) {w : World}
    (hw : w.Contract p.driver) (c : Config) (d : BufferDescriptor) :
    HeapStored (allocate c w d p).process.driver := by
  rcases allocate_spec c w d p with ⟨-, hr, -⟩ | ⟨-, bo, fd, hnd, hbo, -, -, hr⟩
  · rw [hr]; exact hs
  · rw [hr]
    exact hs.register (hw.created_fresh _ _ hbo) rfl

end

theorem heapStored_step {c : Config} {p p' : Process} (hs : Step c p p') (hi : Inv p.driver)
    (hh : HeapStored p.driver) : HeapStored p'.driver := by
  obtain ⟨w, call, hw⟩ := hs
  cases call with
  | allocate d => exact hh.allocate hw c d
  | retain handle => exact hh.retain hw handle
  | release handle => exact hh.release hi handle
  | _ => exact hh

theorem Reachable.heapStored {c : Config} {p : Process} (h : Reachable c p) : HeapStored p.driver := by
  induction h with
  | init => exact heapStored_init
  | step hr hs ih => exact heapStored_step hs hr.inv ih

/-- In every process a run of calls reaches, under any interleaving, each
buffer alive on the heap is stored in `buffers_` under its own id, and
some handle entry holds a reference on it. -/
theorem live_buffer_reachable {c : Config} {p : Process} (h : Reachable c p) :
    ∀ ptr b, p.driver.heap ptr = some b →
      p.driver.buffers.lookup b.id = some ptr ∧ ∃ addr count, p.driver.handles.lookup addr = some (ptr, count) := by
  intro ptr b hb
  have hl := h.heapStored ptr b hb
  obtain ⟨b', hb', -, hcount, hpos⟩ := h.inv.buffer_counted _ _ hl
  rw [hb] at hb'
  cases hb'
  exact ⟨hl, exists_entry_of_refSum_pos (hcount ▸ hpos)⟩

theorem twoImports_live_buffers_reachable :
    Reachable (Config.ofBuild ⟨false, false⟩) (twoImports (Config.ofBuild ⟨false, false⟩)) ∧
      (∀ ptr b, twoImportsDriver.heap ptr = some b →
        twoImportsDriver.buffers.lookup b.id = some ptr ∧
          ∃ addr count, twoImportsDriver.handles.lookup addr = some (ptr, count)) ∧
      twoImportsDriver.heap 1000 = some (importedBuffer 10) ∧
      twoImportsDriver.heap 2000 = some (importedBuffer 20) := by
  have hp := twoImports_reachable (Config.ofBuild ⟨false, false⟩)
  exact ⟨hp, twoImports_driver (Config.ofBuild ⟨false, false⟩) ▸ live_buffer_reachable hp, rfl, rfl⟩

end Minigbm.Gralloc
