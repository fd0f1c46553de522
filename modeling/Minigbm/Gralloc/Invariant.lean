import Minigbm.Gralloc.Driver

/-!
# The table invariant

`reachable_inv`: in every process a run of calls reaches, every handle
entry holds at least one reference to a live buffer stored under its own
id, and every stored buffer is live, stored under its own id, and counts
exactly the references its handles hold, at least one. So there is one
buffer per kernel object id, no entry points at a deleted buffer, and
`release` deletes a buffer exactly when the last reference to it goes.

Each entry point has one lemma that says everything a call of it can do
(`retain_spec`, `release_spec`, `allocate_spec`); the step lemmas of the
invariant (`Inv.retain`, `Inv.release`, `Inv.allocate`) cite them, and
`Reachable.inv` carries the invariant along a run. `twoImports`, two handles
of another process imported one after the other, is a reachable state with
live buffers, at which the theorems over reachable states are instantiated.

`failed_call_frame`: a call that returns a negative status leaves the
tables and every reference count as they were, from any state.
-/

namespace Minigbm.Gralloc

open Minigbm

-- ---------------------------------------------------------------------------
-- References held by handles
-- ---------------------------------------------------------------------------

/-- The references the handle entries hold on the buffer at `ptr`. -/
def refSum (handles : Finmap fun _ : Ptr => Ptr × Nat) (ptr : Ptr) : Nat :=
  (handles.entries.map fun e => if e.2.1 = ptr then e.2.2 else 0).sum

def refOf (v : Ptr × Nat) (ptr : Ptr) : Nat := if v.1 = ptr then v.2 else 0

section
variable {m : Finmap fun _ : Ptr => Ptr × Nat} {a ptr : Ptr} {v : Ptr × Nat}

@[simp] theorem refSum_empty (ptr : Ptr) : refSum ∅ ptr = 0 := rfl

theorem refSum_insert_of_not_mem (h : a ∉ m) (v : Ptr × Nat) (ptr : Ptr) :
    refSum (m.insert a v) ptr = refOf v ptr + refSum m ptr := by
  rw [refSum, refSum, Finmap.insert_entries_of_neg h, Multiset.map_cons, Multiset.sum_cons]
  rfl

theorem insert_erase_self (m : Finmap fun _ : Ptr => Ptr × Nat) (a : Ptr) (v : Ptr × Nat) :
    (m.erase a).insert a v = m.insert a v :=
  Finmap.ext_lookup fun x => by
    by_cases hx : x = a
    · subst hx; simp
    · rw [Finmap.lookup_insert_of_ne _ hx, Finmap.lookup_insert_of_ne _ hx,
        Finmap.lookup_erase_ne hx]

theorem insert_erase_of_lookup (h : m.lookup a = some v) : (m.erase a).insert a v = m :=
  Finmap.ext_lookup fun x => by
    by_cases hx : x = a
    · subst hx; simp [h]
    · rw [Finmap.lookup_insert_of_ne _ hx, Finmap.lookup_erase_ne hx]

theorem refSum_erase (h : m.lookup a = some v) (ptr : Ptr) :
    refSum (m.erase a) ptr + refOf v ptr = refSum m ptr := by
  have := refSum_insert_of_not_mem (Finmap.not_mem_erase_self (s := m) (a := a)) v ptr
  rw [insert_erase_of_lookup h] at this
  omega

theorem refSum_insert_of_lookup (h : m.lookup a = some v) (v' : Ptr × Nat) (ptr : Ptr) :
    refSum (m.insert a v') ptr + refOf v ptr = refOf v' ptr + refSum m ptr := by
  rw [← insert_erase_self, refSum_insert_of_not_mem Finmap.not_mem_erase_self,
    ← refSum_erase h ptr]
  omega

theorem refSum_eq_zero (h : ∀ a v, m.lookup a = some v → v.1 ≠ ptr) : refSum m ptr = 0 := by
  apply Multiset.sum_eq_zero
  intro x hx
  obtain ⟨e, he, rfl⟩ := Multiset.mem_map.mp hx
  have := h e.1 e.2 (Finmap.lookup_eq_some_iff.mpr he)
  simp [this]

theorem le_refSum (h : m.lookup a = some v) (ptr : Ptr) : refOf v ptr ≤ refSum m ptr := by
  have := refSum_erase h ptr
  omega

end

-- ---------------------------------------------------------------------------
-- What each entry point does
-- ---------------------------------------------------------------------------

section
variable {dr : CrosGrallocDriver} {w : World} {handle : BufferHandle} {addr ptr : Ptr} {count : Nat}

theorem crosGrallocConvertHandle_eq_some {h : BufferHandle} :
    crosGrallocConvertHandle handle = some h ↔
      h = handle ∧ handle.addr ≠ 0 ∧ handle.hnd.magic = crosGrallocMagic := by
  unfold crosGrallocConvertHandle
  split
  · rename_i hc
    simp [hc, eq_comm]
  · rename_i hc
    constructor
    · intro h
      cases h
    · rintro ⟨rfl, h0, hm⟩
      exact absurd ⟨h0, hm⟩ hc

theorem getBuffer_eq_none : dr.getBuffer addr = none ↔ addr ∉ dr.handles := by
  simp [CrosGrallocDriver.getBuffer, Finmap.lookup_eq_none]

theorem getBuffer_eq_some : dr.getBuffer addr = some ptr ↔ ∃ count, dr.handles.lookup addr = some (ptr, count) := by
  simp [CrosGrallocDriver.getBuffer]

theorem retain_spec (dr : CrosGrallocDriver) (w : World) (handle : BufferHandle) :
    (dr.retain w handle).1 < 0 ∧ (dr.retain w handle).2 = dr ∨
    crosGrallocConvertHandle handle = some handle ∧ (dr.retain w handle).1 = 0 ∧
      ((∃ ptr count, dr.handles.lookup handle.addr = some (ptr, count) ∧
          (dr.retain w handle).2 =
            (dr.incrementHandle handle.addr).updateBuffer ptr CrosGrallocBuffer.increaseRefcount) ∨
        (∃ id ptr, handle.addr ∉ dr.handles ∧ w.primeFdToHandle (handle.hnd.fds.getD 0 (-1)) = .ok id ∧
          dr.buffers.lookup id = some ptr ∧
          (dr.retain w handle).2 =
            (dr.updateBuffer ptr CrosGrallocBuffer.increaseRefcount).emplaceHandle handle.addr ptr) ∨
        (∃ id bo, handle.addr ∉ dr.handles ∧
          w.primeFdToHandle (handle.hnd.fds.getD 0 (-1)) = .ok id ∧
          id ∉ dr.buffers ∧ w.drvBoImport (importData handle.hnd) = some bo ∧
          (dr.retain w handle).2 = dr.register bo.handle0 w.new (CrosGrallocBuffer.new bo.handle0 bo
            none (handle.hnd.fds.getD handle.hnd.numPlanes (-1)) handle.hnd.reservedRegionSize)
            handle.addr)) := by
  unfold CrosGrallocDriver.retain
  split
  · exact .inl ⟨EINVAL.neg_lt_zero, rfl⟩
  · rename_i h hh
    obtain ⟨rfl, -⟩ := crosGrallocConvertHandle_eq_some.mp hh
    split
    · rename_i ptr hp
      obtain ⟨count, hc⟩ := getBuffer_eq_some.mp hp
      exact .inr ⟨hh, rfl, .inl ⟨ptr, count, hc, rfl⟩⟩
    · rename_i hn
      have hn := getBuffer_eq_none.mp hn
      split
      · exact .inl ⟨Errno.neg_lt_zero _, rfl⟩
      · rename_i id hid
        split
        · rename_i ptr hp
          exact .inr ⟨hh, rfl, .inr (.inl ⟨id, ptr, hn, hid, hp, rfl⟩)⟩
        · rename_i hnone
          split
          · exact .inl ⟨EFAULT.neg_lt_zero, rfl⟩
          · rename_i bo hbo
            exact .inr ⟨hh, rfl, .inr (.inr ⟨id, bo, hn, hid,
              Finmap.lookup_eq_none.mp hnone, hbo, rfl⟩)⟩

theorem retain_of_import {id : BitVec 32} {bo : Bo} (hc : crosGrallocConvertHandle handle = some handle)
    (hn : handle.addr ∉ dr.handles) (hid : w.primeFdToHandle (handle.hnd.fds.getD 0 (-1)) = .ok id)
    (hnone : id ∉ dr.buffers) (hbo : w.drvBoImport (importData handle.hnd) = some bo) :
    dr.retain w handle = (0, dr.register bo.handle0 w.new (CrosGrallocBuffer.new bo.handle0 bo none
      (handle.hnd.fds.getD handle.hnd.numPlanes (-1)) handle.hnd.reservedRegionSize) handle.addr) := by
  simp only [CrosGrallocDriver.retain, hc, getBuffer_eq_none.mpr hn, hid,
    Finmap.lookup_eq_none.mpr hnone, hbo]

theorem release_spec (dr : CrosGrallocDriver) (handle : BufferHandle) :
    (dr.release handle).1 < 0 ∧ (dr.release handle).2 = dr ∨ ∃ ptr count,
      crosGrallocConvertHandle handle = some handle ∧
      dr.handles.lookup handle.addr = some (ptr, count) ∧ (dr.release handle).1 = 0 := by
  unfold CrosGrallocDriver.release
  split
  · exact .inl ⟨EINVAL.neg_lt_zero, rfl⟩
  · rename_i h hh
    obtain ⟨rfl, -⟩ := crosGrallocConvertHandle_eq_some.mp hh
    split
    · exact .inl ⟨EINVAL.neg_lt_zero, rfl⟩
    · rename_i ptr hp
      obtain ⟨count, hc⟩ := getBuffer_eq_some.mp hp
      exact .inr ⟨ptr, count, hh, hc, by dsimp only; split <;> rfl⟩

theorem release_of_lookup {b : CrosGrallocBuffer} (hc : crosGrallocConvertHandle handle = some handle)
    (hl : dr.handles.lookup handle.addr = some (ptr, count)) (hb : dr.heap ptr = some b) :
    dr.release handle = (0, if b.refcount - 1 = 0 then
      ⟨dr.buffers.erase b.id, (dr.decrementHandle handle.addr).handles, Function.update dr.heap ptr none⟩
    else
      ⟨dr.buffers, (dr.decrementHandle handle.addr).handles,
        Function.update dr.heap ptr (some b.decreaseRefcount)⟩) := by
  by_cases h0 : b.refcount - 1 = 0 <;>
    simp [CrosGrallocDriver.release, hc, CrosGrallocDriver.getBuffer, hl, CrosGrallocDriver.bufferAt,
      CrosGrallocDriver.destroy, hb, CrosGrallocBuffer.decreaseRefcount, h0, CrosGrallocDriver.ext_iff]

theorem release_of_not_mem (h : handle.addr ∉ dr.handles) : dr.release handle = (EINVAL.neg, dr) := by
  unfold CrosGrallocDriver.release
  split
  · rfl
  · rename_i h' hh
    obtain ⟨rfl, -⟩ := crosGrallocConvertHandle_eq_some.mp hh
    rw [getBuffer_eq_none.mpr h]

end

theorem allocate_spec (c : Config) (w : World) (d : BufferDescriptor) (p : Process) :
    (allocate c w d p).status < 0 ∧ (allocate c w d p).process = p ∧ (allocate c w d p).handle = none ∨
    (allocate c w d p).status = 0 ∧ ∃ bo fd hnd, w.drvBoCreate (allocateBoRequest c d) = some bo ∧
      hnd.magic = crosGrallocMagic ∧ (allocate c w d p).handle = some ⟨w.malloc, hnd⟩ ∧
      (allocate c w d p).process = ⟨p.driver.register bo.handle0 w.new
        (CrosGrallocBuffer.new bo.handle0 bo (some w.malloc) fd d.reservedRegionSize) w.malloc,
        p.nextBufferId + 1⟩ := by
  unfold allocate
  split
  · exact .inl ⟨ENOMEM.neg_lt_zero, rfl, rfl⟩
  · rename_i bo hbo
    split
    · exact .inl ⟨EINVAL.neg_lt_zero, rfl, rfl⟩
    · dsimp only
      split <;>
        first
        | exact .inl ⟨Errno.neg_lt_zero _, rfl, rfl⟩
        | exact .inr ⟨rfl, bo, _, _, hbo, rfl, rfl, rfl⟩

-- ---------------------------------------------------------------------------
-- A run of two imports
-- ---------------------------------------------------------------------------

def importedBo (fd : Int) : Bo := ⟨[], by decide, BitVec.ofInt 32 fd, 1, 0, 0, 0, 0, 0⟩

def importWorld (new : Ptr) : World :=
  ⟨fun _ => none, fun _ => .error ENOMEM, fun _ _ => none, new, new,
    fun fd => .ok (BitVec.ofInt 32 fd), fun data => some (importedBo (data.fds.getD 0 (-1))),
    fun _ _ => 0, fun _ _ => 0⟩

theorem importWorld_contract {new : Ptr} {dr : CrosGrallocDriver} (h0 : new ≠ 0)
    (hm : new ∉ dr.handles) (hn : dr.heap new = none) : (importWorld new).Contract dr where
  created_fresh _ _ h := by cases h
  import_same _ _ _ hbo hid := by
    simp only [importWorld, Option.some.injEq, Except.ok.injEq] at hbo hid
    rw [← hbo, ← hid]
    rfl
  malloc_ne_zero := h0
  malloc_fresh := hm
  new_fresh := hn

def importedHandle (addr : Ptr) (fd : Int) : BufferHandle :=
  ⟨addr, ⟨1, 0, [fd, -1], [0], [0], 1, 1, 64, 64, 0, 0, 0, crosGrallocMagic, 0, 0, ""⟩⟩

def importedBuffer (fd : Int) : CrosGrallocBuffer :=
  CrosGrallocBuffer.new (BitVec.ofInt 32 fd) (importedBo fd) none (-1) 0

theorem retain_importedHandle {dr : CrosGrallocDriver} {addr new : Ptr} {fd : Int} (h0 : addr ≠ 0)
    (hn : addr ∉ dr.handles) (hnone : BitVec.ofInt 32 fd ∉ dr.buffers) :
    dr.retain (importWorld new) (importedHandle addr fd) =
      (0, dr.register (BitVec.ofInt 32 fd) new (importedBuffer fd) addr) :=
  retain_of_import (crosGrallocConvertHandle_eq_some.mpr ⟨rfl, h0, rfl⟩) hn rfl hnone rfl

def twoImports (c : Config) : Process :=
  ((Process.init.exec c (importWorld 1000) (.retain (importedHandle 1 10))).2.exec c
    (importWorld 2000) (.retain (importedHandle 2 20))).2

def oneImportDriver : CrosGrallocDriver :=
  ⟨(∅ : Finmap _).insert (BitVec.ofInt 32 10) 1000, (∅ : Finmap _).insert 1 (1000, 1),
    Function.update (fun _ => none) 1000 (some (importedBuffer 10))⟩

def twoImportsDriver : CrosGrallocDriver :=
  ⟨oneImportDriver.buffers.insert (BitVec.ofInt 32 20) 2000,
    oneImportDriver.handles.insert 2 (2000, 1),
    Function.update oneImportDriver.heap 2000 (some (importedBuffer 20))⟩

theorem oneImport_driver (c : Config) :
    (Process.init.exec c (importWorld 1000) (.retain (importedHandle 1 10))).2.driver =
      oneImportDriver := by
  rw [Process.exec, retain_importedHandle (by decide) Finmap.not_mem_empty Finmap.not_mem_empty]
  exact CrosGrallocDriver.register_eq Finmap.not_mem_empty Finmap.not_mem_empty

theorem oneImportDriver_mem_handles : 2000 ∉ oneImportDriver.handles ∧ 2 ∉ oneImportDriver.handles := by
  simp [oneImportDriver, Finmap.mem_insert, Finmap.not_mem_empty]

theorem oneImportDriver_not_mem_buffers : BitVec.ofInt 32 20 ∉ oneImportDriver.buffers := by
  simp only [oneImportDriver, Finmap.mem_insert, Finmap.not_mem_empty, or_false]
  decide

theorem twoImports_driver (c : Config) : (twoImports c).driver = twoImportsDriver := by
  rw [twoImports, Process.exec, oneImport_driver, retain_importedHandle (by decide)
    oneImportDriver_mem_handles.2 oneImportDriver_not_mem_buffers]
  exact CrosGrallocDriver.register_eq oneImportDriver_not_mem_buffers oneImportDriver_mem_handles.2

theorem twoImports_reachable (c : Config) : Reachable c (twoImports c) := by
  refine .step (.step .init (.call _ _ (importWorld_contract (by decide) Finmap.not_mem_empty
    rfl))) (.call _ _ (importWorld_contract (by decide) ?_ ?_)) <;> rw [oneImport_driver]
  · exact oneImportDriver_mem_handles.1
  · exact Function.update_noteq (by decide : (2000 : Ptr) ≠ 1000) (some (importedBuffer 10)) _

def oneBoWorld : World :=
  ⟨fun _ => some ⟨[], by decide, 1, 1, 64, 64, 0, 0, 0⟩, fun _ => .error ENOMEM, fun _ _ => none, 1, 1,
    fun _ => .error EINVAL, fun _ => none, fun _ _ => 0, fun _ _ => 0⟩

-- ---------------------------------------------------------------------------
-- The invariant
-- ---------------------------------------------------------------------------

/-- The invariant of the driver's tables. -/
structure Inv (dr : CrosGrallocDriver) : Prop where
  /-- A handle entry holds at least one reference. -/
  count_pos : ∀ addr ptr count, dr.handles.lookup addr = some (ptr, count) → 1 ≤ count
  /-- A handle entry points at a live buffer stored under its id. -/
  handle_stored : ∀ addr ptr count, dr.handles.lookup addr = some (ptr, count) →
    ∃ b, dr.heap ptr = some b ∧ dr.buffers.lookup b.id = some ptr
  /-- A stored buffer is live, stored under its own id, and counts the
  references its handles hold, at least one. -/
  buffer_counted : ∀ id ptr, dr.buffers.lookup id = some ptr →
    ∃ b, dr.heap ptr = some b ∧ b.id = id ∧ b.refcount = refSum dr.handles ptr ∧ 1 ≤ b.refcount

theorem inv_init : Inv Process.init.driver :=
  ⟨by simp [Process.init], by simp [Process.init], by simp [Process.init]⟩

section
variable {dr : CrosGrallocDriver}

theorem Inv.refSum_dead (hi : Inv dr) {ptr : Ptr} (h : dr.heap ptr = none) :
    refSum dr.handles ptr = 0 :=
  refSum_eq_zero fun a ⟨p, c⟩ hv hp => by
    obtain ⟨b, hb, -⟩ := hi.handle_stored a p c hv
    subst hp
    rw [h] at hb
    cases hb

theorem Inv.lookup_ne_dead (hi : Inv dr) {ptr : Ptr} (h : dr.heap ptr = none) {id p : _}
    (hp : dr.buffers.lookup id = some p) : p ≠ ptr := by
  rintro rfl
  obtain ⟨b, hb, -⟩ := hi.buffer_counted id p hp
  rw [h] at hb
  cases hb

theorem Inv.register (hi : Inv dr) {id : BitVec 32} {ptr addr : Ptr} {b : CrosGrallocBuffer}
    (hid : id ∉ dr.buffers) (haddr : addr ∉ dr.handles) (hptr : dr.heap ptr = none)
    (hbid : b.id = id) (hbref : b.refcount = 1) : Inv (dr.register id ptr b addr) := by
  rw [CrosGrallocDriver.register_eq hid haddr]
  refine ⟨fun a p c h => ?_, fun a p c h => ?_, fun i p h => ?_⟩
  · rcases lookup_insert_eq_some.mp h with ⟨-, h⟩ | ⟨-, h⟩
    · cases h
      exact le_refl 1
    · exact hi.count_pos a p c h
  · rcases lookup_insert_eq_some.mp h with ⟨-, h⟩ | ⟨-, h⟩
    · cases h
      exact ⟨b, by simp, by rw [hbid, Finmap.lookup_insert]⟩
    · obtain ⟨b', hb', hl⟩ := hi.handle_stored a p c h
      have hid' : b'.id ≠ id := fun e => hid (e ▸ Finmap.mem_of_lookup_eq_some hl)
      exact ⟨b', by simp [Function.update_noteq (hi.lookup_ne_dead hptr hl), hb'],
        by rw [Finmap.lookup_insert_of_ne _ hid', hl]⟩
  · rcases lookup_insert_eq_some.mp h with ⟨rfl, rfl⟩ | ⟨-, h⟩
    · refine ⟨b, by simp, hbid, ?_, by omega⟩
      rw [refSum_insert_of_not_mem haddr, hi.refSum_dead hptr, hbref]
      simp [refOf]
    · obtain ⟨b', hb', hid', hr, hpos⟩ := hi.buffer_counted i p h
      have hp := hi.lookup_ne_dead hptr h
      refine ⟨b', by simp [Function.update_noteq hp, hb'], hid', ?_, hpos⟩
      rw [refSum_insert_of_not_mem haddr, hr]
      simp [refOf, Ne.symm hp]

theorem Inv.entry_buffer (hi : Inv dr) {addr ptr : Ptr} {count : Nat}
    (h : dr.handles.lookup addr = some (ptr, count)) :
    ∃ b, dr.heap ptr = some b ∧ dr.buffers.lookup b.id = some ptr ∧
      b.refcount = refSum dr.handles ptr ∧ 1 ≤ b.refcount := by
  obtain ⟨b, hb, hstored⟩ := hi.handle_stored _ _ _ h
  obtain ⟨_, hb', -, hcount, hpos⟩ := hi.buffer_counted _ _ hstored
  rw [hb] at hb'
  cases hb'
  exact ⟨b, hb, hstored, hcount, hpos⟩

theorem Inv.insert_entry (hi : Inv dr) {addr ptr : Ptr} {n : Nat} (hn : 1 ≤ n) {a p c : _}
    (ha : (dr.handles.insert addr (ptr, n)).lookup a = some (p, c)) :
    1 ≤ c ∧ (p = ptr ∨ ∃ c', dr.handles.lookup a = some (p, c')) := by
  rcases lookup_insert_eq_some.mp ha with ⟨-, h⟩ | ⟨-, h⟩
  · cases h
    exact ⟨hn, .inl rfl⟩
  · exact ⟨hi.count_pos a p c h, .inr ⟨c, h⟩⟩

theorem Inv.update (hi : Inv dr) {dr' : CrosGrallocDriver} {ptr : Ptr} {b : CrosGrallocBuffer}
    (b' : CrosGrallocBuffer) (hb : dr.heap ptr = some b) (hstored : dr.buffers.lookup b.id = some ptr)
    (hbuffers : dr'.buffers = dr.buffers) (hheap : dr'.heap = Function.update dr.heap ptr (some b'))
    (hid : b'.id = b.id)
    (hentries : ∀ a p c, dr'.handles.lookup a = some (p, c) →
      1 ≤ c ∧ (p = ptr ∨ ∃ c', dr.handles.lookup a = some (p, c')))
    (hother : ∀ q, q ≠ ptr → refSum dr'.handles q = refSum dr.handles q)
    (hcount : b'.refcount = refSum dr'.handles ptr) (hpos : 1 ≤ b'.refcount) : Inv dr' := by
  refine ⟨fun a p c h => (hentries a p c h).1, fun a p c h => ?_, fun i p h => ?_⟩
  · by_cases hp : p = ptr
    · subst hp
      exact ⟨b', by simp [hheap], by rw [hbuffers, hid, hstored]⟩
    · obtain ⟨c', h'⟩ := (hentries a p c h).2.resolve_left hp
      obtain ⟨b'', hb'', hl⟩ := hi.handle_stored a p c' h'
      exact ⟨b'', by simp [hheap, Function.update_noteq hp, hb''], by rw [hbuffers, hl]⟩
  · rw [hbuffers] at h
    obtain ⟨b'', hb'', hid'', hr, hpos''⟩ := hi.buffer_counted i p h
    by_cases hp : p = ptr
    · subst hp
      rw [hb] at hb''
      cases hb''
      exact ⟨b', by simp [hheap], hid.trans hid'', hcount, hpos⟩
    · exact ⟨b'', by simp [hheap, Function.update_noteq hp, hb''], hid'', by rw [hother p hp, hr],
        hpos''⟩

theorem refSum_decrementHandle {addr ptr : Ptr} {count : Nat}
    (h : dr.handles.lookup addr = some (ptr, count)) (hc : 1 ≤ count) (q : Ptr) :
    refSum (dr.decrementHandle addr).handles q + refOf (ptr, 1) q = refSum dr.handles q := by
  rw [CrosGrallocDriver.decrementHandle_of_lookup h]
  split
  · obtain rfl : count = 1 := by omega
    exact refSum_erase h q
  · have := refSum_insert_of_lookup h (ptr, count - 1) q
    by_cases hq : ptr = q <;> simp only [refOf, hq, if_true, if_false] at this ⊢ <;> omega

theorem Inv.decrementHandle_entry (hi : Inv dr) {addr ptr : Ptr} {count : Nat}
    (h : dr.handles.lookup addr = some (ptr, count)) {a p c : _}
    (ha : (dr.decrementHandle addr).handles.lookup a = some (p, c)) :
    1 ≤ c ∧ (p = ptr ∨ ∃ c', dr.handles.lookup a = some (p, c')) := by
  rw [CrosGrallocDriver.decrementHandle_of_lookup h] at ha
  split at ha
  · by_cases hx : a = addr
    · subst hx
      simp at ha
    · rw [Finmap.lookup_erase_ne hx] at ha
      exact ⟨hi.count_pos a p c ha, .inr ⟨c, ha⟩⟩
  · exact hi.insert_entry (by omega) ha

theorem Inv.release_last (hi : Inv dr) {addr ptr : Ptr} {count : Nat} {b : CrosGrallocBuffer}
    (h : dr.handles.lookup addr = some (ptr, count)) (hb : dr.heap ptr = some b)
    (hstored : dr.buffers.lookup b.id = some ptr) (hlast : refSum dr.handles ptr = 1) :
    Inv ⟨dr.buffers.erase b.id, (dr.decrementHandle addr).handles, Function.update dr.heap ptr none⟩ := by
  have hc := hi.count_pos addr ptr count h
  have hzero : refSum (dr.decrementHandle addr).handles ptr = 0 := by
    have := refSum_decrementHandle h hc ptr
    simp only [refOf, if_true] at this
    omega
  have hne : ∀ a p c, (dr.decrementHandle addr).handles.lookup a = some (p, c) → p ≠ ptr := by
    intro a p c ha hp
    have h1 := le_refSum ha ptr
    have h2 := (hi.decrementHandle_entry h ha).1
    simp only [refOf, hp, if_true] at h1
    omega
  have hid_ne : ∀ {i p}, dr.buffers.lookup i = some p → p ≠ ptr → i ≠ b.id := by
    rintro i p hl hp rfl
    rw [hstored] at hl
    exact hp (Option.some.inj hl).symm
  refine ⟨fun a p c ha => (hi.decrementHandle_entry h ha).1, fun a p c ha => ?_, fun i p hl => ?_⟩
  · have hp := hne a p c ha
    obtain ⟨c', h'⟩ := (hi.decrementHandle_entry h ha).2.resolve_left hp
    obtain ⟨b'', hb'', hl⟩ := hi.handle_stored a p c' h'
    exact ⟨b'', by simp [Function.update_noteq hp, hb''],
      by rw [Finmap.lookup_erase_ne (hid_ne hl hp), hl]⟩
  · have hi' : i ≠ b.id := by
      rintro rfl
      simp at hl
    rw [Finmap.lookup_erase_ne hi'] at hl
    obtain ⟨b'', hb'', hid'', hr, hpos⟩ := hi.buffer_counted i p hl
    have hp : p ≠ ptr := by
      rintro rfl
      rw [hb] at hb''
      cases hb''
      exact hi' hid''.symm
    refine ⟨b'', by simp [Function.update_noteq hp, hb''], hid'', ?_, hpos⟩
    show b''.refcount = refSum (dr.decrementHandle addr).handles p
    have := refSum_decrementHandle h hc p
    simp only [refOf, Ne.symm hp, if_false] at this
    omega

end

-- ---------------------------------------------------------------------------
-- Every call keeps the invariant
-- ---------------------------------------------------------------------------

section
variable {dr : CrosGrallocDriver} {w : World}

theorem Inv.retain (hi : Inv dr) (hw : w.Contract dr) (handle : BufferHandle) :
    Inv (dr.retain w handle).2 := by
  rcases retain_spec dr w handle with ⟨-, hr⟩ | ⟨-, -, hcase⟩
  · rw [hr]; exact hi
  rcases hcase with ⟨ptr, count, hl, hr⟩ | ⟨id, ptr, hn, -, hl, hr⟩ | ⟨id, bo, hn, hid, hnone, hbo, hr⟩
  · obtain ⟨b, hb, hstored, hcount, -⟩ := hi.entry_buffer hl
    have hsum := refSum_insert_of_lookup hl (ptr, count + 1)
    have hinc := CrosGrallocDriver.incrementHandle_of_lookup hl
    rw [hr]
    refine hi.update b.increaseRefcount hb hstored (by simp [hinc]) (by simp [hinc, hb]) rfl
      (fun a p c ha => hi.insert_entry (Nat.le_add_left 1 count) (by simpa [hinc] using ha))
      (fun q hq => ?_) ?_
      (by simp [CrosGrallocBuffer.increaseRefcount])
    · have := hsum q
      simp only [CrosGrallocDriver.updateBuffer_handles, hinc, refOf, Ne.symm hq, if_false] at this ⊢
      omega
    · have := hsum ptr
      simp only [CrosGrallocDriver.updateBuffer_handles, hinc, refOf, if_true,
        CrosGrallocBuffer.increaseRefcount] at this ⊢
      omega
  · obtain ⟨b, hb, hbid, hcount, -⟩ := hi.buffer_counted _ _ hl
    subst hbid
    have hsum := refSum_insert_of_not_mem hn (ptr, 1)
    rw [hr]
    refine hi.update b.increaseRefcount hb hl (by simp) (by simp [hb]) rfl
      (fun a p c ha => hi.insert_entry le_rfl (by simpa [emplace_of_not_mem hn] using ha))
      (fun q hq => by simp [emplace_of_not_mem hn, hsum, refOf, Ne.symm hq])
      (by simp [emplace_of_not_mem hn, hsum, refOf, CrosGrallocBuffer.increaseRefcount, hcount,
        Nat.add_comm])
      (by simp [CrosGrallocBuffer.increaseRefcount])
  · have hid' : bo.handle0 = id := hw.import_same _ bo id hbo (by rwa [importData_fd0])
    rw [hr]
    exact hi.register (hid' ▸ hnone) hn hw.new_fresh rfl rfl

theorem Inv.release (hi : Inv dr) (handle : BufferHandle) : Inv (dr.release handle).2 := by
  rcases release_spec dr handle with ⟨-, hr⟩ | ⟨ptr, count, hc, hl, -⟩
  · rw [hr]; exact hi
  obtain ⟨b, hb, hstored, hcount, hpos⟩ := hi.entry_buffer hl
  have hsum := refSum_decrementHandle hl (hi.count_pos _ _ _ hl)
  rw [release_of_lookup hc hl hb]
  dsimp only
  split
  · exact hi.release_last hl hb hstored (by omega)
  · refine hi.update b.decreaseRefcount hb hstored rfl rfl rfl
      (fun a p c ha => hi.decrementHandle_entry hl ha) (fun q hq => ?_) ?_ ?_
    · have := hsum q
      simp only [refOf, Ne.symm hq, if_false] at this
      dsimp only
      omega
    · have := hsum ptr
      simp only [refOf, if_true, CrosGrallocBuffer.decreaseRefcount] at this ⊢
      omega
    · simp only [CrosGrallocBuffer.decreaseRefcount]
      omega

theorem Inv.allocate {p : Process} (hi : Inv p.driver) (hw : w.Contract p.driver) (c : Config)
    (d : BufferDescriptor) : Inv (allocate c w d p).process.driver := by
  rcases allocate_spec c w d p with ⟨-, hr, -⟩ | ⟨-, bo, fd, hnd, hbo, -, -, hr⟩
  · rw [hr]; exact hi
  · rw [hr]
    exact hi.register (hw.created_fresh _ _ hbo) hw.malloc_fresh hw.new_fresh rfl rfl

theorem Inv.release_deletes_iff {handle : BufferHandle} {ptr : Ptr} {count : Nat} (hi : Inv dr)
    (hc : crosGrallocConvertHandle handle = some handle)
    (hl : dr.handles.lookup handle.addr = some (ptr, count)) :
    (dr.release handle).2.heap ptr = none ↔ refSum dr.handles ptr = 1 := by
  obtain ⟨b, hb, -, hcount, hpos⟩ := hi.entry_buffer hl
  rw [release_of_lookup hc hl hb]
  split <;> simp <;> omega

end

theorem inv_step {c : Config} {p p' : Process} (hs : Step c p p') (hi : Inv p.driver) :
    Inv p'.driver := by
  obtain ⟨w, call, hw⟩ := hs
  cases call with
  | allocate d => exact hi.allocate hw c d
  | retain handle => exact hi.retain hw handle
  | release handle => exact hi.release handle
  | _ => exact hi

theorem Reachable.inv {c : Config} {p : Process} (h : Reachable c p) : Inv p.driver := by
  induction h with
  | init => exact inv_init
  | step _ hs ih => exact inv_step hs ih

/-- Every process a run reaches keeps the invariant, and in it `release` of
a registered handle deletes the buffer exactly when it drops the last
reference. -/
theorem reachable_inv {c : Config} {p : Process} (h : Reachable c p) :
    Inv p.driver ∧ ∀ handle ptr count, crosGrallocConvertHandle handle = some handle →
      p.driver.handles.lookup handle.addr = some (ptr, count) →
      ((p.driver.release handle).2.heap ptr = none ↔ refSum p.driver.handles ptr = 1) :=
  ⟨h.inv, fun _ _ _ hc hl => h.inv.release_deletes_iff hc hl⟩

theorem twoImports_inv :
    Reachable (Config.ofBuild ⟨false, false⟩) (twoImports (Config.ofBuild ⟨false, false⟩)) ∧
      (Inv twoImportsDriver ∧ ∀ handle ptr count, crosGrallocConvertHandle handle = some handle →
        twoImportsDriver.handles.lookup handle.addr = some (ptr, count) →
        ((twoImportsDriver.release handle).2.heap ptr = none ↔ refSum twoImportsDriver.handles ptr = 1)) ∧
      twoImportsDriver.handles.lookup 1 = some (1000, 1) ∧ refSum twoImportsDriver.handles 1000 = 1 ∧
      (twoImportsDriver.release (importedHandle 1 10)).2.heap 1000 = none := by
  have hp := twoImports_reachable (Config.ofBuild ⟨false, false⟩)
  have hi := twoImports_driver (Config.ofBuild ⟨false, false⟩) ▸ reachable_inv hp
  exact ⟨hp, hi, rfl, rfl, (hi.2 (importedHandle 1 10) 1000 1 rfl rfl).mpr rfl⟩

-- ---------------------------------------------------------------------------
-- Failed calls
-- ---------------------------------------------------------------------------

/-- A call that returns a negative status leaves the process as it was. -/
theorem failed_call_frame (c : Config) (w : World) (call : Call) (p : Process)
    (h : (p.exec c w call).1 < 0) : (p.exec c w call).2 = p := by
  cases call with
  | allocate d =>
    rcases allocate_spec c w d p with ⟨-, hr, -⟩ | ⟨hs, -⟩
    · exact hr
    · exact absurd hs (by simp only [Process.exec] at h; omega)
  | retain handle =>
    rcases retain_spec p.driver w handle with ⟨-, hr⟩ | ⟨-, hs, -⟩
    · simp [Process.exec, hr]
    · exact absurd hs (by simp only [Process.exec] at h; omega)
  | release handle =>
    rcases release_spec p.driver handle with ⟨-, hr⟩ | ⟨-, -, -, -, hs⟩
    · simp [Process.exec, hr]
    · exact absurd hs (by simp only [Process.exec] at h; omega)
  | _ => rfl

def World.failing : World :=
  ⟨fun _ => none, fun _ => .error ENOMEM, fun _ _ => some ENOMEM, 1, 1, fun _ => .error EINVAL,
    fun _ => none, fun _ _ => EINVAL.neg, fun _ _ => EINVAL.neg⟩

theorem allocate_without_bo_frame :
    (Process.init.exec (Config.ofBuild ⟨false, false⟩) World.failing
        (.allocate ⟨64, 64, 0, 0, 0, "", 0⟩)).1 < 0 ∧
      (Process.init.exec (Config.ofBuild ⟨false, false⟩) World.failing
        (.allocate ⟨64, 64, 0, 0, 0, "", 0⟩)).2 = Process.init :=
  have h : (Process.init.exec (Config.ofBuild ⟨false, false⟩) World.failing
      (.allocate ⟨64, 64, 0, 0, 0, "", 0⟩)).1 < 0 := by decide
  ⟨h, failed_call_frame _ _ _ _ h⟩

end Minigbm.Gralloc
