import Minigbm.Gralloc.Invariant

/-!
# Retain and release undo each other

`retain_release_round_trip`: from every reachable state, `k` successful
`retain` calls of one handle followed by `k` calls of `release` give back
the tables and the heap as they were, whichever branch each `retain`
took; the handle an `allocate` returns is released back to the state
before it; and a handle that was not registered before is then refused.
One `release` undoes one successful `retain` in each of its three branches
(`Inv.release_retain`), and `Retains.releaseN_eq` lifts that to a run.
-/

namespace Minigbm.Gralloc

open Minigbm

section
variable {α β : Type} [DecidableEq α] {m : Finmap fun _ : α => β} {a : α} {v : β}

theorem erase_insert_of_not_mem (h : a ∉ m) : (m.insert a v).erase a = m :=
  Finmap.ext_lookup fun x => by
    by_cases hx : x = a
    · subst hx
      rw [Finmap.lookup_erase, Finmap.lookup_eq_none.mpr h]
    · rw [Finmap.lookup_erase_ne hx, Finmap.lookup_insert_of_ne _ hx]

theorem insert_self_of_lookup (h : m.lookup a = some v) : m.insert a v = m :=
  Finmap.ext_lookup fun x => by
    by_cases hx : x = a
    · subst hx
      rw [Finmap.lookup_insert, h]
    · rw [Finmap.lookup_insert_of_ne _ hx]

end

@[simp] theorem CrosGrallocBuffer.decreaseRefcount_increaseRefcount (b : CrosGrallocBuffer) :
    b.increaseRefcount.decreaseRefcount = b := by
  simp [CrosGrallocBuffer.increaseRefcount, CrosGrallocBuffer.decreaseRefcount]

/-- Successful `retain` calls of one handle, one per world, each world
keeping the contract with the state it runs in. -/
inductive Retains (handle : BufferHandle) : CrosGrallocDriver → List World → CrosGrallocDriver → Prop
  | nil (dr : CrosGrallocDriver) : Retains handle dr [] dr
  | cons {dr dr' : CrosGrallocDriver} {w : World} {ws : List World} : w.Contract dr →
      (dr.retain w handle).1 = 0 → Retains handle (dr.retain w handle).2 ws dr' →
      Retains handle dr (w :: ws) dr'

def releaseN (handle : BufferHandle) : Nat → CrosGrallocDriver → CrosGrallocDriver
  | 0, dr => dr
  | k + 1, dr => ((releaseN handle k dr).release handle).2

-- ---------------------------------------------------------------------------
-- One release undoes one retain
-- ---------------------------------------------------------------------------

section
variable {dr dr1 : CrosGrallocDriver} {handle : BufferHandle} {ptr : Ptr} {count : Nat}
  {b : CrosGrallocBuffer}

theorem release_eq_of_fields (hc : crosGrallocConvertHandle handle = some handle)
    (hl : dr1.handles.lookup handle.addr = some (ptr, count)) (hb : dr1.heap ptr = some b)
    (hhandles : (dr1.decrementHandle handle.addr).handles = dr.handles)
    (hbuf : if b.refcount - 1 = 0 then
        dr1.buffers.erase b.id = dr.buffers ∧ Function.update dr1.heap ptr none = dr.heap
      else dr1.buffers = dr.buffers ∧ Function.update dr1.heap ptr (some b.decreaseRefcount) = dr.heap) :
    (dr1.release handle).2 = dr := by
  rw [release_of_lookup hc hl hb]
  split_ifs at hbuf ⊢ <;> exact CrosGrallocDriver.ext hbuf.1 hhandles hbuf.2

theorem release_register {id : BitVec 32} (hc : crosGrallocConvertHandle handle = some handle)
    (hid : id ∉ dr.buffers) (haddr : handle.addr ∉ dr.handles) (hptr : dr.heap ptr = none)
    (hbid : b.id = id) (hbref : b.refcount = 1) :
    ((dr.register id ptr b handle.addr).release handle).2 = dr := by
  rw [CrosGrallocDriver.register_eq hid haddr]
  refine release_eq_of_fields hc (Finmap.lookup_insert _) (Function.update_same _ _ _) ?_ ?_
  · simp [CrosGrallocDriver.decrementHandle, erase_insert_of_not_mem haddr]
  · rw [hbref, if_pos rfl, hbid, Function.update_idem, ← hptr, Function.update_eq_self]
    exact ⟨erase_insert_of_not_mem hid, rfl⟩

theorem Inv.release_retain {w : World} (hi : Inv dr) (hw : w.Contract dr)
    (hs : (dr.retain w handle).1 = 0) : ((dr.retain w handle).2.release handle).2 = dr := by
  rcases retain_spec dr w handle with ⟨hneg, -⟩ | ⟨hc, -, hcase⟩
  · omega
  rcases hcase with ⟨ptr, count, hl, hr⟩ | ⟨id, ptr, hn, -, hl, hr⟩ | ⟨id, bo, hn, hid, hnone, hbo, hr⟩
  · -- a registered handle: one more reference on its entry and its buffer
    obtain ⟨b, hb, -, -, hpos⟩ := hi.entry_buffer hl
    have hcount := hi.count_pos _ _ _ hl
    have hinc := CrosGrallocDriver.incrementHandle_of_lookup hl
    have hl1 : (dr.retain w handle).2.handles.lookup handle.addr = some (ptr, count + 1) := by
      simp [hr, hinc]
    have hb1 : (dr.retain w handle).2.heap ptr = some b.increaseRefcount := by simp [hr, hinc, hb]
    refine release_eq_of_fields hc hl1 hb1 ?_ ?_
    · rw [CrosGrallocDriver.decrementHandle_of_lookup hl1, if_neg (by omega)]
      simp [hr, hinc, insert_self_of_lookup hl]
    · rw [if_neg (by simp [CrosGrallocBuffer.increaseRefcount]; omega)]
      simp [hr, hinc, ← hb]
  · -- a new handle value for a known kernel object: a new entry, one more
    -- reference on the buffer
    obtain ⟨b, hb, -, -, hpos⟩ := hi.buffer_counted _ _ hl
    have hl1 : (dr.retain w handle).2.handles.lookup handle.addr = some (ptr, 1) := by
      simp [hr, emplace_of_not_mem hn]
    have hb1 : (dr.retain w handle).2.heap ptr = some b.increaseRefcount := by simp [hr, hb]
    refine release_eq_of_fields hc hl1 hb1 ?_ ?_
    · rw [CrosGrallocDriver.decrementHandle_of_lookup hl1, if_pos rfl]
      simp [hr, emplace_of_not_mem hn, erase_insert_of_not_mem hn]
    · rw [if_neg (by simp [CrosGrallocBuffer.increaseRefcount]; omega)]
      simp [hr, ← hb]
  · -- a fresh import: a new buffer under the kernel object's id
    have hid' : bo.handle0 = id := hw.import_same _ bo id hbo (by rwa [importData_fd0])
    rw [hr]
    exact release_register hc (hid' ▸ hnone) hn hw.new_fresh rfl rfl

end

-- ---------------------------------------------------------------------------
-- Runs
-- ---------------------------------------------------------------------------

theorem Retains.releaseN_eq {handle : BufferHandle} {dr dr' : CrosGrallocDriver} {ws : List World}
    (h : Retains handle dr ws dr') (hi : Inv dr) : releaseN handle ws.length dr' = dr := by
  induction h with
  | nil => rfl
  | cons hw hs _ ih =>
    rw [List.length_cons, releaseN, ih (hi.retain hw _)]
    exact hi.release_retain hw hs

/-- What a round trip of `retain`s and `release`s, or of `allocate` and
`release`, gives back from the process `p`. -/
def RoundTrips (c : Config) (p : Process) : Prop :=
  (∀ handle ws dr', Retains handle p.driver ws dr' →
    releaseN handle ws.length dr' = p.driver ∧
    (handle.addr ∉ p.driver.handles →
      (releaseN handle ws.length dr').release handle = (EINVAL.neg, p.driver))) ∧
  (∀ w d handle, w.Contract p.driver → (allocate c w d p).handle = some handle →
    ((allocate c w d p).process.driver.release handle).2 = p.driver)

theorem retain_release_round_trip {c : Config} {p : Process} (hp : Reachable c p) :
    RoundTrips c p := by
  have hi := hp.inv
  refine ⟨fun handle ws dr' h => ?_, fun w d handle hw hh => ?_⟩
  · have hback := h.releaseN_eq hi
    exact ⟨hback, fun hn => by rw [hback, release_of_not_mem hn]⟩
  · rcases allocate_spec c w d p with ⟨-, -, hnone⟩ | ⟨-, bo, fd, hnd, hbo, hmagic, hsome, hr⟩
    · rw [hnone] at hh
      cases hh
    · rw [hsome] at hh
      cases hh
      rw [hr]
      exact release_register (crosGrallocConvertHandle_eq_some.mpr ⟨rfl, hw.malloc_ne_zero, hmagic⟩)
        (hw.created_fresh _ _ hbo) hw.malloc_fresh hw.new_fresh rfl rfl

theorem twoImports_round_trips :
    Reachable (Config.ofBuild ⟨false, false⟩) (twoImports (Config.ofBuild ⟨false, false⟩)) ∧
      Retains (importedHandle 3 10) twoImportsDriver [importWorld 3000, importWorld 3000]
        ((twoImportsDriver.retain (importWorld 3000) (importedHandle 3 10)).2.retain (importWorld 3000)
          (importedHandle 3 10)).2 ∧
      releaseN (importedHandle 3 10) 2 ((twoImportsDriver.retain (importWorld 3000)
        (importedHandle 3 10)).2.retain (importWorld 3000) (importedHandle 3 10)).2 = twoImportsDriver ∧
      (releaseN (importedHandle 3 10) 2 ((twoImportsDriver.retain (importWorld 3000)
        (importedHandle 3 10)).2.retain (importWorld 3000) (importedHandle 3 10)).2).release
          (importedHandle 3 10) = (EINVAL.neg, twoImportsDriver) ∧
      { oneBoWorld with malloc := 3, new := 3000 }.Contract twoImportsDriver ∧
      ∃ handle, (allocate (Config.ofBuild ⟨false, false⟩) { oneBoWorld with malloc := 3, new := 3000 }
          ⟨64, 64, 0, 0, 0, "", 0⟩ (twoImports (Config.ofBuild ⟨false, false⟩))).handle = some handle ∧
        ((allocate (Config.ofBuild ⟨false, false⟩) { oneBoWorld with malloc := 3, new := 3000 }
          ⟨64, 64, 0, 0, 0, "", 0⟩ (twoImports (Config.ofBuild ⟨false, false⟩))).process.driver.release
            handle).2 = twoImportsDriver := by
  have hp := twoImports_reachable (Config.ofBuild ⟨false, false⟩)
  have hrt := retain_release_round_trip hp
  rw [RoundTrips, twoImports_driver] at hrt
  have hrun : Retains (importedHandle 3 10) twoImportsDriver [importWorld 3000, importWorld 3000] _ :=
    .cons (importWorld_contract (by decide) (by decide) rfl) rfl
      (.cons (importWorld_contract (by decide) (by decide) rfl) rfl (.nil _))
  have hw : { oneBoWorld with malloc := 3, new := 3000 }.Contract twoImportsDriver :=
    ⟨fun _ _ h => (by cases h; decide), fun _ _ _ h => (by cases h), by decide, by decide, rfl⟩
  obtain ⟨hback, hrefuse⟩ := hrt.1 _ _ _ hrun
  exact ⟨hp, hrun, hback, hrefuse (by decide), hw, _, rfl, hrt.2 _ _ _ hw rfl⟩

end Minigbm.Gralloc
