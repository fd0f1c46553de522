import Minigbm.Gralloc.Invariant

/-!
# Backing store ids

`get_backing_store` tells upper layers which handles alias one buffer.
Without `USE_GRALLOC1` it returns the id the buffer is stored under, and by
the table invariant two registered handles get the same id exactly when
they reach the same buffer (`backing_store_iff_same_buffer`).

With `USE_GRALLOC1` it returns the handle's own `id`, which `allocate`
draws from a counter of its process. Handles from two processes can carry
the same `id` and be imported here as two buffers
(`gralloc1_backing_store_collision`).

A handle `allocate` returns resolves at once to the buffer it registered,
whose backing store, without `USE_GRALLOC1`, is the bo's GEM handle
(`allocate_handle_resolves`).
-/

namespace Minigbm.Gralloc

open Minigbm

theorem setWidth_inj {x y : BitVec 32} : x.setWidth 64 = y.setWidth 64 ↔ x = y := by
  refine ⟨fun h => BitVec.eq_of_toNat_eq ?_, fun h => h ▸ rfl⟩
  have := congrArg BitVec.toNat h
  simp only [BitVec.toNat_setWidth] at this
  have := x.isLt
  have := y.isLt
  omega

section
variable {dr : CrosGrallocDriver} {handle : BufferHandle} {ptr : Ptr}

theorem lookupBuffer_eq_ok : dr.lookupBuffer handle = .ok ptr ↔
    crosGrallocConvertHandle handle = some handle ∧ dr.getBuffer handle.addr = some ptr := by
  unfold CrosGrallocDriver.lookupBuffer
  split
  · rename_i hc
    simp [hc]
  · rename_i h hc
    obtain ⟨rfl, -⟩ := crosGrallocConvertHandle_eq_some.mp hc
    split <;> simp_all

theorem Inv.bufferAt_id_inj (hi : Inv dr) {a1 a2 p1 p2 : Ptr}
    (h1 : dr.getBuffer a1 = some p1) (h2 : dr.getBuffer a2 = some p2) :
    (dr.bufferAt p1).id = (dr.bufferAt p2).id ↔ p1 = p2 := by
  obtain ⟨_, h1⟩ := getBuffer_eq_some.mp h1
  obtain ⟨_, h2⟩ := getBuffer_eq_some.mp h2
  obtain ⟨b1, hb1, hs1⟩ := hi.handle_stored _ _ _ h1
  obtain ⟨b2, hb2, hs2⟩ := hi.handle_stored _ _ _ h2
  simp only [CrosGrallocDriver.bufferAt, hb1, hb2, Option.getD_some]
  constructor
  · intro h
    rw [h, hs2] at hs1
    exact (Option.some.inj hs1).symm
  · rintro rfl
    rw [hb1] at hb2
    cases hb2
    rfl

end

theorem backing_store_iff_same_buffer {c : Config} {p : Process} (hp : Reachable c p)
    (hb : c.build.useGralloc1 = false) {h1 h2 : BufferHandle} {p1 p2 : Ptr}
    (h1r : p.driver.lookupBuffer h1 = .ok p1) (h2r : p.driver.lookupBuffer h2 = .ok p2) :
    p.driver.getBackingStore c.build h1 = p.driver.getBackingStore c.build h2 ↔ p1 = p2 := by
  simp only [CrosGrallocDriver.getBackingStore, hb, h1r, h2r, Bool.false_eq_true, if_false,
    Prod.mk.injEq, Option.some.injEq, true_and]
  rw [← hp.inv.bufferAt_id_inj (lookupBuffer_eq_ok.mp h1r).2 (lookupBuffer_eq_ok.mp h2r).2]
  exact setWidth_inj

-- ---------------------------------------------------------------------------
-- The handle allocate returns
-- ---------------------------------------------------------------------------

/-- From any state, in a world that keeps the contract, a successful
`allocate` returns a handle every entry point accepts and resolves to the
buffer it registered: live, stored under the bo's GEM handle, holding the
bo with one reference; without `USE_GRALLOC1`, `get_backing_store` of the
handle is that GEM handle. -/
theorem allocate_handle_resolves (c : Config) (w : World) (d : BufferDescriptor) (p : Process)
    (hw : w.Contract p.driver) (hok : (allocate c w d p).status = 0) :
    ∃ handle bo, (allocate c w d p).handle = some handle ∧
      w.drvBoCreate (allocateBoRequest c d) = some bo ∧
      (allocate c w d p).process.driver.lookupBuffer handle = .ok w.new ∧
      (allocate c w d p).process.driver.buffers.lookup bo.handle0 = some w.new ∧
      (∃ b, (allocate c w d p).process.driver.heap w.new = some b ∧ b.id = bo.handle0 ∧ b.bo = bo ∧
        b.refcount = 1) ∧
      (c.build.useGralloc1 = false → (allocate c w d p).process.driver.getBackingStore c.build handle =
        (0, some (bo.handle0.setWidth 64))) := by
  rcases allocate_spec c w d p with ⟨hlt, -, -⟩ | ⟨-, bo, fd, hnd, hbo, hmagic, hhandle, hr⟩
  · omega
  have hconv : crosGrallocConvertHandle ⟨w.malloc, hnd⟩ = some ⟨w.malloc, hnd⟩ :=
    crosGrallocConvertHandle_eq_some.mpr ⟨rfl, hw.malloc_ne_zero, hmagic⟩
  have hlookup : (allocate c w d p).process.driver.lookupBuffer ⟨w.malloc, hnd⟩ = .ok w.new := by
    rw [lookupBuffer_eq_ok, hr]
    refine ⟨hconv, getBuffer_eq_some.mpr ⟨1, ?_⟩⟩
    simp [emplace_of_not_mem hw.malloc_fresh]
  have hheap : (allocate c w d p).process.driver.heap w.new =
      some (CrosGrallocBuffer.new bo.handle0 bo (some w.malloc) fd d.reservedRegionSize) := by
    simp [hr]
  refine ⟨_, bo, hhandle, hbo, hlookup, ?_, ⟨_, hheap, rfl, rfl, rfl⟩, fun hb => ?_⟩
  · simp [hr, emplace_of_not_mem (hw.created_fresh _ _ hbo)]
  · simp only [CrosGrallocDriver.getBackingStore, hb, Bool.false_eq_true, if_false, hlookup,
      CrosGrallocDriver.bufferAt, hheap, Option.getD_some]
    rfl

theorem oneBoWorld_contract : oneBoWorld.Contract Process.init.driver where
  created_fresh _ _ _ := Finmap.not_mem_empty
  import_same _ _ _ h := by cases h
  malloc_ne_zero := by decide
  malloc_fresh := Finmap.not_mem_empty
  new_fresh := rfl

theorem first_allocate_resolves :
    oneBoWorld.Contract Process.init.driver ∧
      (allocate (Config.ofBuild ⟨false, false⟩) oneBoWorld ⟨64, 64, 0, 0, 0, "", 0⟩ Process.init).status = 0 ∧
      ∃ handle bo, (allocate (Config.ofBuild ⟨false, false⟩) oneBoWorld ⟨64, 64, 0, 0, 0, "", 0⟩
          Process.init).handle = some handle ∧
        oneBoWorld.drvBoCreate (allocateBoRequest (Config.ofBuild ⟨false, false⟩) ⟨64, 64, 0, 0, 0, "", 0⟩) =
          some bo ∧
        (allocate (Config.ofBuild ⟨false, false⟩) oneBoWorld ⟨64, 64, 0, 0, 0, "", 0⟩
          Process.init).process.driver.lookupBuffer handle = .ok oneBoWorld.new ∧
        (allocate (Config.ofBuild ⟨false, false⟩) oneBoWorld ⟨64, 64, 0, 0, 0, "", 0⟩
          Process.init).process.driver.buffers.lookup bo.handle0 = some oneBoWorld.new ∧
        (∃ b, (allocate (Config.ofBuild ⟨false, false⟩) oneBoWorld ⟨64, 64, 0, 0, 0, "", 0⟩
          Process.init).process.driver.heap oneBoWorld.new = some b ∧ b.id = bo.handle0 ∧ b.bo = bo ∧
            b.refcount = 1) ∧
        ((Config.ofBuild ⟨false, false⟩).build.useGralloc1 = false →
          (allocate (Config.ofBuild ⟨false, false⟩) oneBoWorld ⟨64, 64, 0, 0, 0, "", 0⟩
            Process.init).process.driver.getBackingStore (Config.ofBuild ⟨false, false⟩).build handle =
            (0, some (bo.handle0.setWidth 64))) :=
  have hok : (allocate (Config.ofBuild ⟨false, false⟩) oneBoWorld ⟨64, 64, 0, 0, 0, "", 0⟩
      Process.init).status = 0 := rfl
  ⟨oneBoWorld_contract, hok,
    allocate_handle_resolves _ _ _ _ oneBoWorld_contract hok⟩

-- ---------------------------------------------------------------------------
-- Two processes' handles with one id
-- ---------------------------------------------------------------------------

theorem twoImports_lookupBuffer (c : Config) :
    (twoImports c).driver.lookupBuffer (importedHandle 1 10) = .ok 1000 ∧
      (twoImports c).driver.lookupBuffer (importedHandle 2 20) = .ok 2000 := by
  constructor <;>
    simp [twoImports_driver, lookupBuffer_eq_ok, crosGrallocConvertHandle_eq_some, importedHandle,
      CrosGrallocDriver.getBuffer, twoImportsDriver, oneImportDriver, Finmap.lookup_insert_of_ne]

theorem twoImports_backing_stores_differ :
    let c := Config.ofBuild ⟨false, false⟩
    ((twoImports c).driver.getBackingStore c.build (importedHandle 1 10) =
        (twoImports c).driver.getBackingStore c.build (importedHandle 2 20) ↔ (1000 : Ptr) = 2000) :=
  backing_store_iff_same_buffer (twoImports_reachable _) rfl (twoImports_lookupBuffer _).1
    (twoImports_lookupBuffer _).2

theorem gralloc1_backing_store_collision :
    let c := Config.ofBuild ⟨true, false⟩
    Reachable c (twoImports c) ∧
      (twoImports c).driver.lookupBuffer (importedHandle 1 10) = .ok 1000 ∧
      (twoImports c).driver.lookupBuffer (importedHandle 2 20) = .ok 2000 ∧
      (twoImports c).driver.getBackingStore c.build (importedHandle 1 10) =
        (twoImports c).driver.getBackingStore c.build (importedHandle 2 20) :=
  ⟨twoImports_reachable _, (twoImports_lookupBuffer _).1, (twoImports_lookupBuffer _).2, rfl⟩

end Minigbm.Gralloc
