import Minigbm.Format

/-!
# Mapping and coherency

`i915_bo_map` hands out one of three kinds of mapping: a GTT aperture
mapping, a direct CPU mapping, or, for a tiled buffer whose aperture
mapping the kernel refuses, a direct CPU mapping after all. The coherency
calls `i915_bo_invalidate` and `i915_bo_flush` look only at the tiling, so
they treat that fallback mapping as an aperture one: the domain moved is
GTT and nothing is flushed. On every other path they match the mapping
(`fallback_mapping_incoherent`).

The flush itself, `i915_clflush`, walks 64-byte lines from the one holding
the start address; `clflush_overlapping_lines` shows it ends and flushes
each line overlapping the range once, when the range ends at least a line
below the top of the address space.
-/

namespace Minigbm.I915

open Minigbm

/-- `I915_GEM_DOMAIN_CPU`, `I915_GEM_DOMAIN_GTT`. -/
inductive GemDomain
  | cpu
  | gtt
  deriving DecidableEq, Repr

/-- The fields of a bo the mapping path reads: `handles[0]`, the tiling,
`format_modifiers[0]`, the use flags and the total size. -/
structure MappedBo where
  handle : BitVec 32
  tiling : Tiling
  formatModifier : BitVec 64
  useFlags : BitVec 64
  totalSize : Nat
  deriving DecidableEq, Repr

/-- `struct drm_i915_gem_mmap` as `i915_bo_map` fills it. -/
structure GemMmap where
  handle : BitVec 32
  offset : Nat
  size : Nat
  writeCombine : Bool
  deriving DecidableEq, Repr

/-- The kernel's answers to the calls `i915_bo_map` makes: the address
`DRM_IOCTL_I915_GEM_MMAP` returns, the fake offset of
`DRM_IOCTL_I915_GEM_MMAP_GTT`, and what `mmap` of that offset returns;
`none` for a failure. -/
structure MapWorld where
  gemMmap : GemMmap → Option Nat
  gemMmapGtt : BitVec 32 → Option Nat
  mmapGtt : Nat → Nat → Option Nat

/-- The kind of mapping handed out: the aperture, or a direct CPU mapping,
write-combined or not. -/
inductive MappingKind
  | gtt
  | cpu (writeCombine : Bool)
  deriving DecidableEq, Repr

/-- The address `i915_bo_map` returns with the `vma->length` it sets, and the
kind of mapping it made. -/
structure Mapping where
  addr : Nat
  length : Nat
  kind : MappingKind
  deriving DecidableEq, Repr

/-- Write-combined CPU mappings are asked for scanout buffers that neither
Renderscript nor the camera uses. -/
def wantsWriteCombine (useFlags : BitVec 64) : Bool :=
  useFlags &&& boUseScanout != 0 &&
    useFlags &&& (boUseRenderscript ||| boUseCameraRead ||| boUseCameraWrite) == 0

/-- A direct CPU mapping of the whole bo through `DRM_IOCTL_I915_GEM_MMAP`. -/
def cpuMap (w : MapWorld) (bo : MappedBo) : Option Mapping :=
  let wc := wantsWriteCombine bo.useFlags
  (w.gemMmap ⟨bo.handle, 0, bo.totalSize, wc⟩).map fun addr => ⟨addr, bo.totalSize, .cpu wc⟩

/-- `i915_bo_map`; `none` is `MAP_FAILED`. -/
def i915BoMap (w : MapWorld) (bo : MappedBo) : Option Mapping :=
  if bo.formatModifier = i915FormatModYTiledCcs then none
  else if bo.tiling = .none then cpuMap w bo
  else match w.gemMmapGtt bo.handle with
    | none => cpuMap w bo
    | some offset => (w.mmapGtt bo.totalSize offset).map fun addr => ⟨addr, bo.totalSize, .gtt⟩

/-- `struct drm_i915_gem_set_domain`; no write domain is 0. -/
structure GemSetDomain where
  handle : BitVec 32
  readDomains : GemDomain
  writeDomain : Option GemDomain
  deriving DecidableEq, Repr

/-- `i915_bo_invalidate`: the domain request it issues, with the status of
`DRM_IOCTL_I915_GEM_SET_DOMAIN`. -/
def i915BoInvalidate (setDomain : GemSetDomain → Int) (bo : MappedBo) (mapFlags : BitVec 32) :
    GemSetDomain × Int :=
  let domain := if bo.tiling = .none then GemDomain.cpu else .gtt
  let request : GemSetDomain :=
    ⟨bo.handle, domain, if mapFlags &&& boMapWrite != 0 then some domain else none⟩
  (request, setDomain request)

/-- `i915_bo_flush`: the range it passes to `i915_clflush`, if any. -/
def i915BoFlush (hasLlc : Bool) (bo : MappedBo) (m : Mapping) : Option (Nat × Nat) :=
  if !hasLlc && bo.tiling = .none then some (m.addr, m.length) else none

-- ---------------------------------------------------------------------------
-- Coherency against the mapping handed out
-- ---------------------------------------------------------------------------

/-- What the coherency calls owe a mapping: the domain of its kind, read and,
for a writer, written; and for a write-back CPU mapping without a shared
last-level cache, a flush of the whole mapped range. -/
def CoherentWith (setDomain : GemSetDomain → Int) (hasLlc : Bool) (bo : MappedBo)
    (mapFlags : BitVec 32) (m : Mapping) : Prop :=
  let request := (i915BoInvalidate setDomain bo mapFlags).1
  let domain := match m.kind with
    | .gtt => GemDomain.gtt
    | .cpu _ => .cpu
  request.readDomains = domain ∧
    request.writeDomain = (if mapFlags &&& boMapWrite != 0 then some domain else none) ∧
    (m.kind = .cpu false → hasLlc = false → i915BoFlush hasLlc bo m = some (m.addr, m.length))

theorem cpuMap_kind {w : MapWorld} {bo : MappedBo} {m : Mapping} (h : cpuMap w bo = some m) :
    ∃ wc, m.kind = .cpu wc := by
  simp only [cpuMap, Option.map_eq_some'] at h
  obtain ⟨_, -, rfl⟩ := h
  exact ⟨_, rfl⟩

theorem coherentWith_untiled (setDomain : GemSetDomain → Int) (hasLlc : Bool) {bo : MappedBo}
    (mapFlags : BitVec 32) {m : Mapping} (ht : bo.tiling = .none) (hk : ∃ wc, m.kind = .cpu wc) :
    CoherentWith setDomain hasLlc bo mapFlags m := by
  obtain ⟨wc, hk⟩ := hk
  simp [CoherentWith, i915BoInvalidate, i915BoFlush, ht, hk]

theorem coherentWith_gtt (setDomain : GemSetDomain → Int) (hasLlc : Bool) {bo : MappedBo}
    (mapFlags : BitVec 32) {m : Mapping} (ht : bo.tiling ≠ .none) (hk : m.kind = .gtt) :
    CoherentWith setDomain hasLlc bo mapFlags m := by
  simp [CoherentWith, i915BoInvalidate, ht, hk]

theorem mapping_coherent_or_fallback (w : MapWorld) (setDomain : GemSetDomain → Int)
    (hasLlc : Bool) (bo : MappedBo) (mapFlags : BitVec 32) {m : Mapping}
    (h : i915BoMap w bo = some m) :
    CoherentWith setDomain hasLlc bo mapFlags m ∨
      (bo.tiling ≠ .none ∧ w.gemMmapGtt bo.handle = none ∧ cpuMap w bo = some m) := by
  unfold i915BoMap at h
  split_ifs at h with hccs ht
  · exact .inl (coherentWith_untiled setDomain hasLlc mapFlags ht (cpuMap_kind h))
  · cases hg : w.gemMmapGtt bo.handle with
    | none => exact .inr ⟨ht, rfl, by simpa [hg] using h⟩
    | some offset =>
      simp only [hg, Option.map_eq_some'] at h
      obtain ⟨_, -, rfl⟩ := h
      exact .inl (coherentWith_gtt setDomain hasLlc mapFlags ht rfl)

def fallbackWorld : MapWorld := ⟨fun _ => some 4096, fun _ => none, fun _ _ => none⟩

def xTiledBo : MappedBo := ⟨1, .x, i915FormatModXTiled, 0, 4096⟩

/-- The coherency calls match every mapping `i915_bo_map` hands out but the
CPU mapping a tiled bo falls back to; an X-tiled bo whose aperture mapping
the kernel refuses gets a write-back CPU mapping that is moved to the GTT
domain and never flushed. -/
theorem fallback_mapping_incoherent :
    (∀ w setDomain hasLlc bo mapFlags (m : Mapping), i915BoMap w bo = some m →
      CoherentWith setDomain hasLlc bo mapFlags m ∨
        (bo.tiling ≠ .none ∧ w.gemMmapGtt bo.handle = none ∧ cpuMap w bo = some m)) ∧
    i915BoMap fallbackWorld xTiledBo = some ⟨4096, 4096, .cpu false⟩ ∧
      (i915BoInvalidate (fun _ => 0) xTiledBo boMapWrite).1 = ⟨1, .gtt, some .gtt⟩ ∧
      i915BoFlush false xTiledBo ⟨4096, 4096, .cpu false⟩ = none ∧
      ¬ CoherentWith (fun _ => 0) false xTiledBo boMapWrite ⟨4096, 4096, .cpu false⟩ := by
  refine ⟨fun w setDomain hasLlc bo mapFlags _ h =>
    mapping_coherent_or_fallback w setDomain hasLlc bo mapFlags h, rfl, rfl, rfl, ?_⟩
  rintro ⟨hread, -⟩
  exact absurd hread (by decide)

-- ---------------------------------------------------------------------------
-- i915_clflush
-- ---------------------------------------------------------------------------

inductive CacheOp
  | mfence
  | clflush (line : BitVec 64)
  deriving DecidableEq, Repr

/-- The `while (p < end)` loop of `i915_clflush` on 64-bit addresses: the
lines it flushes from `p` on, or `none` when `fuel` turns are not enough. -/
def i915Clflush.loop (stop : BitVec 64) : Nat → BitVec 64 → Option (List (BitVec 64))
  | 0, p => if p < stop then none else some []
  | fuel + 1, p => if p < stop then (loop stop fuel (p + 64)).map (p :: ·) else some []

/-- `i915_clflush(start, size)`: a fence, then one `clflush` per 64-byte line
from the line holding `start` up to `start + size`. -/
def i915Clflush (start size : BitVec 64) (fuel : Nat) : Option (List CacheOp) :=
  (i915Clflush.loop (start + size) fuel (start &&& ~~~63)).map fun lines =>
    .mfence :: lines.map .clflush

theorem i915Clflush.loop_lines {stop : BitVec 64} (hstop : stop.toNat ≤ 2 ^ 64 - 64) (n : Nat)
    (p : BitVec 64) (hp : p.toNat % 64 = 0) (hn : (stop.toNat + 63 - p.toNat) / 64 = n) :
    ∃ lines, (∀ fuel, n ≤ fuel → loop stop fuel p = some lines) ∧ lines.Nodup ∧
      lines.length = n ∧
      ∀ q : BitVec 64, q ∈ lines ↔ q.toNat % 64 = 0 ∧ p.toNat ≤ q.toNat ∧ q.toNat < stop.toNat := by
  induction n generalizing p with
  | zero =>
    have hge : ¬p < stop := fun h => by
      have : p.toNat < stop.toNat := h
      omega
    refine ⟨[], fun fuel _ => by cases fuel <;> simp [loop, hge], List.nodup_nil, rfl, fun q => ?_⟩
    simp only [List.not_mem_nil, false_iff]
    omega
  | succ m ih =>
    have hlt : p.toNat < stop.toNat := by omega
    have hnext : (p + 64).toNat = p.toNat + 64 := by
      rw [BitVec.toNat_add]
      exact Nat.mod_eq_of_lt (by simp; omega)
    obtain ⟨lines, hrun, hnd, hlen, hmem⟩ := ih (p + 64) (by omega) (by omega)
    refine ⟨p :: lines, fun fuel hfuel => ?_, ?_, by simp [hlen], fun q => ?_⟩
    · obtain ⟨f, rfl⟩ : ∃ f, fuel = f + 1 := ⟨fuel - 1, by omega⟩
      rw [loop, if_pos (show p < stop from hlt), hrun f (by omega)]
      rfl
    · exact List.nodup_cons.2 ⟨fun h => by have := (hmem p).1 h; omega, hnd⟩
    · rw [List.mem_cons, hmem, BitVec.toNat_eq]
      omega

/-- With `size > 0` and `start + size` at most `2^64 - 64`, `i915_clflush`
ends, and after its fence it flushes every 64-byte line overlapping
`[start, start + size)` exactly once and no other line. -/
theorem clflush_overlapping_lines (start size : BitVec 64) (hsize : 0 < size.toNat)
    (hend : start.toNat + size.toNat ≤ 2 ^ 64 - 64) :
    ∃ lines : List (BitVec 64),
      (∀ fuel, lines.length ≤ fuel → i915Clflush start size fuel = some (.mfence :: lines.map .clflush)) ∧
      lines.Nodup ∧
      ∀ p : BitVec 64, p ∈ lines ↔
        p.toNat % 64 = 0 ∧ p.toNat < start.toNat + size.toNat ∧ start.toNat < p.toNat + 64 := by
  have hstop : (start + size).toNat = start.toNat + size.toNat := by
    rw [BitVec.toNat_add]
    exact Nat.mod_eq_of_lt (by omega)
  have hfirst : (start &&& ~~~63).toNat = start.toNat / 64 * 64 := and_not_low_mask_toNat start 6
  have hroom : (start + size).toNat ≤ 2 ^ 64 - 64 := by omega
  obtain ⟨lines, hrun, hnd, hlen, hmem⟩ :=
    i915Clflush.loop_lines hroom _ (start &&& ~~~63) (by omega) rfl
  refine ⟨lines, fun fuel hfuel => ?_, hnd, fun p => ?_⟩
  · rw [i915Clflush, hrun fuel (hlen ▸ hfuel)]
    rfl
  · rw [hmem, hstop, hfirst]
    omega

theorem clflush_unaligned_range :
    0 < (100 : BitVec 64).toNat ∧ (100 : BitVec 64).toNat + (100 : BitVec 64).toNat ≤ 2 ^ 64 - 64 ∧
      ∃ lines : List (BitVec 64),
        (∀ fuel, lines.length ≤ fuel →
          i915Clflush 100 100 fuel = some (.mfence :: lines.map .clflush)) ∧
        lines.Nodup ∧
        ∀ p : BitVec 64, p ∈ lines ↔ p.toNat % 64 = 0 ∧
          p.toNat < (100 : BitVec 64).toNat + (100 : BitVec 64).toNat ∧ (100 : BitVec 64).toNat < p.toNat + 64 :=
  ⟨by decide, by decide, clflush_overlapping_lines 100 100 (by decide) (by decide)⟩

end Minigbm.I915
