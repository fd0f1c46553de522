import Minigbm.I915.Layout

/-!
# Laws of the i915 layout engine

`yv12_tiled_stride_unaligned`: on a tiled layout the first stride is a
multiple of the tile width in the generic branch and the CCS branch,
whatever the modifier source, format table and width. The generic branch
owes this to `i915_align_dimensions`, so the `USE_GRALLOC1` exemption of
`DRM_FORMAT_R8` from stride alignment is where it fails there. Android's
YV12 branch, which its comment means for a linear texture, lays out from
`ALIGN(width, 32)` under whatever tiling the modifier gave, so an X-tiled
modifier list yields X tiling with a 32-byte stride.

`argb_layout_wraps`: the 32-bit products of the generic branch wrap, and a
layout can claim a plane of size 0.

`list_modifier_choice`: a caller's modifier list is searched in the order
Y-tiled, X-tiled, linear; the CCS modifier is not in that order, so a list
never yields it (`ccs_list_gets_y_tiled`).

`plane_offsets_page_aligned`: wrap-around or not, every plane of an X- or
Y-tiled layout starts on a 4096-byte page, since each plane before it is a
whole number of tiles, except after a first plane of `DRM_FORMAT_R8` in a
`USE_GRALLOC1` build.
-/

namespace Minigbm.I915

open Minigbm

section
variable {build : BuildConfig} {format : BitVec 32} {tiling : Tiling} {width height : BitVec 32}

theorem align_tilingAlignment_mod (s : BitVec 32) (t : Tiling) :
    (align s (tilingAlignment t).1).toNat % (tilingAlignment t).1.toNat = 0 := by
  cases t
  · simpa using align_mod (a := s) (b := (64 : BitVec 32)) (k := 6) (by decide)
  · simpa using align_mod (a := s) (b := (512 : BitVec 32)) (k := 9) (by decide)
  · simpa using align_mod (a := s) (b := (128 : BitVec 32)) (k := 7) (by decide)

theorem i915AlignDimensions_stride_mod (h : ¬(build.useGralloc1 = true ∧ format = drmFormatR8))
    (s a : BitVec 32) :
    (i915AlignDimensions build format tiling s a).1.toNat % (tilingAlignment tiling).1.toNat = 0 := by
  simp only [i915AlignDimensions, h, if_false]
  exact align_tilingAlignment_mod s tiling

theorem planeLoop_stride0 (planes : List PlaneSubsampling) (offset : BitVec 32) :
    ((i915BoFromFormat.planeLoop build format tiling width height planes offset).1.head?.map
        PlaneMeta.stride) =
      planes.head?.map fun p =>
        (i915AlignDimensions build format tiling (p.stride width) (p.height height)).1 := by
  cases planes <;> rfl

theorem i915BoFromFormat_stride0_mod {env : LayoutEnv}
    (h : ¬(env.build.useGralloc1 = true ∧ format = drmFormatR8)) :
    (((i915BoFromFormat env tiling width height format).1.head?.map PlaneMeta.stride).getD 0).toNat %
      (tilingAlignment tiling).1.toNat = 0 := by
  simp only [i915BoFromFormat, planeLoop_stride0]
  cases (env.layoutFromFormat format).planes with
  | nil => simp
  | cons p ps => exact i915AlignDimensions_stride_mod h _ _

theorem i915CcsLayout_stride0_mod (s h : BitVec 32) :
    (((i915CcsLayout s h).1.head?.map PlaneMeta.stride).getD 0).toNat % 128 = 0 := by
  show (divRoundUp s 128).toNat * 128 % 2 ^ 32 % 128 = 0
  omega

end

theorem tilingOfModifier_ccs (build : BuildConfig) :
    tilingOfModifier build i915FormatModYTiledCcs = .y := by
  simp [tilingOfModifier, show i915FormatModYTiledCcs ≠ drmFormatModLinear by decide,
    show i915FormatModYTiledCcs ≠ i915FormatModXTiled by decide]

theorem tiled_stride_admitted {env : LayoutEnv} {combos : List Combination}
    {width height format : BitVec 32} {useFlags : BitVec 64} {modifiers : Option (List (BitVec 64))}
    {m : BoMetadata} (h : i915BoComputeMetadata env combos width height format useFlags modifiers = .ok m)
    (htiled : m.tiling = .x ∨ m.tiling = .y) (handroid : format ≠ drmFormatYvu420Android)
    (hr8 : env.build.useGralloc1 = true → format = drmFormatR8 →
      m.formatModifier = i915FormatModYTiledCcs) :
    (tilingAlignment m.tiling).1.toNat ∣ m.stride0.toNat := by
  obtain ⟨modifier, -, rfl⟩ := i915BoComputeMetadata_ok h
  apply Nat.dvd_of_mod_eq_zero
  simp only [BoMetadata.stride0, i915Layout, handroid, if_false] at hr8 ⊢
  by_cases hccs : modifier = i915FormatModYTiledCcs
  · subst hccs
    simpa [tilingOfModifier_ccs, tilingAlignment] using
      i915CcsLayout_stride0_mod ((env.layoutFromFormat format).stride width 0) height
  · simp only [hccs, if_false]
    exact i915BoFromFormat_stride0_mod fun hg => hccs (hr8 hg.1 hg.2)

def packed4Env : LayoutEnv :=
  ⟨fun _ => PlanarLayout.packed 4, 4096, ⟨false, false⟩, fun _ _ _ => ([], 0)⟩

-- ---------------------------------------------------------------------------
-- Wrap-around
-- ---------------------------------------------------------------------------

/-- The plane layout invariant read in natural numbers: each plane the
format has gets a stride covering one of its rows and a size covering all
of them, and every plane ends before the next one starts and within the
total size. -/
def LayoutSound (l : PlanarLayout) (width height : BitVec 32) (m : BoMetadata) : Prop :=
  (∀ i p pm, l.planes.get? i = some p → m.planes.get? i = some pm →
      p.strideNat width ≤ pm.stride.toNat ∧ pm.stride.toNat * p.rowsNat height ≤ pm.size.toNat) ∧
  (∀ i pm, m.planes.get? i = some pm → pm.offset.toNat + pm.size.toNat ≤ m.totalSize.toNat) ∧
  (∀ i pm pm', m.planes.get? i = some pm → m.planes.get? (i + 1) = some pm' →
      pm.offset.toNat + pm.size.toNat ≤ pm'.offset.toNat)

/-- A linear 65536 x 65536 ARGB8888 buffer: the stride is 2^18 bytes, the
plane 2^34 bytes, and the 32-bit product keeps 0 of it. -/
theorem argb_layout_wraps {env : LayoutEnv} (combos : List Combination)
    (hl : env.layoutFromFormat drmFormatArgb8888 = .packed 4) (hp : env.pagesize = 4096) :
    i915BoComputeMetadata env combos 65536 65536 drmFormatArgb8888 0 (some [drmFormatModLinear]) =
        .ok ⟨.none, drmFormatModLinear, [⟨262144, 0, 0⟩], 0⟩ ∧
      ¬ LayoutSound (.packed 4) 65536 65536 ⟨.none, drmFormatModLinear, [⟨262144, 0, 0⟩], 0⟩ := by
  constructor
  · have hpick : drvPickModifier [drmFormatModLinear] modifierOrder = drmFormatModLinear := by decide
    have hne : drmFormatArgb8888 ≠ drmFormatYvu420Android := by decide
    have hnc : drmFormatModLinear ≠ i915FormatModYTiledCcs := by decide
    have hr8 : drmFormatArgb8888 ≠ drmFormatR8 := by decide
    simp only [i915BoComputeMetadata, i915ModifierFor, hpick, Except.map, i915Layout, hne, hnc,
      if_false, i915BoFromFormat, hl, hp, tilingOfModifier, if_true, PlanarLayout.packed,
      i915BoFromFormat.planeLoop, i915AlignDimensions, hr8, and_false]
    rfl
  · rintro ⟨hs, -, -⟩
    exact absurd (hs 0 _ _ rfl rfl).2 (by decide)

theorem argb_layout_wraps_packed4 :
    packed4Env.layoutFromFormat drmFormatArgb8888 = .packed 4 ∧ packed4Env.pagesize = 4096 ∧
      i915BoComputeMetadata packed4Env [] 65536 65536 drmFormatArgb8888 0
          (some [drmFormatModLinear]) = .ok ⟨.none, drmFormatModLinear, [⟨262144, 0, 0⟩], 0⟩ ∧
      ¬ LayoutSound (.packed 4) 65536 65536 ⟨.none, drmFormatModLinear, [⟨262144, 0, 0⟩], 0⟩ :=
  ⟨rfl, rfl, argb_layout_wraps [] rfl rfl⟩

-- ---------------------------------------------------------------------------
-- Modifier choice from a list
-- ---------------------------------------------------------------------------

@[simp] theorem tilingOfModifier_linear (build : BuildConfig) :
    tilingOfModifier build drmFormatModLinear = .none := rfl

@[simp] theorem tilingOfModifier_x (build : BuildConfig) :
    tilingOfModifier build i915FormatModXTiled = .x := by
  simp [tilingOfModifier, show i915FormatModXTiled ≠ drmFormatModLinear by decide]

@[simp] theorem tilingOfModifier_y (build : BuildConfig) :
    tilingOfModifier build i915FormatModYTiled = .y := by
  simp [tilingOfModifier, show i915FormatModYTiled ≠ drmFormatModLinear by decide,
    show i915FormatModYTiled ≠ i915FormatModXTiled by decide]

theorem drvPickModifier_modifierOrder (modifiers : List (BitVec 64)) :
    drvPickModifier modifiers modifierOrder =
      if i915FormatModYTiled ∈ modifiers then i915FormatModYTiled
      else if i915FormatModXTiled ∈ modifiers then i915FormatModXTiled
      else drmFormatModLinear := by
  by_cases hy : i915FormatModYTiled ∈ modifiers
  · simp [drvPickModifier, modifierOrder, hy]
  · by_cases hx : i915FormatModXTiled ∈ modifiers
    · simp [drvPickModifier, modifierOrder, hy, hx]
    · by_cases hl : drmFormatModLinear ∈ modifiers <;>
        simp [drvPickModifier, modifierOrder, hy, hx, hl]

/-- With a modifier list, `i915_bo_compute_metadata` never fails and lays
out with the first of Y-tiled, X-tiled and linear the list holds, or with
linear when it holds none; the modifier is one of the list's whenever the
list holds one of those three. `I915_FORMAT_MOD_Y_TILED_CCS` is not in
`modifier_order`, so a list never yields it. -/
theorem list_modifier_choice (env : LayoutEnv) (combos : List Combination)
    (width height format : BitVec 32) (useFlags : BitVec 64) (modifiers : List (BitVec 64)) :
    ∃ m, i915BoComputeMetadata env combos width height format useFlags (some modifiers) = .ok m ∧
      m.formatModifier =
        (if i915FormatModYTiled ∈ modifiers then i915FormatModYTiled
        else if i915FormatModXTiled ∈ modifiers then i915FormatModXTiled
        else drmFormatModLinear) ∧
      m.tiling =
        (if i915FormatModYTiled ∈ modifiers then .y
        else if i915FormatModXTiled ∈ modifiers then .x else .none) ∧
      (i915FormatModYTiled ∈ modifiers ∨ i915FormatModXTiled ∈ modifiers ∨
        drmFormatModLinear ∈ modifiers → m.formatModifier ∈ modifiers) := by
  refine ⟨_, rfl, drvPickModifier_modifierOrder modifiers, ?_, ?_⟩ <;>
    simp only [drvPickModifier_modifierOrder] <;> split_ifs <;> simp_all

theorem ccs_list_gets_y_tiled :
    ∃ m, i915BoComputeMetadata packed4Env [] 1 1 drmFormatArgb8888 0
        (some [i915FormatModYTiledCcs, i915FormatModYTiled]) = .ok m ∧
      m.formatModifier = i915FormatModYTiled ∧ m.tiling = .y := by
  have hpick : drvPickModifier [i915FormatModYTiledCcs, i915FormatModYTiled] modifierOrder =
      i915FormatModYTiled := by decide
  exact ⟨_, rfl, hpick, by simp only [hpick, tilingOfModifier_y]⟩

-- ---------------------------------------------------------------------------
-- Android's YV12 and the recorded tiling
-- ---------------------------------------------------------------------------

def gralloc1Env : LayoutEnv :=
  ⟨fun f => if f = drmFormatNv12 then ⟨[⟨1, 1, 1⟩, ⟨2, 2, 2⟩]⟩ else .packed 1, 4096, ⟨true, false⟩,
    fun stride height _ => drvBoFromFormatYvu420Android stride height⟩

theorem gralloc1Env_recordsStride : gralloc1Env.RecordsStride := fun _ _ _ => rfl

section
variable {env : LayoutEnv} {combos : List Combination} {width height : BitVec 32} {useFlags : BitVec 64}

theorem yv12_stride0 (henv : env.RecordsStride) {modifiers : Option (List (BitVec 64))} {m : BoMetadata}
    (h : i915BoComputeMetadata env combos width height drmFormatYvu420Android useFlags modifiers = .ok m) :
    m.stride0 = align width 32 := by
  obtain ⟨modifier, -, rfl⟩ := i915BoComputeMetadata_ok h
  simp only [BoMetadata.stride0, i915Layout, if_true]
  rw [henv]
  rfl

theorem yv12_x_tiled_list (henv : env.RecordsStride) :
    ∃ m, i915BoComputeMetadata env combos 32 height drmFormatYvu420Android useFlags
        (some [i915FormatModXTiled]) = .ok m ∧ m.tiling = .x ∧ m.stride0 = 32 := by
  have hpick : drvPickModifier [i915FormatModXTiled] modifierOrder = i915FormatModXTiled := by decide
  have h : i915BoComputeMetadata env combos 32 height drmFormatYvu420Android useFlags
      (some [i915FormatModXTiled]) = .ok ⟨.x, i915FormatModXTiled,
        (i915Layout env i915FormatModXTiled 32 height drmFormatYvu420Android).1,
        (i915Layout env i915FormatModXTiled 32 height drmFormatYvu420Android).2⟩ := by
    simp only [i915BoComputeMetadata, i915ModifierFor, hpick, tilingOfModifier_x]
    rfl
  exact ⟨_, h, rfl, yv12_stride0 henv h⟩

theorem r8_y_tiled_list (hb : env.build.useGralloc1 = true) (hl : env.layoutFromFormat drmFormatR8 = .packed 1) :
    ∃ m, i915BoComputeMetadata env combos width height drmFormatR8 useFlags
        (some [i915FormatModYTiled]) = .ok m ∧ m.tiling = .y ∧ m.stride0 = width := by
  have hpick : drvPickModifier [i915FormatModYTiled] modifierOrder = i915FormatModYTiled := by decide
  have hne : drmFormatR8 ≠ drmFormatYvu420Android := by decide
  have hnc : i915FormatModYTiled ≠ i915FormatModYTiledCcs := by decide
  refine ⟨_, rfl, by simp only [hpick, tilingOfModifier_y], ?_⟩
  simp [BoMetadata.stride0, i915Layout, hpick, hne, hnc, i915BoFromFormat, hl, PlanarLayout.packed,
    i915BoFromFormat.planeLoop, i915AlignDimensions, hb, PlaneSubsampling.stride, divRoundUp]

end

/-- Outside Android's YV12 and the `DRM_FORMAT_R8` exemption of
`USE_GRALLOC1` builds, a tiled layout gets a first stride its tiling admits.
YV12 is laid out from `ALIGN(width, 32)` under the tiling the modifier gave,
so a width of 32 with an X-tiled list gives X tiling and a 32-byte stride;
R8 keeps its width as its stride. -/
theorem yv12_tiled_stride_unaligned {env : LayoutEnv} (henv : env.RecordsStride) :
    (∀ combos width height format useFlags modifiers (m : BoMetadata),
      i915BoComputeMetadata env combos width height format useFlags modifiers = .ok m →
      (m.tiling = .x ∨ m.tiling = .y) → format ≠ drmFormatYvu420Android →
      (env.build.useGralloc1 = true → format = drmFormatR8 → m.formatModifier = i915FormatModYTiledCcs) →
      (tilingAlignment m.tiling).1.toNat ∣ m.stride0.toNat) ∧
    (∀ combos width height useFlags modifiers (m : BoMetadata),
      i915BoComputeMetadata env combos width height drmFormatYvu420Android useFlags modifiers = .ok m →
      m.stride0 = align width 32) ∧
    (∀ combos height useFlags, ∃ m, i915BoComputeMetadata env combos 32 height drmFormatYvu420Android
        useFlags (some [i915FormatModXTiled]) = .ok m ∧
      m.tiling = .x ∧ m.stride0 = 32 ∧ ¬ (tilingAlignment m.tiling).1.toNat ∣ m.stride0.toNat) ∧
    (env.build.useGralloc1 = true → env.layoutFromFormat drmFormatR8 = .packed 1 →
      ∀ combos width height useFlags, ∃ m, i915BoComputeMetadata env combos width height drmFormatR8
        useFlags (some [i915FormatModYTiled]) = .ok m ∧ m.tiling = .y ∧ m.stride0 = width) := by
  refine ⟨fun _ _ _ _ _ _ _ h => tiled_stride_admitted h, fun _ _ _ _ _ _ => yv12_stride0 henv,
    fun _ _ _ => ?_, fun hb hl _ _ _ _ => r8_y_tiled_list hb hl⟩
  obtain ⟨m, h, hx, hs⟩ := yv12_x_tiled_list henv
  exact ⟨m, h, hx, hs, by rw [hx, hs]; decide⟩

theorem gralloc1_yv12_x_tiled_stride :
    gralloc1Env.RecordsStride ∧ ∃ m, i915BoComputeMetadata gralloc1Env [] 32 32 drmFormatYvu420Android 0
        (some [i915FormatModXTiled]) = .ok m ∧
      m.tiling = .x ∧ m.stride0 = 32 ∧ ¬ (tilingAlignment m.tiling).1.toNat ∣ m.stride0.toNat :=
  ⟨gralloc1Env_recordsStride, (yv12_tiled_stride_unaligned gralloc1Env_recordsStride).2.2.1 [] 32 0⟩

-- ---------------------------------------------------------------------------
-- Plane offsets of a tiled layout
-- ---------------------------------------------------------------------------

section
variable {build : BuildConfig} {format : BitVec 32} {tiling : Tiling} {width height : BitVec 32}

theorem tilingAlignment_area (ht : tiling = .x ∨ tiling = .y) :
    (tilingAlignment tiling).1.toNat * (tilingAlignment tiling).2.toNat = 4096 := by
  rcases ht with rfl | rfl <;> rfl

theorem align_tilingAlignment_height_mod (a : BitVec 32) (t : Tiling) :
    (align a (tilingAlignment t).2).toNat % (tilingAlignment t).2.toNat = 0 := by
  cases t
  · simpa using align_mod (a := a) (b := (4 : BitVec 32)) (k := 2) (by decide)
  · simpa using align_mod (a := a) (b := (8 : BitVec 32)) (k := 3) (by decide)
  · simpa using align_mod (a := a) (b := (32 : BitVec 32)) (k := 5) (by decide)

theorem i915AlignDimensions_size_mod (ht : tiling = .x ∨ tiling = .y)
    (h : ¬(build.useGralloc1 = true ∧ format = drmFormatR8)) (s a : BitVec 32) :
    ((i915AlignDimensions build format tiling s a).1 *
      (i915AlignDimensions build format tiling s a).2).toNat % 4096 = 0 := by
  have hs : (tilingAlignment tiling).1.toNat ∣ (i915AlignDimensions build format tiling s a).1.toNat :=
    Nat.dvd_of_mod_eq_zero (i915AlignDimensions_stride_mod h s a)
  have ha := Nat.dvd_of_mod_eq_zero (align_tilingAlignment_height_mod a tiling)
  have hpage := Nat.mul_dvd_mul hs ha
  rw [tilingAlignment_area ht] at hpage
  rw [BitVec.toNat_mul, Nat.mod_mod_of_dvd _ (show 4096 ∣ 2 ^ 32 from ⟨2 ^ 20, rfl⟩)]
  exact Nat.mod_eq_zero_of_dvd hpage

theorem planeLoop_offsets_mod (ht : tiling = .x ∨ tiling = .y)
    (h : ¬(build.useGralloc1 = true ∧ format = drmFormatR8)) :
    ∀ (planes : List PlaneSubsampling) (offset : BitVec 32), offset.toNat % 4096 = 0 →
      (∀ pm ∈ (i915BoFromFormat.planeLoop build format tiling width height planes offset).1,
        pm.offset.toNat % 4096 = 0) ∧
      (i915BoFromFormat.planeLoop build format tiling width height planes offset).2.toNat % 4096 = 0
  | [], _, ho => ⟨by simp [i915BoFromFormat.planeLoop], ho⟩
  | p :: ps, offset, ho => by
    have hsize := i915AlignDimensions_size_mod ht h (p.stride width) (p.height height)
    have hnext : (offset + (i915AlignDimensions build format tiling (p.stride width)
        (p.height height)).1 * (i915AlignDimensions build format tiling (p.stride width)
        (p.height height)).2).toNat % 4096 = 0 := by
      rw [BitVec.toNat_add]
      omega
    obtain ⟨hrest, hend⟩ := planeLoop_offsets_mod ht h ps _ hnext
    simp only [i915BoFromFormat.planeLoop, List.mem_cons, forall_eq_or_imp]
    exact ⟨⟨ho, hrest⟩, hend⟩

end

/-- Every offset the plane loop of `i915_bo_from_format` writes for an X-
or Y-tiled buffer is a multiple of 4096, for every format, width and
height, as long as the format table gives `DRM_FORMAT_R8`, the format whose
stride a `USE_GRALLOC1` build leaves unaligned, at most one plane. -/
theorem plane_offsets_page_aligned (env : LayoutEnv) (tiling : Tiling) (width height format : BitVec 32)
    (ht : tiling = .x ∨ tiling = .y)
    (hr8 : env.build.useGralloc1 = true → (env.layoutFromFormat drmFormatR8).planes.length ≤ 1) :
    ∀ pm ∈ (i915BoFromFormat env tiling width height format).1, pm.offset.toNat % 4096 = 0 := by
  simp only [i915BoFromFormat]
  by_cases hex : env.build.useGralloc1 = true ∧ format = drmFormatR8
  · obtain ⟨hg, rfl⟩ := hex
    have hlen := hr8 hg
    rcases hps : (env.layoutFromFormat drmFormatR8).planes with _ | ⟨p, _ | ⟨q, qs⟩⟩
    · simp [i915BoFromFormat.planeLoop]
    · simp [i915BoFromFormat.planeLoop]
    · simp [hps] at hlen
  · exact (planeLoop_offsets_mod ht hex _ 0 rfl).1

theorem nv12_y_tiled_offsets_page_aligned :
    (Tiling.y = .x ∨ Tiling.y = .y) ∧
      (gralloc1Env.build.useGralloc1 = true →
        (gralloc1Env.layoutFromFormat drmFormatR8).planes.length ≤ 1) ∧
      (i915BoFromFormat gralloc1Env .y 64 64 drmFormatNv12).1 = [⟨128, 8192, 0⟩, ⟨128, 4096, 8192⟩] ∧
      ∀ pm ∈ (i915BoFromFormat gralloc1Env .y 64 64 drmFormatNv12).1, pm.offset.toNat % 4096 = 0 :=
  ⟨.inr rfl, fun _ => le_refl 1, rfl,
    plane_offsets_page_aligned gralloc1Env .y 64 64 drmFormatNv12 (.inr rfl) fun _ => le_refl 1⟩

end Minigbm.I915
