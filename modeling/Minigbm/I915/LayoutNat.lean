import Minigbm.I915.LayoutLaws

/-!
# The layout in natural numbers

The plane loop of `i915_bo_from_format` computes in `uint32_t`. What it
is meant to compute is the layout in natural numbers (`layoutNat`): each
plane's stride and height rounded up as `i915_align_dimensions` asks, its
size their product, the planes back to back from offset 0, and the total
size the sum of the sizes rounded up to a page. That layout is sound: each
plane covers its rows, ends where the next one starts, and lies within the
total size.

`i915BoFromFormat_eq_layoutNat`: when no number the loop computes
exceeds 32 bits (`LayoutFits`), it computes exactly that layout, for every
format table, tiling, width and height. So `i915_bo_compute_metadata` lays
out soundly whenever its numbers fit (`fitting_layout_sound`), and
wrap-around, as in `argb_layout_wraps`, is the only way its generic branch
goes wrong.
-/

namespace Minigbm.I915

open Minigbm

def alignNat (a b : Nat) : Nat := (a + b - 1) / b * b

theorem le_alignNat (a : Nat) {b : Nat} (hb : 0 < b) : a ≤ alignNat a b := by
  have := Nat.lt_mul_div_succ (a + b - 1) hb
  rw [alignNat, Nat.mul_comm]
  rw [Nat.mul_add, Nat.mul_one] at this
  omega

-- ---------------------------------------------------------------------------
-- 32-bit arithmetic that does not wrap
-- ---------------------------------------------------------------------------

section
variable {a b n d : BitVec 32}

theorem divRoundUp_toNat (h : n.toNat + d.toNat - 1 < 2 ^ 32) :
    (divRoundUp n d).toNat = (n.toNat + d.toNat - 1) / d.toNat := by
  rw [divRoundUp, BitVec.toNat_udiv]
  rcases Nat.eq_zero_or_pos d.toNat with hd | hd
  · rw [hd, Nat.div_zero, Nat.div_zero]
  · have hsub : (d - 1).toNat = d.toNat - 1 :=
      BitVec.toNat_sub_of_le (BitVec.le_def.mpr (by simpa using hd))
    rw [BitVec.toNat_add_of_lt (by omega), hsub]
    congr 1
    omega

theorem align_toNat_alignNat {k : Nat} (hb : b.toNat = 2 ^ k) (h : a.toNat + b.toNat - 1 < 2 ^ 32) :
    (align a b).toNat = alignNat a.toNat b.toNat := by
  have hk : 0 < 2 ^ k := Nat.pos_pow_of_pos k (by decide)
  have hlt := b.isLt
  have hb1 : b - 1 = BitVec.ofNat 32 (2 ^ k - 1) := by
    apply BitVec.eq_of_toNat_eq
    rw [BitVec.toNat_sub_of_le (BitVec.le_def.mpr (by rw [show (1 : BitVec 32).toNat = 1 from rfl]; omega)), BitVec.toNat_ofNat, hb,
      Nat.mod_eq_of_lt (by omega)]
    rfl
  rw [align_toNat hb1 (by omega), alignNat, hb]
  congr 2
  omega

end

-- ---------------------------------------------------------------------------
-- The layout in natural numbers
-- ---------------------------------------------------------------------------

structure PlaneNat where
  stride : Nat
  size : Nat
  offset : Nat
  deriving DecidableEq, Repr

def PlaneMeta.toNat (pm : PlaneMeta) : PlaneNat := ⟨pm.stride.toNat, pm.size.toNat, pm.offset.toNat⟩

section
variable (build : BuildConfig) (format : BitVec 32) (tiling : Tiling) (width height : BitVec 32)
  (p : PlaneSubsampling)

/-- The stride `i915_align_dimensions` gives the plane, in natural numbers:
the format's stride rounded up to the tiling, except for `DRM_FORMAT_R8` in
`USE_GRALLOC1` builds. -/
def planeStrideNat : Nat :=
  if build.useGralloc1 ∧ format = drmFormatR8 then p.strideNat width
  else alignNat (p.strideNat width) (tilingAlignment tiling).1.toNat

def planeRowsNat : Nat := alignNat (p.rowsNat height) (tilingAlignment tiling).2.toNat

def planeSizeNat : Nat := planeStrideNat build format tiling width p * planeRowsNat tiling height p

/-- No number the plane loop computes for the plane exceeds 32 bits: the
operands of the two `DIV_ROUND_UP`s, the stride they give, and the
operands of the two `ALIGN`s. -/
def PlaneFits : Prop :=
  width.toNat + p.horizontal.toNat - 1 < 2 ^ 32 ∧ height.toNat + p.vertical.toNat - 1 < 2 ^ 32 ∧
    p.strideNat width +
        (if build.useGralloc1 ∧ format = drmFormatR8 then 0 else (tilingAlignment tiling).1.toNat - 1) <
      2 ^ 32 ∧
    p.rowsNat height + (tilingAlignment tiling).2.toNat - 1 < 2 ^ 32

instance : Decidable (PlaneFits build format tiling width height p) :=
  inferInstanceAs (Decidable (_ ∧ _ ∧ _ ∧ _))

end

section
variable (build : BuildConfig) (format : BitVec 32) (tiling : Tiling) (width height : BitVec 32)

def planesNat : List PlaneSubsampling → Nat → List PlaneNat
  | [], _ => []
  | p :: ps, offset =>
    ⟨planeStrideNat build format tiling width p, planeSizeNat build format tiling width height p, offset⟩ ::
      planesNat ps (offset + planeSizeNat build format tiling width height p)

def sizesNat : List PlaneSubsampling → Nat
  | [] => 0
  | p :: ps => planeSizeNat build format tiling width height p + sizesNat ps

end

/-- The layout `i915_bo_from_format` is meant to compute: the planes from
offset 0, and the sum of their sizes rounded up to a page. -/
def layoutNat (env : LayoutEnv) (tiling : Tiling) (width height format : BitVec 32) :
    List PlaneNat × Nat :=
  (planesNat env.build format tiling width height (env.layoutFromFormat format).planes 0,
    alignNat (sizesNat env.build format tiling width height (env.layoutFromFormat format).planes)
      env.pagesize.toNat)

/-- No number `i915_bo_from_format` computes exceeds 32 bits: those of each
plane, and the operand of the final `ALIGN` to the page size. -/
def LayoutFits (env : LayoutEnv) (tiling : Tiling) (width height format : BitVec 32) : Prop :=
  (∀ p ∈ (env.layoutFromFormat format).planes, PlaneFits env.build format tiling width height p) ∧
    sizesNat env.build format tiling width height (env.layoutFromFormat format).planes +
      env.pagesize.toNat - 1 < 2 ^ 32

instance (env : LayoutEnv) (tiling : Tiling) (width height format : BitVec 32) :
    Decidable (LayoutFits env tiling width height format) :=
  inferInstanceAs (Decidable (_ ∧ _))

-- ---------------------------------------------------------------------------
-- The layout in natural numbers is sound
-- ---------------------------------------------------------------------------

section
variable {build : BuildConfig} {format : BitVec 32} {tiling : Tiling} {width height : BitVec 32}
  {p : PlaneSubsampling}

@[simp] theorem sizesNat_nil : sizesNat build format tiling width height [] = 0 := rfl

@[simp] theorem sizesNat_cons (ps : List PlaneSubsampling) :
    sizesNat build format tiling width height (p :: ps) =
      planeSizeNat build format tiling width height p + sizesNat build format tiling width height ps :=
  rfl

theorem planesNat_get? :
    ∀ (ps : List PlaneSubsampling) (offset i : Nat) (q : PlaneNat),
      (planesNat build format tiling width height ps offset).get? i = some q →
      ∃ p, ps.get? i = some p ∧ q.stride = planeStrideNat build format tiling width p ∧
        q.size = planeSizeNat build format tiling width height p ∧ offset ≤ q.offset ∧
        q.offset + q.size ≤ offset + sizesNat build format tiling width height ps
  | [], _, _, _, h => by simp [planesNat] at h
  | p :: ps, offset, 0, q, h => by
    simp only [planesNat, List.get?_cons_zero, Option.some.injEq] at h
    subst h
    exact ⟨p, rfl, rfl, rfl, le_rfl, by simp⟩
  | p :: ps, offset, i + 1, q, h => by
    obtain ⟨p', hp', hs, hz, hlo, hhi⟩ := planesNat_get? ps _ i q h
    exact ⟨p', hp', hs, hz, by omega, by simp only [sizesNat_cons]; omega⟩

theorem planesNat_next :
    ∀ (ps : List PlaneSubsampling) (offset i : Nat) (q q' : PlaneNat),
      (planesNat build format tiling width height ps offset).get? i = some q →
      (planesNat build format tiling width height ps offset).get? (i + 1) = some q' →
      q.offset + q.size = q'.offset
  | [], _, _, _, _, h, _ => by simp [planesNat] at h
  | _ :: [], _, 0, _, _, _, h' => by simp [planesNat] at h'
  | p :: p' :: ps, offset, 0, q, q', h, h' => by
    simp only [planesNat, List.get?_cons_zero, List.get?_cons_succ, Option.some.injEq] at h h'
    rw [← h, ← h']
  | p :: ps, offset, i + 1, q, q', h, h' => planesNat_next ps _ i q q' h h'

theorem strideNat_le_planeStrideNat :
    p.strideNat width ≤ planeStrideNat build format tiling width p := by
  unfold planeStrideNat
  split
  · exact le_rfl
  · exact le_alignNat _ (by cases tiling <;> decide)

theorem rowsNat_le_planeRowsNat : p.rowsNat height ≤ planeRowsNat tiling height p :=
  le_alignNat _ (by cases tiling <;> decide)

end

theorem layoutSound_of_layoutNat {env : LayoutEnv} {tiling : Tiling} {width height format : BitVec 32}
    {m : BoMetadata} (hpage : 0 < env.pagesize.toNat)
    (hm : (m.planes.map PlaneMeta.toNat, m.totalSize.toNat) = layoutNat env tiling width height format) :
    LayoutSound (env.layoutFromFormat format) width height m := by
  simp only [layoutNat, Prod.mk.injEq] at hm
  obtain ⟨hplanes, htotal⟩ := hm
  have hget : ∀ i pm, m.planes.get? i = some pm →
      (planesNat env.build format tiling width height (env.layoutFromFormat format).planes 0).get? i =
        some pm.toNat := fun i pm h => by
    rw [← hplanes, List.get?_eq_getElem?, List.getElem?_map, ← List.get?_eq_getElem?, h]
    rfl
  refine ⟨fun i p pm hp h => ?_, fun i pm h => ?_, fun i pm pm' h h' => ?_⟩
  · obtain ⟨p', hp', hs, hz, -⟩ := planesNat_get? _ 0 i _ (hget i pm h)
    rw [hp] at hp'
    cases hp'
    rw [show pm.size.toNat = pm.toNat.size from rfl, hz, planeSizeNat,
      show pm.stride.toNat = pm.toNat.stride from rfl, hs]
    exact ⟨strideNat_le_planeStrideNat, Nat.mul_le_mul_left _ rowsNat_le_planeRowsNat⟩
  · obtain ⟨-, -, -, -, -, hhi⟩ := planesNat_get? _ 0 i _ (hget i pm h)
    have := le_alignNat (sizesNat env.build format tiling width height
      (env.layoutFromFormat format).planes) hpage
    show pm.toNat.offset + pm.toNat.size ≤ _
    omega
  · exact (planesNat_next _ 0 i _ _ (hget i pm h) (hget (i + 1) pm' h')).le

-- ---------------------------------------------------------------------------
-- The 32-bit loop computes the layout in natural numbers
-- ---------------------------------------------------------------------------

section
variable {build : BuildConfig} {format : BitVec 32} {tiling : Tiling} {width height : BitVec 32}
  {p : PlaneSubsampling}

theorem tilingAlignment_pow (t : Tiling) :
    (∃ k, (tilingAlignment t).1.toNat = 2 ^ k) ∧ ∃ k, (tilingAlignment t).2.toNat = 2 ^ k := by
  cases t
  exacts [⟨⟨6, rfl⟩, 2, rfl⟩, ⟨⟨9, rfl⟩, 3, rfl⟩, ⟨⟨7, rfl⟩, 5, rfl⟩]

theorem PlaneFits.stride_toNat (hf : PlaneFits build format tiling width height p) :
    (p.stride width).toNat = p.strideNat width := by
  have hs : p.strideNat width < 2 ^ 32 := by
    have := hf.2.2.1
    split at this <;> omega
  rw [PlaneSubsampling.stride, BitVec.toNat_mul, divRoundUp_toNat hf.1]
  exact Nat.mod_eq_of_lt hs

theorem PlaneFits.height_toNat (hf : PlaneFits build format tiling width height p) :
    (p.height height).toNat = p.rowsNat height :=
  divRoundUp_toNat hf.2.1

theorem PlaneFits.alignDimensions_toNat (hf : PlaneFits build format tiling width height p) :
    (i915AlignDimensions build format tiling (p.stride width) (p.height height)).1.toNat =
        planeStrideNat build format tiling width p ∧
      (i915AlignDimensions build format tiling (p.stride width) (p.height height)).2.toNat =
        planeRowsNat tiling height p := by
  obtain ⟨⟨k₁, h₁⟩, ⟨k₂, h₂⟩⟩ := tilingAlignment_pow tiling
  have hstride := hf.2.2.1
  refine ⟨?_, ?_⟩
  · unfold i915AlignDimensions planeStrideNat
    split
    · exact hf.stride_toNat
    · rw [if_neg ‹_›] at hstride
      rw [align_toNat_alignNat h₁ (by rw [hf.stride_toNat]; omega), hf.stride_toNat]
  · rw [i915AlignDimensions, align_toNat_alignNat h₂ (by rw [hf.height_toNat]; exact hf.2.2.2),
      hf.height_toNat, planeRowsNat]

theorem planeLoop_toNat :
    ∀ (ps : List PlaneSubsampling) (offset : BitVec 32),
      (∀ p ∈ ps, PlaneFits build format tiling width height p) →
      offset.toNat + sizesNat build format tiling width height ps < 2 ^ 32 →
      (i915BoFromFormat.planeLoop build format tiling width height ps offset).1.map PlaneMeta.toNat =
          planesNat build format tiling width height ps offset.toNat ∧
        (i915BoFromFormat.planeLoop build format tiling width height ps offset).2.toNat =
          offset.toNat + sizesNat build format tiling width height ps
  | [], _, _, _ => by simp [i915BoFromFormat.planeLoop, planesNat]
  | p :: ps, offset, hfit, hsum => by
    have hf := hfit p (.head _)
    obtain ⟨hs, hr⟩ := hf.alignDimensions_toNat
    rw [sizesNat_cons] at hsum
    have hsize : ((i915AlignDimensions build format tiling (p.stride width) (p.height height)).1 *
        (i915AlignDimensions build format tiling (p.stride width) (p.height height)).2).toNat =
          planeSizeNat build format tiling width height p := by
      rw [BitVec.toNat_mul, hs, hr, Nat.mod_eq_of_lt (by rw [← planeSizeNat]; omega),
        planeSizeNat]
    have hnext : (offset + (i915AlignDimensions build format tiling (p.stride width) (p.height height)).1 *
        (i915AlignDimensions build format tiling (p.stride width) (p.height height)).2).toNat =
          offset.toNat + planeSizeNat build format tiling width height p := by
      rw [BitVec.toNat_add, hsize, Nat.mod_eq_of_lt (by omega)]
    obtain ⟨ih₁, ih₂⟩ := planeLoop_toNat ps _ (fun q hq => hfit q (.tail _ hq)) (by rw [hnext]; omega)
    simp only [i915BoFromFormat.planeLoop, List.map_cons, planesNat, ih₁, ih₂, hnext, hs, hsize,
      sizesNat_cons, PlaneMeta.toNat, true_and]
    omega

end

/-- Whenever no number it computes exceeds 32 bits, `i915_bo_from_format`
computes the layout in natural numbers: plane by plane the aligned stride,
its product with the aligned rows, the offset after the planes before it,
and the total size rounded up to the page size, a power of two. -/
theorem i915BoFromFormat_eq_layoutNat (env : LayoutEnv) (tiling : Tiling) (width height format : BitVec 32)
    {k : Nat} (hpage : env.pagesize.toNat = 2 ^ k) (hfit : LayoutFits env tiling width height format) :
    ((i915BoFromFormat env tiling width height format).1.map PlaneMeta.toNat,
      (i915BoFromFormat env tiling width height format).2.toNat) = layoutNat env tiling width height format := by
  have hk : 0 < 2 ^ k := Nat.pos_pow_of_pos k (by decide)
  have h0 : (0 : BitVec 32).toNat = 0 := rfl
  obtain ⟨h₁, h₂⟩ := @planeLoop_toNat env.build format tiling width height _ 0 hfit.1
    (by have := hfit.2; omega)
  rw [h0] at h₁ h₂
  rw [Nat.zero_add] at h₂
  rw [i915BoFromFormat, layoutNat, h₁, align_toNat_alignNat hpage (by rw [h₂]; exact hfit.2), h₂]

theorem argb_linear_layout_exact :
    packed4Env.pagesize.toNat = 2 ^ 12 ∧ LayoutFits packed4Env .none 1 1 drmFormatArgb8888 ∧
      ((i915BoFromFormat packed4Env .none 1 1 drmFormatArgb8888).1.map PlaneMeta.toNat,
        (i915BoFromFormat packed4Env .none 1 1 drmFormatArgb8888).2.toNat) =
        layoutNat packed4Env .none 1 1 drmFormatArgb8888 :=
  ⟨rfl, by decide, i915BoFromFormat_eq_layoutNat packed4Env .none 1 1 drmFormatArgb8888 (k := 12) rfl (by decide)⟩

/-- Outside Android's YV12 branch and the CCS branch, whatever the modifier
source, `i915_bo_compute_metadata` lays out soundly whenever no number of
its plane loop exceeds 32 bits, with a page size that is a power of two:
every plane's stride covers a row of the format's plane, its size every
row, it ends before the next plane starts and within the total size. -/
theorem fitting_layout_sound {env : LayoutEnv} {combos : List Combination}
    {width height format : BitVec 32} {useFlags : BitVec 64} {modifiers : Option (List (BitVec 64))}
    {m : BoMetadata} (h : i915BoComputeMetadata env combos width height format useFlags modifiers = .ok m)
    (handroid : format ≠ drmFormatYvu420Android) (hccs : m.formatModifier ≠ i915FormatModYTiledCcs)
    {k : Nat} (hpage : env.pagesize.toNat = 2 ^ k) (hfit : LayoutFits env m.tiling width height format) :
    LayoutSound (env.layoutFromFormat format) width height m := by
  obtain ⟨modifier, -, rfl⟩ := i915BoComputeMetadata_ok h
  have hlayout : i915Layout env modifier width height format =
      i915BoFromFormat env (tilingOfModifier env.build modifier) width height format := by
    simp only [i915Layout, handroid, hccs, if_false]
  rw [hlayout] at hfit ⊢
  exact layoutSound_of_layoutNat (by rw [hpage]; exact Nat.pos_pow_of_pos k (by decide))
    (i915BoFromFormat_eq_layoutNat env _ width height format hpage hfit)

theorem argb_linear_layout_sound :
    i915BoComputeMetadata packed4Env [] 1 1 drmFormatArgb8888 0 (some [drmFormatModLinear]) =
        .ok ⟨.none, drmFormatModLinear, [⟨64, 256, 0⟩], 4096⟩ ∧
      drmFormatArgb8888 ≠ drmFormatYvu420Android ∧ drmFormatModLinear ≠ i915FormatModYTiledCcs ∧
      packed4Env.pagesize.toNat = 2 ^ 12 ∧ LayoutFits packed4Env .none 1 1 drmFormatArgb8888 ∧
      LayoutSound (packed4Env.layoutFromFormat drmFormatArgb8888) 1 1
        ⟨.none, drmFormatModLinear, [⟨64, 256, 0⟩], 4096⟩ :=
  have h : i915BoComputeMetadata packed4Env [] 1 1 drmFormatArgb8888 0 (some [drmFormatModLinear]) =
      .ok ⟨.none, drmFormatModLinear, [⟨64, 256, 0⟩], 4096⟩ := rfl
  ⟨h, by decide, by decide, rfl, by decide,
    fitting_layout_sound h (by decide) (by decide) (k := 12) rfl (by decide)⟩

end Minigbm.I915
