import Minigbm.I915.Combinations
import Minigbm.I915.LayoutLaws

/-!
# What the i915 registry chooses

`i915_add_combinations` registers every entry with one of its three
metadata, linear at priority 1, X-tiled at 2 and Y-tiled at 3
(`registry_metadata`), and each format at most once per priority
(`registry_keys_nodup`). So, where the registry is its alone, without
`USE_GRALLOC1`, `drv_get_combination` answers with the one serving entry of
highest priority, and registration order never breaks a tie
(`i915_registry_choice`).

`i915_bo_compute_metadata` then lays a buffer out with the tiling and the
modifier of that entry, and with a modifier list it picks among the same
three: the modifier is always linear, X-tiled or Y-tiled with the matching
tiling (`computed_modifier_registered`). `I915_FORMAT_MOD_Y_TILED_CCS` is
never chosen, so the CCS layout branch, and the refusal of `i915_bo_map`
to map a CCS buffer, are never reached from these requests.

No call of the registry drops an entry or takes a flag from it, so the
linear NV12 entry keeps the video, camera and scanout flags the IPU3
comment grants it, and the linear R8 entry its camera flags, whatever is
registered after (`registry_nv12_linear`, `registry_r8_linear`).
-/

namespace Minigbm.I915

open Minigbm

namespace i915AddCombinations

variable {build : BuildConfig} {dev : DeviceConfig} {masks : UseMasks}

theorem yTiledCalls_addsWith {Q : FormatMetadata → Prop} (hQ : Q yTiledMetadata) :
    ∀ call ∈ yTiledCalls build dev masks, call.AddsWith Q := by
  simp [yTiledCalls, RegistryCall.AddsWith, RegistryCall.addCombination, hQ]

theorem calls_addsWith {Q : FormatMetadata → Prop} (hl : Q linearMetadata) (hx : Q xTiledMetadata)
    (hy : Q yTiledMetadata) : ∀ call ∈ calls build dev masks, call.AddsWith Q := by
  intro call hc
  simp only [calls, List.mem_append] at hc
  rcases hc with (hc | hc) | hc
  exacts [linearCalls_addsWith hl call hc, xTiledCalls_addsWith hx call hc,
    yTiledCalls_addsWith hy call hc]

theorem calls_addedKeys_nodup : ((calls build dev masks).flatMap RegistryCall.addedKeys).Nodup := by
  obtain ⟨g, y⟩ := build
  have hkeys : (calls ⟨g, y⟩ dev masks).flatMap RegistryCall.addedKeys =
      (calls ⟨g, false⟩ ⟨.unset, false, false⟩ ⟨0, 0, 0⟩).flatMap RegistryCall.addedKeys := by
    cases g <;> cases y <;> rfl
  rw [hkeys]
  cases g <;> decide

end i915AddCombinations

section
variable (build : BuildConfig) (dev : DeviceConfig) (masks : UseMasks) (extra : Combination → BitVec 64)

theorem registry_metadata :
    ∀ c ∈ RegistryCall.runAll extra (i915AddCombinations.calls build dev masks) [],
      c.metadata = linearMetadata ∨ c.metadata = xTiledMetadata ∨ c.metadata = yTiledMetadata :=
  RegistryCall.runAll_keeps (fun call hc => RegistryCall.AddsWith.keeps
    (i915AddCombinations.calls_addsWith
      (Q := fun md => md = linearMetadata ∨ md = xTiledMetadata ∨ md = yTiledMetadata)
      (.inl rfl) (.inr (.inl rfl)) (.inr (.inr rfl)) call hc))
    (by simp)

theorem registry_keys_nodup :
    ((RegistryCall.runAll extra (i915AddCombinations.calls build dev masks) []).map
      Combination.key).Nodup := by
  rw [RegistryCall.runAll_keys, List.map_nil, List.nil_append]
  exact i915AddCombinations.calls_addedKeys_nodup

end

/-- Without `USE_GRALLOC1`, for every device, masks, format and use flags,
`drv_get_combination` on the i915 registry answers with an entry exactly
when it is a serving entry that no serving entry outranks: the highest
priority decides alone, never the order of registration. -/
theorem i915_registry_choice (build : BuildConfig) (dev : DeviceConfig) (masks : UseMasks)
    (extra : Combination → BitVec 64) (privateAdd : List Combination → List Combination)
    (hb : build.useGralloc1 = false) (format : BitVec 32) (useFlags : BitVec 64) (c : Combination) :
    drvGetCombination (i915AddCombinations build dev masks extra privateAdd) format useFlags = some c ↔
      c ∈ i915AddCombinations build dev masks extra privateAdd ∧ c.Serves format useFlags ∧
        ∀ c' ∈ i915AddCombinations build dev masks extra privateAdd, c'.Serves format useFlags →
          c'.metadata.priority ≤ c.metadata.priority := by
  simp only [i915AddCombinations, hb, Bool.false_eq_true, if_false]
  exact drvGetCombination_eq_some_iff (registry_keys_nodup build dev masks extra)

theorem nv12_registry_choice :
    (⟨false, false⟩ : BuildConfig).useGralloc1 = false ∧
      (drvGetCombination (i915AddCombinations ⟨false, false⟩ ⟨.oneGpuIntel, false, false⟩ ⟨0, 0, 0⟩
          (fun _ => 0) id) drmFormatNv12 boUseTexture =
          some ⟨drmFormatNv12, yTiledMetadata, boUseTexture ||| boUseHwVideoDecoder⟩ ↔
        ⟨drmFormatNv12, yTiledMetadata, boUseTexture ||| boUseHwVideoDecoder⟩ ∈
            i915AddCombinations ⟨false, false⟩ ⟨.oneGpuIntel, false, false⟩ ⟨0, 0, 0⟩ (fun _ => 0) id ∧
          Combination.Serves ⟨drmFormatNv12, yTiledMetadata, boUseTexture ||| boUseHwVideoDecoder⟩
            drmFormatNv12 boUseTexture ∧
          ∀ c' ∈ i915AddCombinations ⟨false, false⟩ ⟨.oneGpuIntel, false, false⟩ ⟨0, 0, 0⟩
              (fun _ => 0) id, c'.Serves drmFormatNv12 boUseTexture →
            c'.metadata.priority ≤ yTiledMetadata.priority) :=
  ⟨rfl, i915_registry_choice ⟨false, false⟩ ⟨.oneGpuIntel, false, false⟩ ⟨0, 0, 0⟩ (fun _ => 0) id rfl
    drmFormatNv12 boUseTexture _⟩

-- ---------------------------------------------------------------------------
-- The modifier a buffer is laid out with
-- ---------------------------------------------------------------------------

def registeredMetadata : List FormatMetadata := [linearMetadata, xTiledMetadata, yTiledMetadata]

theorem tilingOfModifier_registered (build : BuildConfig) :
    ∀ md ∈ registeredMetadata, tilingOfModifier build md.modifier = md.tiling := by
  simp [registeredMetadata, linearMetadata, xTiledMetadata, yTiledMetadata]

/-- Without `USE_GRALLOC1`, or with a modifier list, `i915_bo_compute_metadata`
on the i915 registry lays out with linear, X-tiled or Y-tiled and the
matching tiling, never with the CCS modifier; without a list, with exactly
the tiling and modifier of the entry `drv_get_combination` answers with. -/
theorem computed_modifier_registered (build : BuildConfig) (dev : DeviceConfig) (masks : UseMasks)
    (extra : Combination → BitVec 64) (privateAdd : List Combination → List Combination)
    (env : LayoutEnv) (width height format : BitVec 32) (useFlags : BitVec 64)
    (modifiers : Option (List (BitVec 64))) {m : BoMetadata}
    (hsrc : build.useGralloc1 = false ∨ modifiers.isSome = true)
    (h : i915BoComputeMetadata env (i915AddCombinations build dev masks extra privateAdd) width height
      format useFlags modifiers = .ok m) :
    (∃ md ∈ registeredMetadata, m.tiling = md.tiling ∧ m.formatModifier = md.modifier) ∧
      (modifiers = none → ∃ c, drvGetCombination (i915AddCombinations build dev masks extra privateAdd)
        format useFlags = some c ∧ m.tiling = c.metadata.tiling ∧ m.formatModifier = c.metadata.modifier) := by
  obtain ⟨modifier, hmod, rfl⟩ := i915BoComputeMetadata_ok h
  have hreg : ∀ md ∈ registeredMetadata, modifier = md.modifier →
      ∃ md ∈ registeredMetadata, tilingOfModifier env.build modifier = md.tiling ∧ modifier = md.modifier :=
    fun md hmd he => ⟨md, hmd, he ▸ tilingOfModifier_registered env.build md hmd, he⟩
  cases modifiers with
  | some modifiers =>
    cases hmod
    refine ⟨?_, fun h => nomatch h⟩
    have hpick := drvPickModifier_modifierOrder modifiers
    split_ifs at hpick
    exacts [hreg yTiledMetadata (by simp [registeredMetadata]) hpick,
      hreg xTiledMetadata (by simp [registeredMetadata]) hpick,
      hreg linearMetadata (by simp [registeredMetadata]) hpick]
  | none =>
    have hb : build.useGralloc1 = false := hsrc.resolve_right (by simp)
    simp only [i915ModifierFor] at hmod
    split at hmod
    · rename_i c hc
      cases hmod
      have hmem := (drvGetCombination_mem hc).1
      simp only [i915AddCombinations, hb, Bool.false_eq_true, if_false] at hmem
      have hmd : c.metadata ∈ registeredMetadata := by
        rcases registry_metadata build dev masks extra c hmem with h | h | h <;>
          simp [registeredMetadata, h]
      exact ⟨hreg _ hmd rfl, fun _ => ⟨c, hc, tilingOfModifier_registered env.build _ hmd, rfl⟩⟩
    · cases hmod

theorem ccs_list_x_tiled_registered :
    ((⟨false, false⟩ : BuildConfig).useGralloc1 = false ∨
        (some [i915FormatModYTiledCcs, i915FormatModXTiled]).isSome = true) ∧
      i915BoComputeMetadata packed4Env (i915AddCombinations ⟨false, false⟩ ⟨.oneGpuIntel, false, false⟩
          ⟨0, 0, 0⟩ (fun _ => 0) id) 1 1 drmFormatArgb8888 0
          (some [i915FormatModYTiledCcs, i915FormatModXTiled]) =
        .ok ⟨.x, i915FormatModXTiled, [⟨512, 4096, 0⟩], 4096⟩ ∧
      (∃ md ∈ registeredMetadata, Tiling.x = md.tiling ∧ i915FormatModXTiled = md.modifier) :=
  have h : i915BoComputeMetadata packed4Env (i915AddCombinations ⟨false, false⟩
      ⟨.oneGpuIntel, false, false⟩ ⟨0, 0, 0⟩ (fun _ => 0) id) 1 1 drmFormatArgb8888 0
      (some [i915FormatModYTiledCcs, i915FormatModXTiled]) =
      .ok ⟨.x, i915FormatModXTiled, [⟨512, 4096, 0⟩], 4096⟩ := rfl
  ⟨.inl rfl, h, (computed_modifier_registered ⟨false, false⟩ ⟨.oneGpuIntel, false, false⟩ ⟨0, 0, 0⟩
    (fun _ => 0) id packed4Env 1 1 drmFormatArgb8888 0 _ (.inl rfl) h).1⟩

-- ---------------------------------------------------------------------------
-- The entries the camera needs
-- ---------------------------------------------------------------------------

section
variable (build : BuildConfig) (dev : DeviceConfig) (masks : UseMasks) (extra : Combination → BitVec 64)

theorem registry_nv12_linear :
    Registers (RegistryCall.runAll extra (i915AddCombinations.calls build dev masks) []) drmFormatNv12
      linearMetadata (masks.texture ||| (boUseHwVideoEncoder ||| boUseHwVideoDecoder ||| boUseCameraRead |||
        boUseCameraWrite ||| boUseScanout)) := by
  rw [i915AddCombinations.calls, i915AddCombinations.linearCalls]
  simp only [List.cons_append, RegistryCall.runAll_cons]
  exact RegistryCall.runAll_registers extra _ <| RegistryCall.run_registers extra _ <|
    RegistryCall.run_modify_registers extra rfl rfl _ <|
      RegistryCall.run_registers extra _ <| RegistryCall.run_registers extra _ <|
        RegistryCall.run_add_registers extra (by simp [textureOnlyFormats]) _

theorem registry_r8_linear :
    Registers (RegistryCall.runAll extra (i915AddCombinations.calls build dev masks) []) drmFormatR8
      linearMetadata (masks.texture ||| (boUseCameraRead ||| boUseCameraWrite)) := by
  rw [i915AddCombinations.calls, i915AddCombinations.linearCalls, RegistryCall.runAll_append,
    RegistryCall.runAll_append, RegistryCall.runAll_append, RegistryCall.runAll_append]
  simp only [RegistryCall.runAll_cons, RegistryCall.runAll_nil]
  exact RegistryCall.runAll_registers extra _ <| RegistryCall.runAll_registers extra _ <|
    RegistryCall.run_modify_registers extra rfl rfl _ <| RegistryCall.runAll_registers extra _ <|
      RegistryCall.run_registers extra _ <| RegistryCall.run_registers extra _ <|
        RegistryCall.run_registers extra _ <| RegistryCall.run_registers extra _ <|
          RegistryCall.run_add_registers extra (by simp [textureOnlyFormats]) _

end

end Minigbm.I915
