import Minigbm.Format

/-!
# The format-combination registry

A backend registers which (format, use flags) pairs it supports, each with
the tiling, modifier and priority to lay such a buffer out with. The
functions that keep the registry live in `drv.c`, which is not part of
the sources; they are modelled here from the spec's description of the
registry as an external collaborator that answers a (format, use flags)
query with "unsupported" or a chosen combination.

The answer of `drv_get_combination` is an entry that serves the request
(`drvGetCombination_mem`) and that no serving entry outranks
(`drvGetCombination_max`); an entry that outranks every other serving one
is the answer (`drvGetCombination_eq_of_dominates`). A backend's calls on
the registry are `RegistryCall`s, and a property each call keeps holds of
every entry of the registry they build (`RegistryCall.runAll_keeps`).
-/

namespace Minigbm

/-- `struct format_metadata`. -/
structure FormatMetadata where
  priority : Nat
  tiling : Tiling
  modifier : BitVec 64
  deriving DecidableEq, Repr

/-- `struct combination`. -/
structure Combination where
  format : BitVec 32
  metadata : FormatMetadata
  useFlags : BitVec 64
  deriving DecidableEq, Repr

/-- Whether a combination serves a request: same format, and its use
flags include every requested one. -/
def Combination.Serves (c : Combination) (format : BitVec 32) (useFlags : BitVec 64) : Prop :=
  c.format = format ∧ c.useFlags &&& useFlags = useFlags

instance (c : Combination) (format : BitVec 32) (useFlags : BitVec 64) :
    Decidable (c.Serves format useFlags) :=
  inferInstanceAs (Decidable (_ ∧ _))

def drvGetCombination.pick (format : BitVec 32) (useFlags : BitVec 64) (best : Option Combination)
    (c : Combination) : Option Combination :=
  if c.Serves format useFlags then
    match best with
    | some b => if b.metadata.priority < c.metadata.priority then some c else best
    | none => some c
  else best

/-- Modelled from the spec: `drv_get_combination` of `drv.c`, the registry
query. Of the combinations that serve the request it chooses one of
highest priority, the first in registration order. -/
def drvGetCombination (combos : List Combination) (format : BitVec 32) (useFlags : BitVec 64) :
    Option Combination :=
  combos.foldl (drvGetCombination.pick format useFlags) none

-- ---------------------------------------------------------------------------
-- Which requests the registry serves
-- ---------------------------------------------------------------------------

section
variable {format : BitVec 32} {useFlags : BitVec 64}

theorem drvGetCombination.pick_isSome (best : Option Combination) (c : Combination) :
    (pick format useFlags best c).isSome ↔ best.isSome ∨ c.Serves format useFlags := by
  unfold pick
  split_ifs with h
  · cases best with
    | none => simp [h]
    | some b => dsimp only; split_ifs <;> simp
  · simp [h]

theorem drvGetCombination.foldl_isSome (combos : List Combination) (best : Option Combination) :
    (combos.foldl (pick format useFlags) best).isSome ↔
      best.isSome ∨ ∃ c ∈ combos, c.Serves format useFlags := by
  induction combos generalizing best with
  | nil => simp
  | cons c cs ih =>
    rw [List.foldl_cons, ih, pick_isSome]
    simp only [List.mem_cons, exists_eq_or_imp]
    tauto

theorem drvGetCombination_isSome (combos : List Combination) :
    (drvGetCombination combos format useFlags).isSome ↔ ∃ c ∈ combos, c.Serves format useFlags := by
  simp [drvGetCombination, drvGetCombination.foldl_isSome]

theorem Combination.Serves.mono {c : Combination} {useFlags' : BitVec 64}
    (h : c.Serves format useFlags) (hsub : useFlags' &&& useFlags = useFlags') :
    c.Serves format useFlags' := by
  refine ⟨h.1, ?_⟩
  calc c.useFlags &&& useFlags'
      = c.useFlags &&& (useFlags &&& useFlags') := by rw [BitVec.and_comm useFlags, hsub]
    _ = (c.useFlags &&& useFlags) &&& useFlags' := by rw [BitVec.and_assoc]
    _ = useFlags' := by rw [h.2, BitVec.and_comm, hsub]

end

-- ---------------------------------------------------------------------------
-- The choice among serving combinations
-- ---------------------------------------------------------------------------

section
variable {format : BitVec 32} {useFlags : BitVec 64} {c : Combination}

theorem drvGetCombination.pick_eq (best : Option Combination) (c' : Combination) :
    pick format useFlags best c' =
      if c'.Serves format useFlags ∧ ∀ b ∈ best, b.metadata.priority < c'.metadata.priority
      then some c' else best := by
  unfold pick
  by_cases hs : c'.Serves format useFlags
  · cases best with
    | none => simp [hs]
    | some b => by_cases hlt : b.metadata.priority < c'.metadata.priority <;> simp [hs, hlt]
  · simp [hs]

theorem drvGetCombination.foldl_mem (combos : List Combination) (best : Option Combination)
    (h : combos.foldl (pick format useFlags) best = some c) :
    best = some c ∨ (c ∈ combos ∧ c.Serves format useFlags) := by
  induction combos generalizing best with
  | nil => exact .inl h
  | cons c' cs ih =>
    rcases ih _ h with hp | ⟨hc, hs⟩
    · rw [pick_eq] at hp
      split_ifs at hp with htake
      · cases hp
        exact .inr ⟨.head _, htake.1⟩
      · exact .inl hp
    · exact .inr ⟨.tail _ hc, hs⟩

theorem drvGetCombination_mem {combos : List Combination}
    (h : drvGetCombination combos format useFlags = some c) :
    c ∈ combos ∧ c.Serves format useFlags := by
  rcases drvGetCombination.foldl_mem combos none h with h | h
  · cases h
  · exact h

/-- Every entry that serves the request, other than `c`, has a lower
priority than `c`. -/
def Combination.Dominates (c : Combination) (format : BitVec 32) (useFlags : BitVec 64)
    (combos : List Combination) : Prop :=
  ∀ c' ∈ combos, c'.Serves format useFlags → c' = c ∨ c'.metadata.priority < c.metadata.priority

theorem drvGetCombination.foldl_of_best {cs : List Combination} (hd : c.Dominates format useFlags cs) :
    cs.foldl (pick format useFlags) (some c) = some c := by
  induction cs with
  | nil => rfl
  | cons c' cs ih =>
    have hkeep : pick format useFlags (some c) c' = some c := by
      rw [pick_eq, if_neg]
      rintro ⟨hs, hlt⟩
      rcases hd c' (.head _) hs with rfl | hlt'
      · exact lt_irrefl _ (hlt _ rfl)
      · exact lt_asymm hlt' (hlt _ rfl)
    rw [List.foldl_cons, hkeep]
    exact ih fun c'' hc'' => hd c'' (.tail _ hc'')

theorem drvGetCombination.foldl_of_dominates {cs : List Combination} (hc : c ∈ cs)
    (hs : c.Serves format useFlags) (hd : c.Dominates format useFlags cs) :
    ∀ best : Option Combination, (∀ b ∈ best, b.metadata.priority < c.metadata.priority) →
      cs.foldl (pick format useFlags) best = some c := by
  induction cs with
  | nil => cases hc
  | cons c' cs ih =>
    intro best hbest
    have hd' : c.Dominates format useFlags cs := fun c'' hc'' => hd c'' (.tail _ hc'')
    rw [List.foldl_cons, pick_eq]
    by_cases hcc : c' = c
    · subst hcc
      rw [if_pos ⟨hs, hbest⟩]
      exact foldl_of_best hd'
    · refine ih ((List.mem_cons.1 hc).resolve_left (Ne.symm hcc)) hd' _ fun b hb => ?_
      split_ifs at hb with htake
      · cases hb
        exact (hd _ (.head _) htake.1).resolve_left hcc
      · exact hbest b hb

theorem drvGetCombination_eq_of_dominates {combos : List Combination} (hc : c ∈ combos)
    (hs : c.Serves format useFlags) (hd : c.Dominates format useFlags combos) :
    drvGetCombination combos format useFlags = some c :=
  drvGetCombination.foldl_of_dominates hc hs hd none fun _ h => nomatch h

theorem drvGetCombination.foldl_max {cs : List Combination} {best : Option Combination}
    (h : cs.foldl (pick format useFlags) best = some c) :
    (∀ b ∈ best, b.metadata.priority ≤ c.metadata.priority) ∧
      ∀ c' ∈ cs, c'.Serves format useFlags → c'.metadata.priority ≤ c.metadata.priority := by
  induction cs generalizing best with
  | nil =>
    cases h
    exact ⟨fun b hb => by cases hb; exact le_rfl, fun _ h => nomatch h⟩
  | cons c' cs ih =>
    obtain ⟨hbest, hrest⟩ := ih h
    rw [pick_eq] at hbest
    split_ifs at hbest with htake
    · have hc' := hbest c' rfl
      exact ⟨fun b hb => (htake.2 b hb).le.trans hc', fun c'' hc'' hs =>
        (List.mem_cons.1 hc'').elim (fun e => e ▸ hc') (hrest c'' · hs)⟩
    · refine ⟨hbest, fun c'' hc'' hs => (List.mem_cons.1 hc'').elim (fun e => ?_) (hrest c'' · hs)⟩
      subst e
      obtain ⟨b, hb, hle⟩ : ∃ b ∈ best, c''.metadata.priority ≤ b.metadata.priority := by
        by_contra hno
        push_neg at hno
        exact htake ⟨hs, hno⟩
      exact hle.trans (hbest b hb)

theorem drvGetCombination_max {combos : List Combination}
    (h : drvGetCombination combos format useFlags = some c) :
    ∀ c' ∈ combos, c'.Serves format useFlags → c'.metadata.priority ≤ c.metadata.priority :=
  (drvGetCombination.foldl_max h).2

def Combination.key (c : Combination) : BitVec 32 × Nat := (c.format, c.metadata.priority)

theorem drvGetCombination_eq_some_iff {combos : List Combination}
    (hkey : (combos.map Combination.key).Nodup) :
    drvGetCombination combos format useFlags = some c ↔
      c ∈ combos ∧ c.Serves format useFlags ∧
        ∀ c' ∈ combos, c'.Serves format useFlags → c'.metadata.priority ≤ c.metadata.priority := by
  refine ⟨fun h => ⟨(drvGetCombination_mem h).1, (drvGetCombination_mem h).2,
    drvGetCombination_max h⟩, fun ⟨hc, hs, hmax⟩ => drvGetCombination_eq_of_dominates hc hs ?_⟩
  intro c' hc' hs'
  rcases (hmax c' hc' hs').lt_or_eq with hlt | heq
  · exact .inr hlt
  · refine .inl (List.inj_on_of_nodup_map hkey hc' hc ?_)
    simp only [Combination.key, hs'.1, hs.1, heq]

end

-- ---------------------------------------------------------------------------
-- Registering combinations
-- ---------------------------------------------------------------------------

def FormatMetadata.IsLinear (m : FormatMetadata) : Prop :=
  m.tiling = .none ∧ m.modifier = drmFormatModLinear

instance (m : FormatMetadata) : Decidable m.IsLinear := inferInstanceAs (Decidable (_ ∧ _))

/-- Modelled from the spec ("a registry entry stating a (format, usage) pair
is supported with a given tiling/modifier/priority"): `drv_add_combinations`
of `drv.c` appends one entry per format, in order. -/
def drvAddCombinations (combos : List Combination) (formats : List (BitVec 32))
    (metadata : FormatMetadata) (useFlags : BitVec 64) : List Combination :=
  combos ++ formats.map fun format => ⟨format, metadata, useFlags⟩

/-- Modelled from the spec's registry entries: `drv_modify_combination` of
`drv.c` adds use flags to the entries of a format with the metadata's
tiling and modifier. -/
def drvModifyCombination (combos : List Combination) (format : BitVec 32)
    (metadata : FormatMetadata) (useFlags : BitVec 64) : List Combination :=
  combos.map fun c =>
    if c.format = format ∧ c.metadata.tiling = metadata.tiling ∧ c.metadata.modifier = metadata.modifier
    then { c with useFlags := c.useFlags ||| useFlags } else c

/-- `drv_modify_linear_combinations` of `helpers.c`, which is not part of the
sources: it adds use flags to the linear entries registered so far. Which
flags an entry gets, `extra`, is left open. -/
def drvModifyLinearCombinations (extra : Combination → BitVec 64) (combos : List Combination) :
    List Combination :=
  combos.map fun c => if c.metadata.IsLinear then { c with useFlags := c.useFlags ||| extra c } else c

/-- A call a backend's `init` makes on the registry. -/
inductive RegistryCall
  | addCombinations (formats : List (BitVec 32)) (metadata : FormatMetadata) (useFlags : BitVec 64)
  | modifyCombination (format : BitVec 32) (metadata : FormatMetadata) (useFlags : BitVec 64)
  | modifyLinearCombinations

/-- `drv_add_combination`, the one-format `drv_add_combinations`. -/
def RegistryCall.addCombination (format : BitVec 32) (metadata : FormatMetadata)
    (useFlags : BitVec 64) : RegistryCall :=
  .addCombinations [format] metadata useFlags

def RegistryCall.run (extra : Combination → BitVec 64) :
    RegistryCall → List Combination → List Combination
  | .addCombinations formats metadata useFlags, combos =>
    drvAddCombinations combos formats metadata useFlags
  | .modifyCombination format metadata useFlags, combos =>
    drvModifyCombination combos format metadata useFlags
  | .modifyLinearCombinations, combos => drvModifyLinearCombinations extra combos

def RegistryCall.runAll (extra : Combination → BitVec 64) (calls : List RegistryCall)
    (combos : List Combination) : List Combination :=
  calls.foldl (fun combos call => call.run extra combos) combos

@[simp] theorem RegistryCall.runAll_nil (extra : Combination → BitVec 64) (combos : List Combination) :
    runAll extra [] combos = combos := rfl

@[simp] theorem RegistryCall.runAll_cons (extra : Combination → BitVec 64) (call : RegistryCall)
    (calls : List RegistryCall) (combos : List Combination) :
    runAll extra (call :: calls) combos = runAll extra calls (call.run extra combos) := rfl

theorem RegistryCall.runAll_append (extra : Combination → BitVec 64) (calls calls' : List RegistryCall)
    (combos : List Combination) :
    runAll extra (calls ++ calls') combos = runAll extra calls' (runAll extra calls combos) :=
  List.foldl_append _ _ _ _

def RegistryCall.addedKeys : RegistryCall → List (BitVec 32 × Nat)
  | .addCombinations formats metadata _ => formats.map fun format => (format, metadata.priority)
  | _ => []

theorem RegistryCall.run_keys (extra : Combination → BitVec 64) (call : RegistryCall)
    (combos : List Combination) :
    (call.run extra combos).map Combination.key = combos.map Combination.key ++ call.addedKeys := by
  cases call with
  | addCombinations => simp [run, drvAddCombinations, addedKeys, Combination.key, Function.comp_def]
  | modifyCombination =>
    simp only [run, drvModifyCombination, addedKeys, List.append_nil, List.map_map]
    congr 1
    funext c
    simp only [Function.comp_apply]
    split <;> rfl
  | modifyLinearCombinations =>
    simp only [run, drvModifyLinearCombinations, addedKeys, List.append_nil, List.map_map]
    congr 1
    funext c
    simp only [Function.comp_apply]
    split <;> rfl

theorem RegistryCall.runAll_keys (extra : Combination → BitVec 64) :
    ∀ (calls : List RegistryCall) (combos : List Combination),
      (runAll extra calls combos).map Combination.key =
        combos.map Combination.key ++ calls.flatMap addedKeys
  | [], combos => by simp [runAll]
  | call :: calls, combos => by
    rw [runAll, List.foldl_cons, ← runAll, runAll_keys extra calls, run_keys, List.flatMap_cons,
      List.append_assoc]

/-- A property of entries survives a call: each entry it adds has it, and
each entry it may add use flags to keeps it. -/
def RegistryCall.Keeps (P : Combination → Prop) (extra : Combination → BitVec 64) :
    RegistryCall → Prop
  | .addCombinations formats metadata useFlags => ∀ format ∈ formats, P ⟨format, metadata, useFlags⟩
  | .modifyCombination format metadata useFlags => ∀ c, P c → c.format = format →
      c.metadata.tiling = metadata.tiling → c.metadata.modifier = metadata.modifier →
      P { c with useFlags := c.useFlags ||| useFlags }
  | .modifyLinearCombinations => ∀ c, P c → c.metadata.IsLinear →
      P { c with useFlags := c.useFlags ||| extra c }

section
variable {P : Combination → Prop} {extra : Combination → BitVec 64}

theorem RegistryCall.run_keeps {call : RegistryCall} (hk : call.Keeps P extra)
    {combos : List Combination} (h : ∀ c ∈ combos, P c) : ∀ c ∈ call.run extra combos, P c := by
  cases call with
  | addCombinations formats metadata useFlags =>
    simp only [run, drvAddCombinations, List.mem_append, List.mem_map]
    rintro c (hc | ⟨f, hf, rfl⟩)
    exacts [h c hc, hk f hf]
  | modifyCombination format metadata useFlags =>
    simp only [run, drvModifyCombination, List.mem_map]
    rintro _ ⟨c, hc, rfl⟩
    split_ifs with hm
    exacts [hk c (h c hc) hm.1 hm.2.1 hm.2.2, h c hc]
  | modifyLinearCombinations =>
    simp only [run, drvModifyLinearCombinations, List.mem_map]
    rintro _ ⟨c, hc, rfl⟩
    split_ifs with hm
    exacts [hk c (h c hc) hm, h c hc]

theorem RegistryCall.runAll_keeps {calls : List RegistryCall} (hk : ∀ call ∈ calls, call.Keeps P extra) :
    ∀ {combos : List Combination}, (∀ c ∈ combos, P c) → ∀ c ∈ runAll extra calls combos, P c := by
  induction calls with
  | nil => exact fun h => h
  | cons call calls ih =>
    exact fun h => ih (fun call' hc => hk call' (.tail _ hc)) (run_keeps (hk call (.head _)) h)

end

def RegistryCall.AddsWith (Q : FormatMetadata → Prop) : RegistryCall → Prop
  | .addCombinations _ metadata _ => Q metadata
  | _ => True

/-- Every entry the call adds has a metadata satisfying `Q` or use flags
satisfying `R`, and every entry it may add use flags to is linear. -/
def RegistryCall.Admits (Q : FormatMetadata → Prop) (R : BitVec 64 → Prop) : RegistryCall → Prop
  | .addCombinations _ metadata useFlags => Q metadata ∨ R useFlags
  | .modifyCombination _ metadata _ => metadata.IsLinear
  | .modifyLinearCombinations => True

section
variable {Q : FormatMetadata → Prop} {extra : Combination → BitVec 64} {call : RegistryCall}

theorem RegistryCall.AddsWith.keeps (h : call.AddsWith Q) :
    call.Keeps (fun c => Q c.metadata) extra := by
  cases call with
  | addCombinations => exact fun _ _ => h
  | modifyCombination => exact fun _ hc _ _ _ => hc
  | modifyLinearCombinations => exact fun _ hc _ => hc

theorem RegistryCall.Admits.keeps {R : BitVec 64 → Prop} (hQ : ∀ m : FormatMetadata, m.IsLinear → Q m)
    (h : call.Admits Q R) : call.Keeps (fun c => Q c.metadata ∨ R c.useFlags) extra := by
  cases call with
  | addCombinations => exact fun _ _ => h
  | modifyCombination _ metadata =>
    exact fun _ _ _ ht hm => .inl (hQ _ ⟨ht.trans h.1, hm.trans h.2⟩)
  | modifyLinearCombinations => exact fun _ _ hl => .inl (hQ _ hl)

end

-- ---------------------------------------------------------------------------
-- No call drops an entry or takes a use flag from it
-- ---------------------------------------------------------------------------

/-- The registry has an entry for `format` with `metadata` whose use flags
include `useFlags`. -/
def Registers (combos : List Combination) (format : BitVec 32) (metadata : FormatMetadata)
    (useFlags : BitVec 64) : Prop :=
  ∃ c ∈ combos, c.format = format ∧ c.metadata = metadata ∧ c.useFlags &&& useFlags = useFlags

section
variable {a u : BitVec 64}

theorem or_and_of_and_eq (v : BitVec 64) (h : a &&& u = u) : (a ||| v) &&& u = u := by
  rw [← h]
  ext i
  simp only [BitVec.getLsbD_and, BitVec.getLsbD_or]
  cases a.getLsbD i <;> cases u.getLsbD i <;> cases v.getLsbD i <;> rfl

theorem or_and_or_of_and_eq (v : BitVec 64) (h : a &&& u = u) : (a ||| v) &&& (u ||| v) = u ||| v := by
  rw [← h]
  ext i
  simp only [BitVec.getLsbD_and, BitVec.getLsbD_or]
  cases a.getLsbD i <;> cases u.getLsbD i <;> cases v.getLsbD i <;> rfl

end

section
variable {format : BitVec 32} {metadata : FormatMetadata} {useFlags : BitVec 64}
  {combos : List Combination}

theorem Registers.isSome (h : Registers combos format metadata useFlags) {useFlags' : BitVec 64}
    (hsub : useFlags' &&& useFlags = useFlags') : (drvGetCombination combos format useFlags').isSome := by
  obtain ⟨c, hc, hf, -, hu⟩ := h
  exact (drvGetCombination_isSome combos).mpr ⟨c, hc, Combination.Serves.mono ⟨hf, hu⟩ hsub⟩

theorem RegistryCall.run_registers (extra : Combination → BitVec 64) (call : RegistryCall)
    (h : Registers combos format metadata useFlags) :
    Registers (call.run extra combos) format metadata useFlags := by
  obtain ⟨c, hc, hf, hm, hu⟩ := h
  cases call with
  | addCombinations => exact ⟨c, List.mem_append_left _ hc, hf, hm, hu⟩
  | modifyCombination =>
    refine ⟨_, List.mem_map_of_mem _ hc, ?_⟩
    dsimp only
    split_ifs
    exacts [⟨hf, hm, or_and_of_and_eq _ hu⟩, ⟨hf, hm, hu⟩]
  | modifyLinearCombinations =>
    refine ⟨_, List.mem_map_of_mem _ hc, ?_⟩
    dsimp only
    split_ifs
    exacts [⟨hf, hm, or_and_of_and_eq _ hu⟩, ⟨hf, hm, hu⟩]

theorem RegistryCall.runAll_registers (extra : Combination → BitVec 64) :
    ∀ (calls : List RegistryCall) {combos : List Combination},
      Registers combos format metadata useFlags →
        Registers (runAll extra calls combos) format metadata useFlags
  | [], _, h => h
  | call :: calls, _, h => runAll_registers extra calls (call.run_registers extra h)

theorem RegistryCall.run_add_registers (extra : Combination → BitVec 64) {formats : List (BitVec 32)}
    (hf : format ∈ formats) (combos : List Combination) :
    Registers ((addCombinations formats metadata useFlags).run extra combos) format metadata useFlags :=
  ⟨⟨format, metadata, useFlags⟩, List.mem_append_right _ (List.mem_map_of_mem _ hf), rfl, rfl,
    BitVec.and_self⟩

theorem RegistryCall.run_modify_registers (extra : Combination → BitVec 64) {md : FormatMetadata}
    (ht : metadata.tiling = md.tiling) (hm : metadata.modifier = md.modifier) (v : BitVec 64)
    (h : Registers combos format metadata useFlags) :
    Registers ((modifyCombination format md v).run extra combos) format metadata (useFlags ||| v) := by
  obtain ⟨c, hc, rfl, rfl, hu⟩ := h
  refine ⟨_, List.mem_map_of_mem _ hc, ?_⟩
  dsimp only
  rw [if_pos ⟨rfl, ht, hm⟩]
  exact ⟨rfl, rfl, or_and_or_of_and_eq v hu⟩

end

end Minigbm
