import Minigbm.Basic

/-!
# Probing the render nodes

`cros_gralloc_driver::init` opens `renderD128` to `renderD190` in turn and
keeps each node that answers `drmGetVersion` with a driver other than
`vgem`, its descriptor and driver name in the next slot of two arrays of
`render_num` = 10 slots. It builds the driver on the first node kept and
derives the GPU topology from how many it kept, closing some of the
others.

Every descriptor the loop does not keep it closes again, and every one it
keeps stays open (`probeLoop_held`). But nothing bounds the nodes kept by
`render_num`: the loop writes past both arrays exactly when more than ten
nodes are kept (`init_writes_in_bounds_iff`). And the topology switch
closes every other kept descriptor only when two nodes are kept: with three
it closes some, with four or more it has no case and every kept descriptor
stays open (`init_keeps_every_fd_from_four_nodes`), and a failed
`drv_create` closes the first one alone (`init_create_failure_keeps_other_fds`).

With at most two nodes kept, `init` and then the destructor close every
descriptor they opened (`init_destroy_closes_all`), and so does any run of
`init` calls re-initializing one driver, each closing the driver the one
before built (`init_runs_close_all`). With three, the switch
closes `node_fd[virtio_node_idx]` even when that is node 0, the descriptor
`drv_render_` was built on: `init` then succeeds with the driver's own
descriptor closed, and the destructor closes it again
(`virtio_first_closes_render_fd`).
-/

namespace Minigbm.Gralloc

open Minigbm

/-- `render_num`, the slots of `node_fd` and `node_name`. -/
def renderNum : Nat := 10

/-- `num_nodes`: `renderD128` to `renderD190`. -/
def numNodes : Nat := 63

/-- What the calls of one turn of the probe loop return: whether `asprintf`
built the node's path, the descriptor `open` returned (negative on
failure), and the driver name of `drmGetVersion` (`none` on failure). -/
structure NodeProbe where
  path : Bool
  fd : Int
  version : Option String
  deriving DecidableEq, Repr

/-- Whether the loop keeps a node: it opened, reported a version, and is not
the undesired `vgem`. -/
def NodeProbe.kept (p : NodeProbe) : Bool :=
  p.path && decide (0 ≤ p.fd) &&
    match p.version with
    | some name => name != "vgem"
    | none => false

/-- The locals the probe loop updates: `availabe_node`, `virtio_node_idx`,
the slots of `node_fd` and `node_name` written so far, in order, the
indices written, and the descriptors opened and closed. -/
structure ProbeState where
  availabeNode : Nat
  virtioNodeIdx : Int
  nodeFd : List Int
  nodeName : List String
  writes : List Nat
  events : List ResourceEvent
  deriving DecidableEq, Repr

def ProbeState.init : ProbeState := ⟨0, -1, [], [], [], []⟩

def probeStep (s : ProbeState) (p : NodeProbe) : ProbeState :=
  if p.path = false ∨ p.fd < 0 then s
  else match p.version with
    | none => { s with events := s.events ++ [.acquire (.fd p.fd), .release (.fd p.fd)] }
    | some name =>
      if name = "vgem" then
        { s with events := s.events ++ [.acquire (.fd p.fd), .release (.fd p.fd)] }
      else
        { availabeNode := s.availabeNode + 1
          virtioNodeIdx := if name = "virtio_gpu" then s.availabeNode else s.virtioNodeIdx
          nodeFd := s.nodeFd ++ [p.fd]
          nodeName := s.nodeName ++ [name]
          writes := s.writes ++ [s.availabeNode]
          events := s.events ++ [.acquire (.fd p.fd)] }

def probeLoop (probes : List NodeProbe) : ProbeState := probes.foldl probeStep .init

/-- The `switch (availabe_node)` of `init`: the topology, and the
descriptors it closes. A count it has no case for keeps `gpu_grp_type` 0. -/
def initTopology (s : ProbeState) : GpuGrpType × List ResourceEvent :=
  match s.availabeNode with
  | 1 => (if s.virtioNodeIdx ≠ -1 then .oneGpuVirtio else .oneGpuIntel, [])
  | 2 =>
    (if s.virtioNodeIdx ≠ -1 then .twoGpuIgpuVirtio else .twoGpuIgpuDgpu,
      [.release (.fd (s.nodeFd.getD 1 (-1)))])
  | 3 =>
    (.threeGpuIgpuVirtioDgpu,
      (if s.nodeName.getD 1 "" = "i915" then [.release (.fd (s.nodeFd.getD 1 (-1)))] else []) ++
      (if s.virtioNodeIdx ≠ -1 then [.release (.fd (s.nodeFd.getD s.virtioNodeIdx.toNat (-1)))]
        else []))
  | _ => (.unset, [])

/-- What `init` gets from outside: the probe of each render node, whether
`drv_create` succeeds on a descriptor, and the status of `drv_init` for a
topology. -/
structure InitWorld where
  probes : List NodeProbe
  probes_length : probes.length = numNodes
  drvCreate : Int → Bool
  drvInit : GpuGrpType → Int

/-- What `init` returns and leaves: the status, the descriptor of
`drv_render_` (`none` when it is null), the indices of `node_fd` and
`node_name` written, and the descriptors opened and closed. -/
structure InitResult where
  status : Int
  drvFd : Option Int
  writes : List Nat
  events : List ResourceEvent
  deriving DecidableEq, Repr

/-- `cros_gralloc_driver::init`, from a driver whose `drv_render_` has the
descriptor `prior`, if any. `drv_get_fd` of the driver `drv_create` built
on a descriptor is that descriptor. -/
def crosGrallocDriverInit (prior : Option Int) (w : InitWorld) : InitResult :=
  let destroy : List ResourceEvent := match prior with
    | some fd => [.release (.fd fd)]
    | none => []
  let s := probeLoop w.probes
  let fd0 := s.nodeFd.getD 0 (-1)
  if s.availabeNode = 0 then ⟨ENODEV.neg, none, s.writes, destroy ++ s.events⟩
  else if w.drvCreate fd0 = false then
    ⟨ENODEV.neg, none, s.writes, destroy ++ s.events ++ [.release (.fd fd0)]⟩
  else
    let topology := initTopology s
    if w.drvInit topology.1 ≠ 0 then
      ⟨ENODEV.neg, none, s.writes, destroy ++ s.events ++ topology.2 ++ [.release (.fd fd0)]⟩
    else ⟨0, some fd0, s.writes, destroy ++ s.events ++ topology.2⟩

/-- `~cros_gralloc_driver`: the tables are cleared, and the driver
`drv_render_` points to, if any, is destroyed and its descriptor closed. -/
def crosGrallocDriverDestroy (drvFd : Option Int) : List ResourceEvent :=
  match drvFd with
  | some fd => [.release (.fd fd)]
  | none => []

-- ---------------------------------------------------------------------------
-- The probe loop
-- ---------------------------------------------------------------------------

theorem probeStep_cases (s : ProbeState) (p : NodeProbe) :
    (p.kept = true ∧ ∃ name, probeStep s p =
      { availabeNode := s.availabeNode + 1
        virtioNodeIdx := if name = "virtio_gpu" then s.availabeNode else s.virtioNodeIdx
        nodeFd := s.nodeFd ++ [p.fd]
        nodeName := s.nodeName ++ [name]
        writes := s.writes ++ [s.availabeNode]
        events := s.events ++ [.acquire (.fd p.fd)] }) ∨
    (p.kept = false ∧ ∃ opened : List ResourceEvent, (∀ r, ResourceEvent.held opened r = 0) ∧
      probeStep s p = { s with events := s.events ++ opened }) := by
  have hoc : ∀ r, ResourceEvent.held [.acquire (.fd p.fd), .release (.fd p.fd)] r = 0 := by
    intro r
    simp only [ResourceEvent.held_cons, ResourceEvent.held_nil]
    split_ifs <;> simp_all
  rcases p with ⟨path, fd, version⟩
  by_cases hskip : path = false ∨ fd < 0
  · refine .inr ⟨?_, [], by simp, by simp [probeStep, hskip]⟩
    rcases hskip with rfl | hfd
    · rfl
    · simp [NodeProbe.kept, hfd]
  · obtain ⟨hpath, hfd⟩ : path = true ∧ ¬fd < 0 := by simpa using hskip
    subst hpath
    cases version with
    | none => exact .inr ⟨by simp [NodeProbe.kept], _, hoc, by simp [probeStep, hfd]⟩
    | some name =>
      by_cases hv : name = "vgem"
      · exact .inr ⟨by simp [NodeProbe.kept, hv], _, hoc, by simp [probeStep, hfd, hv]⟩
      · exact .inl ⟨by simp [NodeProbe.kept, hv, le_of_not_lt hfd], name, by simp [probeStep, hfd, hv]⟩

/-- What the loop keeps: the written slots are exactly `0 .. availabe_node - 1`,
one descriptor and one name per slot, and a descriptor is held as often as
it fills a slot. -/
structure ProbeState.Wf (s : ProbeState) : Prop where
  writes_eq : s.writes = List.range s.availabeNode
  nodeFd_length : s.nodeFd.length = s.availabeNode
  nodeName_length : s.nodeName.length = s.availabeNode
  held_eq : ∀ fd, ResourceEvent.held s.events (.fd fd) = s.nodeFd.count fd

theorem ProbeState.wf_init : ProbeState.init.Wf := ⟨rfl, rfl, rfl, fun _ => rfl⟩

theorem ProbeState.Wf.step {s : ProbeState} (hs : s.Wf) (p : NodeProbe) : (probeStep s p).Wf := by
  rcases probeStep_cases s p with ⟨-, name, h⟩ | ⟨-, opened, hopened, h⟩ <;> rw [h]
  · refine ⟨by simp [hs.writes_eq, List.range_succ], by simp [hs.nodeFd_length],
      by simp [hs.nodeName_length], fun fd => ?_⟩
    simp only [ResourceEvent.held_append, ResourceEvent.held_cons, ResourceEvent.held_nil,
      hs.held_eq, List.count_append, List.count_singleton', Resource.fd.injEq]
    split_ifs <;> simp_all [eq_comm]
  · exact ⟨hs.writes_eq, hs.nodeFd_length, hs.nodeName_length,
      fun fd => by simp [hs.held_eq, hopened]⟩

theorem probeLoop_foldl (probes : List NodeProbe) (s : ProbeState) :
    (probes.foldl probeStep s).availabeNode = s.availabeNode + (probes.filter (·.kept)).length ∧
      (probes.foldl probeStep s).nodeFd = s.nodeFd ++ (probes.filter (·.kept)).map (·.fd) := by
  induction probes generalizing s with
  | nil => simp
  | cons p ps ih =>
    rcases probeStep_cases s p with ⟨hk, name, h⟩ | ⟨hk, opened, -, h⟩ <;>
      rw [List.foldl_cons, h, (ih _).1, (ih _).2]
    · simp [hk, List.filter_cons]
      omega
    · simp [hk, List.filter_cons]

theorem probeLoop_wf (probes : List NodeProbe) : (probeLoop probes).Wf := by
  suffices ∀ s : ProbeState, s.Wf → (probes.foldl probeStep s).Wf from this _ ProbeState.wf_init
  induction probes with
  | nil => exact fun _ h => h
  | cons p ps ih => exact fun s hs => ih _ (hs.step p)

theorem probeLoop_held (probes : List NodeProbe) (fd : Int) :
    ResourceEvent.held (probeLoop probes).events (.fd fd) =
      ((probes.filter (·.kept)).map (·.fd)).count fd := by
  rw [(probeLoop_wf probes).held_eq, probeLoop, (probeLoop_foldl probes _).2]
  rfl

-- ---------------------------------------------------------------------------
-- What init leaves
-- ---------------------------------------------------------------------------

theorem crosGrallocDriverInit_writes (prior : Option Int) (w : InitWorld) :
    (crosGrallocDriverInit prior w).writes = (probeLoop w.probes).writes := by
  simp only [crosGrallocDriverInit]
  split_ifs <;> rfl

theorem probeLoop_availabeNode (probes : List NodeProbe) :
    (probeLoop probes).availabeNode = (probes.filter (·.kept)).length := by
  simp [probeLoop, probeLoop_foldl, ProbeState.init]

theorem init_writes_in_bounds_iff (prior : Option Int) (w : InitWorld) :
    (∀ i ∈ (crosGrallocDriverInit prior w).writes, i < renderNum) ↔
      (w.probes.filter (·.kept)).length ≤ renderNum := by
  rw [crosGrallocDriverInit_writes, (probeLoop_wf _).writes_eq, probeLoop_availabeNode]
  simp only [List.mem_range]
  constructor
  · intro h
    by_contra hn
    exact lt_irrefl _ (h renderNum (by omega))
  · intro hn i hi
    omega

theorem initTopology_of_four {s : ProbeState} (h : 4 ≤ s.availabeNode) : initTopology s = (.unset, []) := by
  obtain ⟨n, hn⟩ : ∃ n, s.availabeNode = n + 4 := ⟨s.availabeNode - 4, by omega⟩
  simp only [initTopology, hn]

theorem init_keeps_every_fd_from_four_nodes (w : InitWorld)
    (h4 : 4 ≤ (w.probes.filter (·.kept)).length)
    (hcreate : w.drvCreate ((probeLoop w.probes).nodeFd.getD 0 (-1)) = true)
    (hinit : w.drvInit .unset = 0) (fd : Int) :
    (crosGrallocDriverInit none w).status = 0 ∧
      ResourceEvent.held (crosGrallocDriverInit none w).events (.fd fd) =
        ((w.probes.filter (·.kept)).map (·.fd)).count fd := by
  have hn := probeLoop_availabeNode w.probes
  have htop := initTopology_of_four (s := probeLoop w.probes) (by omega)
  have hne : (probeLoop w.probes).availabeNode ≠ 0 := by omega
  simp only [crosGrallocDriverInit, hne, if_false, hcreate, Bool.true_eq_false, htop, hinit, ne_eq,
    not_true_eq_false]
  simp [probeLoop_held]

theorem init_create_failure_keeps_other_fds (w : InitWorld)
    (hkept : (w.probes.filter (·.kept)) ≠ [])
    (hcreate : w.drvCreate ((probeLoop w.probes).nodeFd.getD 0 (-1)) = false) (fd : Int) :
    (crosGrallocDriverInit none w).status = ENODEV.neg ∧
      ResourceEvent.held (crosGrallocDriverInit none w).events (.fd fd) =
        ((w.probes.filter (·.kept)).map (·.fd)).count fd -
          if fd = (probeLoop w.probes).nodeFd.getD 0 (-1) then 1 else 0 := by
  have hne : (probeLoop w.probes).availabeNode ≠ 0 := by
    rw [probeLoop_availabeNode]
    exact fun h => hkept (List.eq_nil_of_length_eq_zero h)
  simp only [crosGrallocDriverInit, hne, if_false, hcreate, if_true]
  simp [probeLoop_held, eq_comm, sub_eq_add_neg]

def elevenNodes : InitWorld where
  probes := (List.range 11).map (fun i : Nat => (⟨true, (i : Int) + 3, some "i915"⟩ : NodeProbe)) ++
    List.replicate 52 (⟨true, -1, none⟩ : NodeProbe)
  probes_length := rfl
  drvCreate := fun _ => true
  drvInit := fun _ => 0

/-- `init` writes past `node_fd` and `node_name` exactly when more than
`render_num` nodes are kept; with four or more kept it succeeds with every
kept descriptor open, and a failed `drv_create` closes only the first. Eleven
`i915` nodes do both: index 10 is written, and descriptor 4 stays open
although `drv_render_` owns only descriptor 3. -/
theorem eleven_nodes_overflow_and_leak :
    (∀ prior w, (∀ i ∈ (crosGrallocDriverInit prior w).writes, i < renderNum) ↔
      (w.probes.filter (·.kept)).length ≤ renderNum) ∧
    (∀ w, 4 ≤ (w.probes.filter (·.kept)).length →
      w.drvCreate ((probeLoop w.probes).nodeFd.getD 0 (-1)) = true → w.drvInit .unset = 0 → ∀ fd,
        (crosGrallocDriverInit none w).status = 0 ∧
          ResourceEvent.held (crosGrallocDriverInit none w).events (.fd fd) =
            ((w.probes.filter (·.kept)).map (·.fd)).count fd) ∧
    (∀ w, w.probes.filter (·.kept) ≠ [] →
      w.drvCreate ((probeLoop w.probes).nodeFd.getD 0 (-1)) = false → ∀ fd,
        (crosGrallocDriverInit none w).status = ENODEV.neg ∧
          ResourceEvent.held (crosGrallocDriverInit none w).events (.fd fd) =
            ((w.probes.filter (·.kept)).map (·.fd)).count fd -
              if fd = (probeLoop w.probes).nodeFd.getD 0 (-1) then 1 else 0) ∧
    renderNum ∈ (crosGrallocDriverInit none elevenNodes).writes ∧
      (crosGrallocDriverInit none elevenNodes).status = 0 ∧
      (crosGrallocDriverInit none elevenNodes).drvFd = some 3 ∧
      ResourceEvent.held (crosGrallocDriverInit none elevenNodes).events (.fd 4) = 1 :=
  ⟨init_writes_in_bounds_iff, init_keeps_every_fd_from_four_nodes, init_create_failure_keeps_other_fds,
    by decide⟩

-- ---------------------------------------------------------------------------
-- From init to the destructor
-- ---------------------------------------------------------------------------

theorem probeLoop_nodeFd (probes : List NodeProbe) :
    (probeLoop probes).nodeFd = (probes.filter (·.kept)).map (·.fd) := by
  simp [probeLoop, probeLoop_foldl, ProbeState.init]

theorem held_release_fd (a fd : Int) :
    ResourceEvent.held [.release (.fd a)] (.fd fd) = if a = fd then -1 else 0 := by
  by_cases h : a = fd <;> simp [h]

theorem crosGrallocDriverInit_success (w : InitWorld) (h : (probeLoop w.probes).availabeNode ≠ 0)
    (hcreate : w.drvCreate ((probeLoop w.probes).nodeFd.getD 0 (-1)) = true)
    (hinit : w.drvInit (initTopology (probeLoop w.probes)).1 = 0) :
    crosGrallocDriverInit none w = ⟨0, some ((probeLoop w.probes).nodeFd.getD 0 (-1)),
      (probeLoop w.probes).writes, (probeLoop w.probes).events ++ (initTopology (probeLoop w.probes)).2⟩ := by
  simp only [crosGrallocDriverInit, h, hcreate, hinit, if_false, Bool.true_eq_false, ne_eq,
    not_true_eq_false, List.nil_append]

theorem init_destroy_events (prior : Option Int) (w : InitWorld)
    (h : (probeLoop w.probes).availabeNode ≠ 0) :
    (crosGrallocDriverInit prior w).events ++
        crosGrallocDriverDestroy (crosGrallocDriverInit prior w).drvFd =
      crosGrallocDriverDestroy prior ++ ((probeLoop w.probes).events ++
        (if w.drvCreate ((probeLoop w.probes).nodeFd.getD 0 (-1)) then
          (initTopology (probeLoop w.probes)).2 else []) ++
        [.release (.fd ((probeLoop w.probes).nodeFd.getD 0 (-1)))]) := by
  unfold crosGrallocDriverInit
  simp only [h, if_false]
  generalize (probeLoop w.probes).nodeFd.getD 0 (-1) = fd0
  cases prior <;> cases w.drvCreate fd0 <;>
    by_cases hi : w.drvInit (initTopology (probeLoop w.probes)).1 = 0 <;>
    simp [hi, crosGrallocDriverDestroy]

theorem init_destroy_held (w : InitWorld)
    (hnodes : (w.probes.filter (·.kept)).length ≤ 1 ∨ ((w.probes.filter (·.kept)).length = 2 ∧
      w.drvCreate ((probeLoop w.probes).nodeFd.getD 0 (-1)) = true)) (prior : Option Int) (fd : Int) :
    ResourceEvent.held ((crosGrallocDriverInit prior w).events ++
      crosGrallocDriverDestroy (crosGrallocDriverInit prior w).drvFd) (.fd fd) =
      ResourceEvent.held (crosGrallocDriverDestroy prior) (.fd fd) := by
  have hheld := probeLoop_held w.probes fd
  rw [← probeLoop_nodeFd] at hheld
  rw [← probeLoop_availabeNode] at hnodes
  rcases hk : (probeLoop w.probes).availabeNode with _ | _ | _ | k
  · have hnil : (probeLoop w.probes).nodeFd = [] := by
      rw [← List.length_eq_zero, (probeLoop_wf _).nodeFd_length, hk]
    simp [crosGrallocDriverInit, hk, crosGrallocDriverDestroy, hheld, hnil]
  · obtain ⟨a, ha⟩ : ∃ a, (probeLoop w.probes).nodeFd = [a] := by
      rw [← List.length_eq_one, (probeLoop_wf _).nodeFd_length, hk]
    rw [init_destroy_events prior w (by omega)]
    simp only [initTopology, hk, ha, List.getD_cons_zero, ite_self, List.append_nil,
      ResourceEvent.held_append, hheld, held_release_fd, List.count_singleton']
    split_ifs <;> omega
  · obtain ⟨-, hcreate⟩ := hnodes.resolve_left (by omega)
    obtain ⟨a, b, hab⟩ : ∃ a b, (probeLoop w.probes).nodeFd = [a, b] := by
      rw [← List.length_eq_two, (probeLoop_wf _).nodeFd_length, hk]
    rw [init_destroy_events prior w (by omega), hcreate]
    simp only [initTopology, hk, hab, List.getD_cons_zero, List.getD_cons_succ, if_true,
      ResourceEvent.held_append, hheld, held_release_fd, List.count_cons, List.count_nil, beq_iff_eq]
    split_ifs <;> omega
  · omega

/-- On a driver built fresh, `init` followed by the destructor closes every
descriptor it opened when it keeps at most one node, or two with
`drv_create` succeeding on the first: the second is closed by the
topology switch, the first by the destructor or by the failure path. -/
theorem init_destroy_closes_all (w : InitWorld)
    (hnodes : (w.probes.filter (·.kept)).length ≤ 1 ∨ ((w.probes.filter (·.kept)).length = 2 ∧
      w.drvCreate ((probeLoop w.probes).nodeFd.getD 0 (-1)) = true)) (fd : Int) :
    ResourceEvent.held ((crosGrallocDriverInit none w).events ++
      crosGrallocDriverDestroy (crosGrallocDriverInit none w).drvFd) (.fd fd) = 0 :=
  init_destroy_held w hnodes none fd

def twoNodes : InitWorld where
  probes := ([⟨true, 3, some "i915"⟩, ⟨true, 4, some "i915"⟩] : List NodeProbe) ++
    List.replicate 61 (⟨true, -1, none⟩ : NodeProbe)
  probes_length := rfl
  drvCreate := fun _ => true
  drvInit := fun _ => 0

theorem two_nodes_init_destroy_closes_all :
    ((twoNodes.probes.filter (·.kept)).length ≤ 1 ∨ ((twoNodes.probes.filter (·.kept)).length = 2 ∧
      twoNodes.drvCreate ((probeLoop twoNodes.probes).nodeFd.getD 0 (-1)) = true)) ∧
    ResourceEvent.held ((crosGrallocDriverInit none twoNodes).events ++
      crosGrallocDriverDestroy (crosGrallocDriverInit none twoNodes).drvFd) (.fd 4) = 0 :=
  ⟨by decide, init_destroy_closes_all twoNodes (by decide) 4⟩

-- ---------------------------------------------------------------------------
-- Repeated init
-- ---------------------------------------------------------------------------

/-- `init` called again and again on one driver, each call starting from the
`drv_render_` the one before left: the descriptors opened and closed, and
the descriptor of the driver left at the end. -/
def initRun (prior : Option Int) : List InitWorld → List ResourceEvent × Option Int
  | [] => ([], prior)
  | w :: ws =>
    let r := crosGrallocDriverInit prior w
    ((r.events ++ (initRun r.drvFd ws).1), (initRun r.drvFd ws).2)

/-- From a driver whose `drv_render_` has the descriptor `prior`, any run of
`init` calls, each keeping at most one node or two with `drv_create`
succeeding on the first, followed by the destructor, closes every descriptor
it opens and closes `prior` once: each `init` closes the driver the one
before built, and the destructor the last one's. -/
theorem init_runs_close_all (ws : List InitWorld)
    (hnodes : ∀ w ∈ ws, (w.probes.filter (·.kept)).length ≤ 1 ∨ ((w.probes.filter (·.kept)).length = 2 ∧
      w.drvCreate ((probeLoop w.probes).nodeFd.getD 0 (-1)) = true)) (prior : Option Int) (fd : Int) :
    ResourceEvent.held ((initRun prior ws).1 ++ crosGrallocDriverDestroy (initRun prior ws).2) (.fd fd) =
      ResourceEvent.held (crosGrallocDriverDestroy prior) (.fd fd) := by
  induction ws generalizing prior with
  | nil => simp [initRun]
  | cons w ws ih =>
    -- the first call closes `prior` and leaves its own driver's descriptor
    -- to the rest of the run
    have hinit := init_destroy_held w (hnodes w (.head _)) prior fd
    have hrun := ih (fun w' hw' => hnodes w' (.tail _ hw')) (crosGrallocDriverInit prior w).drvFd
    simp only [initRun, List.append_assoc, ResourceEvent.held_append] at hinit hrun ⊢
    omega

theorem twice_two_nodes_close_all :
    (∀ w ∈ [twoNodes, twoNodes], (w.probes.filter (·.kept)).length ≤ 1 ∨
      ((w.probes.filter (·.kept)).length = 2 ∧ w.drvCreate ((probeLoop w.probes).nodeFd.getD 0 (-1)) = true)) ∧
    ResourceEvent.held ((initRun none [twoNodes, twoNodes]).1 ++
      crosGrallocDriverDestroy (initRun none [twoNodes, twoNodes]).2) (.fd 3) =
      ResourceEvent.held (crosGrallocDriverDestroy none) (.fd 3) :=
  ⟨by decide, init_runs_close_all [twoNodes, twoNodes] (by decide) none 3⟩

/-- With three nodes kept, the first of them the only `virtio_gpu`, the
topology switch closes `node_fd[virtio_node_idx]`, which is `node_fd[0]`,
the descriptor `drv_render_` was built on: `init` returns 0 with the
driver's own descriptor closed, and the destructor closes it a second
time. The descriptors the loop keeps are distinct, as `open` returns
them while all are open. -/
theorem virtio_first_closes_render_fd (w : InitWorld)
    (h3 : (w.probes.filter (·.kept)).length = 3) (hv : (probeLoop w.probes).virtioNodeIdx = 0)
    (hnodup : ((w.probes.filter (·.kept)).map (·.fd)).Nodup)
    (hcreate : w.drvCreate ((probeLoop w.probes).nodeFd.getD 0 (-1)) = true)
    (hinit : w.drvInit .threeGpuIgpuVirtioDgpu = 0) :
    (crosGrallocDriverInit none w).status = 0 ∧
      (crosGrallocDriverInit none w).drvFd = some ((probeLoop w.probes).nodeFd.getD 0 (-1)) ∧
      ResourceEvent.held (crosGrallocDriverInit none w).events
        (.fd ((probeLoop w.probes).nodeFd.getD 0 (-1))) = 0 ∧
      ResourceEvent.held ((crosGrallocDriverInit none w).events ++
          crosGrallocDriverDestroy (crosGrallocDriverInit none w).drvFd)
        (.fd ((probeLoop w.probes).nodeFd.getD 0 (-1))) = -1 := by
  have hk : (probeLoop w.probes).availabeNode = 3 := by rw [probeLoop_availabeNode, h3]
  obtain ⟨a, b, c, habc⟩ := List.length_eq_three.mp ((probeLoop_wf w.probes).nodeFd_length.trans hk)
  have hheld := probeLoop_held w.probes a
  rw [← probeLoop_nodeFd, habc] at hheld hnodup
  have hba : b ≠ a := fun e => by simp [e] at hnodup
  have hca : c ≠ a := fun e => by simp [e] at hnodup
  have htop : initTopology (probeLoop w.probes) = (.threeGpuIgpuVirtioDgpu,
      (if (probeLoop w.probes).nodeName.getD 1 "" = "i915" then [.release (.fd b)] else []) ++
        [.release (.fd a)]) := by
    simp only [initTopology, hk, hv, habc, ne_eq, show (0 : Int) ≠ -1 by decide, not_false_eq_true,
      if_true, List.getD_cons_succ, List.getD_cons_zero, Int.toNat_zero]
  rw [crosGrallocDriverInit_success w (by omega) hcreate (by rw [htop]; exact hinit), habc,
    List.getD_cons_zero, htop]
  have hif : ResourceEvent.held (if (probeLoop w.probes).nodeName.getD 1 "" = "i915" then
      [.release (.fd b)] else []) (.fd a) = 0 := by
    split_ifs <;> simp [held_release_fd, hba]
  have hcount : List.count a [a, b, c] = 1 := by simp [List.count_cons, hba, hca]
  refine ⟨rfl, rfl, ?_, ?_⟩ <;>
    simp only [ResourceEvent.held_append, hheld, hif, held_release_fd, crosGrallocDriverDestroy,
      if_true, hcount] <;> rfl

def virtioFirstNodes : InitWorld where
  probes := ([⟨true, 3, some "virtio_gpu"⟩, ⟨true, 4, some "i915"⟩, ⟨true, 5, some "i915"⟩] :
    List NodeProbe) ++ List.replicate 60 (⟨true, -1, none⟩ : NodeProbe)
  probes_length := rfl
  drvCreate := fun _ => true
  drvInit := fun _ => 0

theorem virtio_first_render_fd_closed :
    (virtioFirstNodes.probes.filter (·.kept)).length = 3 ∧
      (probeLoop virtioFirstNodes.probes).virtioNodeIdx = 0 ∧
      ((virtioFirstNodes.probes.filter (·.kept)).map (·.fd)).Nodup ∧
      virtioFirstNodes.drvCreate ((probeLoop virtioFirstNodes.probes).nodeFd.getD 0 (-1)) = true ∧
      virtioFirstNodes.drvInit .threeGpuIgpuVirtioDgpu = 0 ∧
      (crosGrallocDriverInit none virtioFirstNodes).status = 0 ∧
      (crosGrallocDriverInit none virtioFirstNodes).drvFd =
        some ((probeLoop virtioFirstNodes.probes).nodeFd.getD 0 (-1)) ∧
      ResourceEvent.held (crosGrallocDriverInit none virtioFirstNodes).events
        (.fd ((probeLoop virtioFirstNodes.probes).nodeFd.getD 0 (-1))) = 0 ∧
      ResourceEvent.held ((crosGrallocDriverInit none virtioFirstNodes).events ++
          crosGrallocDriverDestroy (crosGrallocDriverInit none virtioFirstNodes).drvFd)
        (.fd ((probeLoop virtioFirstNodes.probes).nodeFd.getD 0 (-1))) = -1 :=
  ⟨by decide, by decide, by decide, rfl, rfl,
    virtio_first_closes_render_fd virtioFirstNodes (by decide) (by decide) (by decide) rfl rfl⟩

end Minigbm.Gralloc
