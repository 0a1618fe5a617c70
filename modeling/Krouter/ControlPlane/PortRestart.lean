import Krouter.ControlPlane.Frontend
import Krouter.ControlPlane.PortSafety
import Mathlib.Logic.Relation

/-! Runs in which every port map is written to its Service after the allocations: rebuilding the
allocator then changes nothing. -/

namespace Krouter.Ports
open Std Compiled Frontend PortAllocator

structure Cluster where
  allocator : PortAllocator
  services : GoMap String Service

namespace Cluster

def start (min max : Int) : Cluster := ⟨newPortAllocator min max [], ∅⟩

def reconcile (c : Cluster) (gw : GatewayMeta) (serviceAnnotations : GoMap String String)
    (groups : List (Int32 × String)) : Cluster :=
  let a := (c.allocator.allocateAll (groups.map fun g => ⟨gw.uid, g.1, g.2⟩)).2
  ⟨a, c.services.insert gw.uid.value
    (desiredService gw serviceAnnotations (a.portMap gw.uid.value))⟩

/-- Reconciliations, and restarts that list the Services in any order. -/
inductive Step (min max : Int) : Cluster → Cluster → Prop
  | reconcile (c : Cluster) (gw : GatewayMeta) (serviceAnnotations : GoMap String String)
      (groups : List (Int32 × String)) : Step min max c (c.reconcile gw serviceAnnotations groups)
  | restart (c : Cluster) (listing : List Service)
      (hl : listing.Perm (c.services.toList.map Prod.snd)) :
      Step min max c ⟨newPortAllocator min max listing, c.services⟩

end Cluster

/-! ## One Service -/

theorem portMap_ne_empty (a : PortAllocator) (uid : String) : a.portMap uid ≠ "" := by
  intro h
  have hr := portMapCodec.unmarshal_marshal (a.portMapOf uid)
  rw [← portMap, h, show portMapCodec.unmarshal "" = none by decide] at hr
  cases hr

variable {a : PortAllocator} {key : String} {port : Int32} {min max : Int} {c d : Cluster}

theorem mem_persistedEntries_desired {gw : GatewayMeta} {annotations : GoMap String String} :
    (key, port) ∈ persistedEntries (desiredService gw annotations (a.portMap gw.uid.value)) ↔
      ∃ k ≠ "", key = gw.uid.value ++ "|" ++ k ∧ a.assigned[key]? = some port := by
  simp only [persistedEntries, desiredService_portMap, desiredService_gatewayUID]
  rw [if_neg (not_or.mpr ⟨gw.uid.nonempty, portMap_ne_empty a _⟩), portMap,
    portMapCodec.unmarshal_marshal]
  simp only [List.mem_map, Prod.mk.injEq]
  constructor
  · rintro ⟨⟨k, p⟩, hm, rfl, rfl⟩
    obtain ⟨hk, ha⟩ := (portMapOf_get a _).mp (GoMap.mem_toList.mp hm)
    exact ⟨k, hk, rfl, ha⟩
  · rintro ⟨k, hk, rfl, ha⟩
    exact ⟨(k, port), GoMap.mem_toList.mpr ((portMapOf_get a _).mpr ⟨hk, ha⟩), rfl, rfl⟩

def Group.suffix (g : Group) : String :=
  String.ofList (Decimal.itoa g.extPort.toInt) ++ "/" ++ g.protocol

theorem Group.key_eq (g : Group) : g.key = g.gateway.value ++ "|" ++ g.suffix := groupKey_eq _ _ _

theorem Group.suffix_ne_empty (g : Group) : g.suffix ≠ "" := by
  intro h
  have hl := congrArg String.toList h
  simp [suffix, String.toList_append] at hl

/-! ## Allocations of other Gateways -/

theorem allocateGroup_assigned_other {g : Group} (h : key ≠ g.key) :
    (a.allocateGroup g).2.assigned[key]? = a.assigned[key]? := by
  obtain ⟨p, -, he⟩ | ⟨p, -, -, -, he⟩ | ⟨-, -, he⟩ := a.allocateGroup_cases g <;> rw [he]
  rw [record, GoMap.get_insert_of_ne _ _ (Ne.symm h)]

theorem allocateAll_assigned_other {gs : List Group} (h : ∀ g ∈ gs, key ≠ g.key) :
    (a.allocateAll gs).2.assigned[key]? = a.assigned[key]? := by
  induction gs generalizing a with
  | nil => rfl
  | cons g gs ih =>
    exact (ih fun x hx => h x (List.mem_cons_of_mem g hx)).trans
      (allocateGroup_assigned_other (h g (.head _)))

theorem portMap_allocateAll_other {gs : List Group} {u v : GatewayUID} (h : ∀ g ∈ gs, g.gateway = u) (huv : v ≠ u) :
    (a.allocateAll gs).2.portMap v.value = a.portMap v.value := by
  rw [portMap, portMap]
  congr 1
  apply ExtTreeMap.ext_getElem?
  intro k
  apply Option.ext
  intro port
  rw [portMapOf_get, portMapOf_get, allocateAll_assigned_other]
  intro g hg hk
  rw [g.key_eq] at hk
  exact huv ((GatewayUID.key_inj hk).1.trans (h g hg))

/-- Every mark in `used` belongs to an allocation. -/
def UsedByAllocation (a : PortAllocator) : Prop :=
  ∀ port b, a.used[port]? = some b → b = true ∧ ∃ key : String, a.assigned[key]? = some port

theorem UsedByAllocation.allocateGroup (h : UsedByAllocation a) (g : Group) :
    UsedByAllocation (a.allocateGroup g).2 := by
  intro port b hu
  have hmono : ∀ key : String, a.assigned[key]? = some port →
      (a.allocateGroup g).2.assigned[key]? = some port := fun _ => allocateGroup_assigned_mono g
  obtain ⟨p, -, he⟩ | ⟨p, -, -, -, he⟩ | ⟨-, -, he⟩ := a.allocateGroup_cases g <;> rw [he] at hu hmono ⊢
  · exact h port b hu
  · rw [record, GoMap.get_insert] at hu
    split_ifs at hu with hp
    · subst hp
      exact ⟨(Option.some.inj hu).symm, g.key, by rw [record, GoMap.get_insert_self]⟩
    · obtain ⟨hb, key, hk⟩ := h port b hu
      exact ⟨hb, key, hmono key hk⟩
  · exact h port b hu

/-! ## The invariant of persisted runs -/

/-- The Services hold exactly the allocations of the live allocator. -/
structure Persistent (min max : Int) (c : Cluster) : Prop where
  range : c.allocator.min = min ∧ c.allocator.max = max
  sound : Sound (Candidate min max) c.allocator
  used : UsedByAllocation c.allocator
  owned : ∀ (key : String) port, c.allocator.assigned[key]? = some port →
    ∃ g : Group, key = g.key ∧ ∃ svc, c.services[g.gateway.value]? = some svc
  stored : ∀ (uid : String) svc, c.services[uid]? = some svc → ∃ gw annotations,
    gw.uid.value = uid ∧ svc = desiredService gw annotations (c.allocator.portMap uid)

theorem Persistent.mem_entries (hc : Persistent min max c) {listing : List Service}
    (hl : listing.Perm (c.services.toList.map Prod.snd)) (key : String) (port : Int32) :
    (key, port) ∈ listing.flatMap persistedEntries ↔
      c.allocator.assigned[key]? = some port := by
  rw [List.mem_flatMap]
  constructor
  · rintro ⟨svc, hsvc, hm⟩
    obtain ⟨⟨uid, svc⟩, hp, rfl⟩ := List.mem_map.mp (hl.mem_iff.mp hsvc)
    obtain ⟨gw, annotations, rfl, rfl⟩ := hc.stored uid svc (GoMap.mem_toList.mp hp)
    obtain ⟨k, -, -, ha⟩ := mem_persistedEntries_desired.mp hm
    exact ha
  · intro ha
    obtain ⟨g, rfl, svc, hsvc⟩ := hc.owned key port ha
    obtain ⟨gw, annotations, hu, rfl⟩ := hc.stored _ svc hsvc
    refine ⟨_, hl.mem_iff.mpr (List.mem_map.mpr ⟨_, GoMap.mem_toList.mpr hsvc, rfl⟩), ?_⟩
    rw [← hu]
    exact mem_persistedEntries_desired.mpr ⟨g.suffix, g.suffix_ne_empty, hu ▸ g.key_eq, ha⟩

theorem Persistent.restart_eq (hc : Persistent min max c) {listing : List Service}
    (hl : listing.Perm (c.services.toList.map Prod.snd)) : newPortAllocator min max listing = c.allocator := by
  have hassigned : (newPortAllocator min max listing).assigned = c.allocator.assigned := by
    rw [newPortAllocator_eq, recordAll_assigned]
    exact GoMap.setAll_empty_eq (hc.mem_entries hl)
  have hused : (newPortAllocator min max listing).used = c.allocator.used := by
    rw [newPortAllocator_eq, recordAll_used]
    apply GoMap.setAll_empty_eq
    intro port b
    constructor
    · intro hm
      obtain ⟨⟨key, p⟩, he, hp⟩ := List.mem_map.mp hm
      obtain ⟨rfl, rfl⟩ := Prod.mk.inj hp
      have hu := hc.sound.used key p ((hc.mem_entries hl key p).mp he)
      simpa [isUsed, GoMap.read, Option.getD_eq_iff] using hu
    · intro hu
      obtain ⟨rfl, key, ha⟩ := hc.used port b hu
      exact List.mem_map.mpr ⟨(key, port), (hc.mem_entries hl key port).mpr ha, rfl⟩
  obtain ⟨hmin, hmax⟩ := hc.range
  obtain ⟨allocator, services⟩ := c
  cases allocator
  cases hn : newPortAllocator min max listing
  have h1 := newPortAllocator_min min max listing
  have h2 := newPortAllocator_max min max listing
  simp_all

theorem Persistent.start (min max : Int) : Persistent min max (Cluster.start min max) where
  range := ⟨rfl, rfl⟩
  sound := by
    refine ⟨fun key port h => ?_, fun g h port hg => ?_, fun g port hg => ?_, fun port h => .inl h⟩
    · simp [Cluster.start, newPortAllocator] at h
    · simp [Cluster.start, newPortAllocator] at hg
    · simp [Cluster.start, newPortAllocator] at hg
  used port b h := by simp [Cluster.start, newPortAllocator] at h
  owned key port h := by simp [Cluster.start, newPortAllocator] at h
  stored uid svc h := by simp [Cluster.start] at h

theorem Persistent.reconcile (hc : Persistent min max c) (gw : GatewayMeta)
    (serviceAnnotations : GoMap String String) (groups : List (Int32 × String)) :
    Persistent min max (c.reconcile gw serviceAnnotations groups) := by
  have hgw : ∀ g ∈ groups.map (fun g => (⟨gw.uid, g.1, g.2⟩ : Group)), g.gateway = gw.uid := by
    intro g hg
    obtain ⟨_, -, rfl⟩ := List.mem_map.mp hg
    rfl
  simp only [Cluster.reconcile]
  generalize groups.map (fun g => (⟨gw.uid, g.1, g.2⟩ : Group)) = gs at hgw
  have hold : ∀ (uid : String) svc, c.services[uid]? = some svc → ∃ svc', (c.services.insert gw.uid.value
      (desiredService gw serviceAnnotations ((c.allocator.allocateAll gs).2.portMap
        gw.uid.value)))[uid]? = some svc' := by
    intro uid svc hs
    rw [GoMap.get_insert]
    split_ifs
    · exact ⟨_, rfl⟩
    · exact ⟨svc, hs⟩
  refine ⟨?_, hc.sound.allocateAll gs, allocateAll_invariant _ (fun _ g h => h.allocateGroup g) gs hc.used,
    fun key port ha => ?_, fun uid svc hs => ?_⟩
  · obtain ⟨h1, h2⟩ := allocateAll_range gs c.allocator
    exact ⟨h1.trans hc.range.1, h2.trans hc.range.2⟩
  · by_cases hk : ∃ g ∈ gs, key = g.key
    · obtain ⟨g, hg, rfl⟩ := hk
      exact ⟨g, rfl, _, by rw [hgw g hg]; exact GoMap.get_insert_self ..⟩
    · rw [allocateAll_assigned_other fun g hg he => hk ⟨g, hg, he⟩] at ha
      obtain ⟨g, rfl, svc, hs⟩ := hc.owned key port ha
      exact ⟨g, rfl, hold _ svc hs⟩
  · rw [GoMap.get_insert] at hs
    split_ifs at hs with hu
    · exact ⟨gw, serviceAnnotations, hu, by rw [← Option.some.inj hs, hu]⟩
    · obtain ⟨gw', annotations, rfl, rfl⟩ := hc.stored uid svc hs
      refine ⟨gw', annotations, rfl, ?_⟩
      rw [portMap_allocateAll_other hgw fun he => hu (by rw [he])]

theorem Persistent.step (hc : Persistent min max c) (h : Cluster.Step min max c d) : Persistent min max d := by
  cases h with
  | reconcile gw annotations groups => exact hc.reconcile gw annotations groups
  | restart listing hl =>
    rw [hc.restart_eq hl]
    exact hc

theorem Persistent.run (hc : Persistent min max c) (h : Relation.ReflTransGen (Cluster.Step min max) c d) :
    Persistent min max d := by
  induction h with
  | refl => exact hc
  | tail _ hstep ih => exact ih.step hstep

theorem Step.assigned_mono (hc : Persistent min max c) (h : Cluster.Step min max c d)
    (ha : c.allocator.assigned[key]? = some port) : d.allocator.assigned[key]? = some port := by
  cases h with
  | reconcile gw annotations groups => exact allocateAll_assigned_mono _ ha
  | restart listing hl =>
    rw [hc.restart_eq hl]
    exact ha

theorem run_assigned_mono (hc : Persistent min max c) (h : Relation.ReflTransGen (Cluster.Step min max) c d)
    (ha : c.allocator.assigned[key]? = some port) : d.allocator.assigned[key]? = some port := by
  induction h with
  | refl => exact ha
  | tail hrun hstep ih => exact Step.assigned_mono (hc.run hrun) hstep ih

theorem newPortAllocator_desired (min max : Int) (a : PortAllocator) (gw : GatewayMeta)
    (annotations : GoMap String String) (g : Group) :
    (newPortAllocator min max [desiredService gw annotations
      (a.portMap gw.uid.value)]).assigned[g.key]? =
        if g.gateway = gw.uid then a.assigned[g.key]? else none := by
  apply Option.ext
  intro port
  rw [newPortAllocator_eq, recordAll_assigned, List.flatMap_singleton, GoMap.get_setAll_empty,
    mem_persistedEntries_desired]
  · constructor
    · rintro ⟨k, -, hk, ha⟩
      rw [if_pos (GatewayUID.key_inj (g.key_eq.symm.trans hk)).1, ha]
    · intro ha
      split_ifs at ha with hg
      exact ⟨g.suffix, g.suffix_ne_empty, hg ▸ g.key_eq, ha⟩
  · intro port' h h'
    obtain ⟨-, -, -, ha⟩ := mem_persistedEntries_desired.mp h
    obtain ⟨-, -, -, ha'⟩ := mem_persistedEntries_desired.mp h'
    exact Option.some.inj (ha'.symm.trans ha)

theorem allocateGroup_error {g : Group} {e : String} (h : (a.allocateGroup g).1 = .error e) :
    (a.allocateGroup g).2 = a := by
  obtain ⟨p, -, he⟩ | ⟨p, -, -, -, he⟩ | ⟨-, -, he⟩ := a.allocateGroup_cases g <;> rw [he] at h ⊢
  cases h

/-- Over every run that persists the port maps: restarts are the identity, groups keep their ports,
which are distinct and in range, and exhaustion changes nothing. -/
theorem persisted_run_restart_transparent (min max : Int) {c : Cluster}
    (hrun : Relation.ReflTransGen (Cluster.Step min max) (Cluster.start min max) c) :
    (∀ listing : List Service, listing.Perm (c.services.toList.map Prod.snd) →
      newPortAllocator min max listing = c.allocator) ∧
    (∀ gw annotations (g : Group), (newPortAllocator min max [desiredService gw annotations
      (c.allocator.portMap gw.uid.value)]).assigned[g.key]? =
        if g.gateway = gw.uid then c.allocator.assigned[g.key]? else none) ∧
    (∀ d, Relation.ReflTransGen (Cluster.Step min max) c d → ∀ (g : Group) port,
      c.allocator.assigned[g.key]? = some port →
        d.allocator.allocateGroup g = (.ok port, d.allocator)) ∧
    (∀ (g h : Group) port, c.allocator.assigned[g.key]? = some port →
      c.allocator.assigned[h.key]? = some port → g = h) ∧
    (∀ (g : Group) port, c.allocator.assigned[g.key]? = some port → Candidate min max port ∧
      (-2 ^ 31 ≤ min → max < 2 ^ 31 → InRange min max port)) ∧
    ∀ (a : PortAllocator) g e, (a.allocateGroup g).1 = .error e →
      (a.allocateGroup g).2.used = a.used ∧ (a.allocateGroup g).2.assigned = a.assigned := by
  have hc := (Persistent.start min max).run hrun
  refine ⟨fun listing hl => hc.restart_eq hl,
    fun gw annotations g => newPortAllocator_desired min max c.allocator gw annotations g,
    fun d hd g port ha => allocateGroup_of_assigned (run_assigned_mono hc hd ha),
    hc.sound.distinct, fun g port ha => ?_, fun a g e he => by rw [allocateGroup_error he]; exact ⟨rfl, rfl⟩⟩
  have hcand := hc.sound.good g port ha
  exact ⟨hcand, fun hmin hmax => hcand.inRange hmin hmax⟩

def fullCluster : Cluster :=
  (Cluster.start 10000 10001).reconcile ⟨gatewayA, "default", "web", ∅, ∅⟩ ∅
    [(80, "HTTP"), (443, "HTTPS"), (8080, "HTTP")]

theorem fullCluster_restart :
    fullCluster.allocator.assigned.toList = [("a|443/HTTPS", 10001), ("a|80/HTTP", 10000)] ∧
    newPortAllocator 10000 10001 (fullCluster.services.toList.map Prod.snd) =
      fullCluster.allocator :=
  ⟨by decide, (persisted_run_restart_transparent 10000 10001
    (.single (.reconcile _ _ _ _))).1 _ (List.Perm.refl _)⟩

end Krouter.Ports
