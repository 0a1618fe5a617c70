import Krouter.ControlPlane.Ports

/-! Allocations read back from annotations that anybody can write: which of them keep the granted ports
distinct and in range. -/

namespace Krouter.Ports
open Std PortAllocator

/-- The invariant of an allocator whose granted ports are distinct and all satisfy `P`. -/
structure Sound (P : Int32 → Prop) (a : PortAllocator) : Prop where
  used : ∀ (key : String) port, a.assigned[key]? = some port → a.isUsed port = true
  distinct : ∀ (g h : Group) port, a.assigned[g.key]? = some port →
    a.assigned[h.key]? = some port → g = h
  good : ∀ (g : Group) port, a.assigned[g.key]? = some port → P port
  candidates : ∀ port, Candidate a.min a.max port → P port ∨ a.isUsed port = true

variable {a : PortAllocator} {P : Int32 → Prop} {port : Int32} {min max : Int} {services : List Service}

theorem record_group_assigned {g h : Group} {port p : Int32} (hp : (a.record g.key port).assigned[h.key]? = some p) :
    h = g ∧ p = port ∨ a.assigned[h.key]? = some p := by
  rw [record, GoMap.get_insert] at hp
  split_ifs at hp with hk
  · exact .inl ⟨(Group.key_injective hk).symm, (Option.some.inj hp).symm⟩
  · exact .inr hp

theorem Sound.record (hs : Sound P a) {g : Group} (hc : Candidate a.min a.max port) (hfree : a.isUsed port = false) :
    Sound P (a.record g.key port) where
  used key p hp := by
    rw [record_isUsed]
    rw [PortAllocator.record, GoMap.get_insert] at hp
    split_ifs at hp
    · exact .inl (Option.some.inj hp).symm
    · exact .inr (hs.used key p hp)
  distinct x y p hx hy := by
    -- a port already assigned is in use, so it cannot be the free one
    have hold : ∀ z : Group, a.assigned[z.key]? = some p → p ≠ port := by
      rintro z hz rfl
      rw [hs.used _ _ hz] at hfree
      cases hfree
    rcases record_group_assigned hx with ⟨rfl, rfl⟩ | hx' <;>
      rcases record_group_assigned hy with ⟨rfl, hp⟩ | hy'
    · rfl
    · exact absurd rfl (hold y hy')
    · exact absurd hp (hold x hx')
    · exact hs.distinct x y p hx' hy'
  good x p hx := by
    rcases record_group_assigned hx with ⟨-, rfl⟩ | hx
    · rcases hs.candidates p hc with hp | hu
      · exact hp
      · rw [hu] at hfree
        cases hfree
    · exact hs.good x p hx
  candidates p hp := by
    rw [record_isUsed]
    rcases hs.candidates p hp with h | h
    · exact .inl h
    · exact .inr (.inr h)

theorem Sound.allocateGroup (hs : Sound P a) (g : Group) : Sound P (a.allocateGroup g).2 := by
  obtain ⟨port, -, h⟩ | ⟨port, -, hfree, ⟨c, h1, h2, hc, -⟩, h⟩ | ⟨-, -, h⟩ :=
    a.allocateGroup_cases g <;> rw [h]
  · exact hs
  · exact hs.record ⟨c, h1, h2, hc⟩ hfree
  · exact hs

theorem Sound.allocateAll (hs : Sound P a) (gs : List Group) : Sound P (a.allocateAll gs).2 :=
  allocateAll_invariant _ (fun _ g h => h.allocateGroup g) gs hs

/-! ## Reaching every candidate -/

theorem exists_length_bound (l : List String) : ∃ n, ∀ s ∈ l, s.toList.length < n := by
  induction l with
  | nil => exact ⟨0, fun s hs => by cases hs⟩
  | cons t l ih =>
    obtain ⟨n, hn⟩ := ih
    refine ⟨Nat.max n (t.toList.length + 1), fun s hs => ?_⟩
    rcases List.mem_cons.mp hs with rfl | hs
    · exact Nat.lt_of_lt_of_le (Nat.lt_succ_self _) (Nat.le_max_right ..)
    · exact Nat.lt_of_lt_of_le (hn s hs) (Nat.le_max_left ..)

theorem exists_fresh_group (a : PortAllocator) : ∃ g : Group, a.assigned[g.key]? = none := by
  obtain ⟨n, hn⟩ := exists_length_bound (a.assigned.toList.map Prod.fst)
  let g : Group := ⟨⟨"u", by decide, by decide⟩, 0, String.ofList (List.replicate n 'x')⟩
  refine ⟨g, ?_⟩
  cases h : a.assigned[g.key]? with
  | none => rfl
  | some port =>
    have hlt := hn g.key (List.mem_map.mpr ⟨_, GoMap.mem_toList.mpr h, rfl⟩)
    have hlen : n ≤ g.key.toList.length := by
      simp only [Group.key, groupKey_eq, String.toList_append, List.length_append, g,
        String.toList_ofList, List.length_replicate]
      omega
    omega

theorem exists_allocateAll_used (a : PortAllocator) (k : Nat) :
    ∃ gs, ∀ c, a.min ≤ c → c ≤ a.max → c < a.min + k →
      (a.allocateAll gs).2.isUsed (Int32.ofInt c) = true := by
  induction k with
  | zero => exact ⟨[], fun c h1 _ h3 => by omega⟩
  | succ k ih =>
    obtain ⟨gs, hgs⟩ := ih
    obtain ⟨g, hg⟩ := exists_fresh_group (a.allocateAll gs).2
    obtain ⟨hmin, hmax⟩ := allocateAll_range gs a
    refine ⟨gs ++ [g], fun c h1 h2 h3 => ?_⟩
    rw [allocateAll_append]
    change ((a.allocateAll gs).2.allocateGroup g).2.isUsed (Int32.ofInt c) = true
    obtain ⟨port, hp, -⟩ | ⟨port, -, hfree, ⟨d, h4, h5, hd, hbelow⟩, he⟩ | ⟨-, hall, he⟩ :=
      (a.allocateAll gs).2.allocateGroup_cases g
    · rw [hg] at hp
      cases hp
    · rw [he, record_isUsed]
      rw [hmin] at h4 hbelow
      rw [hmax] at h5
      by_cases hcd : c < d
      · exact .inr (hbelow c h1 hcd)
      · by_cases hck : c < a.min + k
        · exact .inr (hgs c h1 h2 hck)
        · -- the first free candidate is not among the first `k`, so it is the next one
          by_cases hdk : d < a.min + k
          · rw [hd, hgs d h4 h5 hdk] at hfree
            cases hfree
          · exact .inl (by rw [hd, show c = d by omega])
    · rw [he]
      exact hall _ ⟨c, hmin ▸ h1, hmax ▸ h2, rfl⟩

/-! ## Arbitrary annotations -/

def InRange (min max : Int) (port : Int32) : Prop := min ≤ port.toInt ∧ port.toInt ≤ max

theorem PortAllocator.Candidate.inRange (h : Candidate min max port) (hmin : -2 ^ 31 ≤ min) (hmax : max < 2 ^ 31) :
    InRange min max port := by
  obtain ⟨c, h1, h2, rfl⟩ := h
  rw [InRange, Int32.toInt_ofInt_of_le (by omega) (by omega)]
  exact ⟨h1, h2⟩

def SafeAllocation (a : PortAllocator) : Prop :=
  ∀ gs : List Group,
    (∀ g h port, (g, .ok port) ∈ (a.allocateAll gs).1 → (h, .ok port) ∈ (a.allocateAll gs).1 →
      g = h) ∧
    ∀ g port, (g, .ok port) ∈ (a.allocateAll gs).1 → InRange a.min a.max port

/-- The annotations hold in-range, distinct ports for the groups, and a candidate that leaves the range
when it is cut to 32 bits is mentioned. -/
structure PersistedSound (min max : Int) (services : List Service) : Prop where
  inRange : ∀ (g : Group) port, Persisted services g.key port → InRange min max port
  distinct : ∀ (g h : Group) port, Persisted services g.key port →
    Persisted services h.key port → g = h
  candidates : ∀ c, min ≤ c → c ≤ max →
    InRange min max (Int32.ofInt c) ∨ Reserved services (Int32.ofInt c)

theorem Persisted.reserved {key : String} (h : Persisted services key port) : Reserved services port := by
  obtain ⟨before, after, he, -⟩ := h
  have hm : (key, port) ∈ services.flatMap persistedEntries := by simp [he]
  obtain ⟨svc, hsvc, hp⟩ := List.mem_flatMap.mp hm
  exact ⟨svc, hsvc, key, hp⟩

theorem PersistedSound.sound (h : PersistedSound min max services) :
    Sound (InRange min max) (newPortAllocator min max services) where
  used key port hp := newPortAllocator_isUsed.mpr ((newPortAllocator_assigned min max).mp hp).reserved
  distinct g h' port hg hh :=
    h.distinct g h' port ((newPortAllocator_assigned min max).mp hg) ((newPortAllocator_assigned min max).mp hh)
  good g port hp := h.inRange g port ((newPortAllocator_assigned min max).mp hp)
  candidates port hc := by
    obtain ⟨c, h1, h2, rfl⟩ := hc
    rw [newPortAllocator_min] at h1
    rw [newPortAllocator_max] at h2
    rw [newPortAllocator_isUsed]
    exact h.candidates c h1 h2

theorem Sound.safeAllocation (h : Sound (InRange a.min a.max) a) : SafeAllocation a := fun gs =>
  ⟨fun g h' port hg hh => (h.allocateAll gs).distinct g h' port (allocateAll_ok hg) (allocateAll_ok hh),
    fun g port hg => (h.allocateAll gs).good g port (allocateAll_ok hg)⟩

theorem allocateAll_assigned_pair {g h : Group} {p q : Int32} (hg : a.assigned[g.key]? = some p)
    (hh : a.assigned[h.key]? = some q) : (a.allocateAll [g, h]).1 = [(g, .ok p), (h, .ok q)] := by
  simp only [PortAllocator.allocateAll, allocateGroup_of_assigned hg, allocateGroup_of_assigned hh]

theorem SafeAllocation.persistedSound (h : SafeAllocation (newPortAllocator min max services)) :
    PersistedSound min max services where
  inRange g port hp := by
    have ha := (newPortAllocator_assigned min max).mpr hp
    have hr := (h [g, g]).2 g port (by rw [allocateAll_assigned_pair ha ha]; simp)
    rwa [newPortAllocator_min, newPortAllocator_max] at hr
  distinct g x port hg hx := by
    have hg := (newPortAllocator_assigned min max).mpr hg
    have hx := (newPortAllocator_assigned min max).mpr hx
    have hm := allocateAll_assigned_pair hg hx
    exact (h [g, x]).1 g x port (by rw [hm]; simp) (by rw [hm]; simp)
  candidates c h1 h2 := by
    obtain ⟨gs, hgs⟩ :=
      exists_allocateAll_used (newPortAllocator min max services) (max + 1 - min).toNat
    simp only [newPortAllocator_min, newPortAllocator_max] at hgs
    rcases allocateAll_used (hgs c h1 h2 (by omega)) with hu | ⟨g, hg⟩
    · exact .inr (newPortAllocator_isUsed.mp hu)
    · have hr := (h gs).2 g _ hg
      rw [newPortAllocator_min, newPortAllocator_max] at hr
      exact .inl hr

/-- The allocator is safe exactly for sound annotations: reading them back checks nothing. -/
theorem safeAllocation_iff_persistedSound (min max : Int) (services : List Service) :
    SafeAllocation (newPortAllocator min max services) ↔ PersistedSound min max services := by
  refine ⟨SafeAllocation.persistedSound, fun h => Sound.safeAllocation ?_⟩
  rw [newPortAllocator_min, newPortAllocator_max]
  exact h.sound

def serviceOf (uid portMap : String) : Service where
  labels := (∅ : GoMap String String).insert Compiled.labelGatewayUID uid
  annotations := (∅ : GoMap String String).insert Compiled.portMapAnnotation portMap

def gatewayA : GatewayUID := ⟨"a", by decide, by decide⟩

def gatewayB : GatewayUID := ⟨"b", by decide, by decide⟩

def webGroup (gateway : GatewayUID) : Group := ⟨gateway, 80, "HTTP"⟩

theorem shared_persisted_port_not_safe :
    ¬ SafeAllocation (newPortAllocator 10000 29999
      [serviceOf "a" "\x7b\"80/HTTP\":10005\x7d", serviceOf "b" "\x7b\"80/HTTP\":10005\x7d"]) := by
  intro h
  have hab := (h [webGroup gatewayA, webGroup gatewayB]).1 (webGroup gatewayA) (webGroup gatewayB)
    10005 (by decide) (by decide)
  exact absurd hab (by decide)

end Krouter.Ports
