import Krouter.ControlPlane.ListenerIsolation
import Krouter.ControlPlane.Parameters

/-! The PROXY protocol preamble of a port. The parameter names own listeners of the Gateway; ports are
shared with those of ListenerSets as well. -/

namespace Krouter.ControlPlane
open Compiled Ports Routing GoString PortAllocator

/-- The order in which a loop happens to visit the keys of a map. -/
structure KeyOrder where
  visit : List String → List String
  perm : ∀ keys, (visit keys).Perm keys

def InfraParams.required (infra : InfraParams) : GoMap String Bool :=
  GoMap.setAll ∅ (infra.proxyProtocolListeners.map (·, true))

def checkNamed (declared : GoMap String ListenerSpec) (name : String) : Except String Unit :=
  match declared[name]? with
  | none => .error ("proxy_protocol names unknown listener " ++ quote name)
  | some lst =>
    if lst.protocol = protocolUDP then .error ("proxy_protocol names UDP listener " ++ quote name)
    else .ok ()

def ListenerSpec.groupText (lst : ListenerSpec) : String :=
  String.ofList (Decimal.itoa lst.port.toInt) ++ "/" ++ lst.protocol

def checkGroups (required : GoMap String Bool) : GoMap String Bool → List ListenerSpec → Except String Unit
  | _, [] => .ok ()
  | groups, lst :: rest =>
    let needed := required.read lst.name false
    if groups[lst.groupText]? = some !needed then
      .error ("listeners sharing port " ++ toString lst.port.toInt ++ " disagree on proxy_protocol")
    else checkGroups required (groups.insert lst.groupText needed) rest

def validateProxyProtocol (order : KeyOrder) (gw : Gateway) (infra : InfraParams) : Except String Unit :=
  if infra.required.toList = [] then .ok ()
  else do
    let declared := GoMap.setAll ∅ (gw.listeners.map fun lst => (lst.name, lst))
    (order.visit (infra.required.toList.map Prod.fst)).forM (checkNamed declared)
    checkGroups infra.required ∅ gw.listeners

theorem required_read (infra : InfraParams) (name : String) :
    infra.required.read name false = infra.proxyProtocolListeners.contains name := by
  rw [GoMap.read, InfraParams.required]
  by_cases hmem : name ∈ infra.proxyProtocolListeners
  · have hentry : (name, true) ∈ infra.proxyProtocolListeners.map (·, true) := List.mem_map_of_mem hmem
    have hsame : ∀ value, (name, true) ∈ infra.proxyProtocolListeners.map (·, true) →
        (name, value) ∈ infra.proxyProtocolListeners.map (·, true) → value = true := by
      intro value _ hvalue
      obtain ⟨_, -, he⟩ := List.mem_map.mp hvalue
      exact (congrArg Prod.snd he).symm
    rw [(GoMap.get_setAll_empty hsame).mpr hentry, Option.getD_some, List.contains_iff_mem.mpr hmem]
  · have hkey : name ∉ (infra.proxyProtocolListeners.map (·, true)).map Prod.fst := by
      simpa using hmem
    rw [GoMap.get_setAll_of_notMem ∅ hkey, GoMap.get_empty, Option.getD_none]
    simpa using hmem

section
variable {required groups : GoMap String Bool} {specs : List ListenerSpec}

theorem checkGroups_agree (h : checkGroups required groups specs = .ok ()) :
    (∀ l ∈ specs, ∀ seen, groups[l.groupText]? = some seen → required.read l.name false = seen) ∧
      ∀ l ∈ specs, ∀ m ∈ specs, l.groupText = m.groupText →
        required.read l.name false = required.read m.name false := by
  induction specs generalizing groups with
  | nil => exact ⟨fun _ hl => (nomatch hl), fun _ hl => (nomatch hl)⟩
  | cons lst rest ih =>
    rw [checkGroups] at h
    split_ifs at h with hseen
    obtain ⟨hgroups, hrest⟩ := ih h
    have hfirst : ∀ l ∈ rest, l.groupText = lst.groupText →
        required.read l.name false = required.read lst.name false := by
      intro l hl hkey
      exact hgroups l hl _ (by rw [hkey, GoMap.get_insert_self])
    have hlst : ∀ seen, groups[lst.groupText]? = some seen → required.read lst.name false = seen := by
      intro seen hs
      rw [hs, Option.some.injEq] at hseen
      rw [Bool.eq_not_of_ne hseen, Bool.not_not]
    constructor
    · intro l hl seen hs
      rcases List.mem_cons.mp hl with rfl | hl
      · exact hlst seen hs
      · by_cases hkey : l.groupText = lst.groupText
        · rw [hfirst l hl hkey]
          exact hlst seen (by rw [← hkey, hs])
        · exact hgroups l hl seen (by rw [GoMap.get_insert_of_ne _ _ (Ne.symm hkey), hs])
    · intro l hl m hm hkey
      rcases List.mem_cons.mp hl with rfl | hl' <;> rcases List.mem_cons.mp hm with rfl | hm'
      · rfl
      · exact (hfirst m hm' hkey.symm).symm
      · exact hfirst l hl' hkey
      · exact hrest l hl' m hm' hkey

end

theorem validateProxyProtocol_agree {order : KeyOrder} {gw : Gateway} {infra : InfraParams}
    (h : validateProxyProtocol order gw infra = .ok ()) {l m : ListenerSpec} (hl : l ∈ gw.listeners)
    (hm : m ∈ gw.listeners) (hport : l.port = m.port) (hprotocol : l.protocol = m.protocol) :
    infra.proxyProtocolListeners.contains l.name = infra.proxyProtocolListeners.contains m.name := by
  rw [← required_read, ← required_read]
  unfold validateProxyProtocol at h
  split_ifs at h with hempty
  · have hnone : ∀ name : String, infra.required[name]? = none := by
      intro name
      rw [Option.eq_none_iff_forall_not_mem]
      intro needed hneeded
      have hmem := GoMap.mem_toList.mpr hneeded
      rw [hempty] at hmem
      cases hmem
    rw [GoMap.read, GoMap.read, hnone, hnone]
  · obtain ⟨_, -, hgroups⟩ := Result.bind_eq_ok.mp h
    refine (checkGroups_agree hgroups).2 l hl m hm ?_
    rw [ListenerSpec.groupText, ListenerSpec.groupText, hport, hprotocol]

/-! ## Ports shared by groups -/

def Recorded (a : PortAllocator) : Prop :=
  ∀ (key : String) (port : Int32), a.assigned[key]? = some port → a.isUsed port = true

/-- What an allocator may have become: its ports are kept, and two keys share a port only if
they did from the start. -/
structure Extends (a b : PortAllocator) : Prop where
  recorded : Recorded b
  kept : ∀ (key : String) (port : Int32), a.assigned[key]? = some port → b.assigned[key]? = some port
  apart : ∀ (key key' : String) (port : Int32), b.assigned[key]? = some port →
    b.assigned[key']? = some port →
    key = key' ∨ a.assigned[key]? = some port ∧ a.assigned[key']? = some port

theorem Extends.refl {a : PortAllocator} (h : Recorded a) : Extends a a where
  recorded := h
  kept _ _ hp := hp
  apart _ _ _ h h' := .inr ⟨h, h'⟩

theorem Extends.record {a b : PortAllocator} (h : Extends a b) {key : String} {port : Int32}
    (hnew : b.assigned[key]? = none) (hfree : b.isUsed port = false) : Extends a (b.record key port) := by
  have hold : ∀ (k : String) (p : Int32), b.assigned[k]? = some p → k ≠ key ∧ p ≠ port := by
    intro k p hk
    constructor
    · rintro rfl
      rw [hnew] at hk
      cases hk
    · rintro rfl
      rw [h.recorded k p hk] at hfree
      cases hfree
  have hcases : ∀ (k : String) (p : Int32), (b.record key port).assigned[k]? = some p →
      k = key ∧ p = port ∨ b.assigned[k]? = some p := by
    intro k p hk
    rw [PortAllocator.record, GoMap.get_insert] at hk
    split_ifs at hk with he
    · exact .inl ⟨he.symm, (Option.some.inj hk).symm⟩
    · exact .inr hk
  refine ⟨fun k p hk => ?_, fun k p hk => ?_, fun k k' p hk hk' => ?_⟩
  · rw [record_isUsed]
    rcases hcases k p hk with ⟨-, rfl⟩ | hk
    · exact .inl rfl
    · exact .inr (h.recorded k p hk)
  · have hb := h.kept k p hk
    rw [PortAllocator.record, GoMap.get_insert_of_ne _ _ (Ne.symm (hold k p hb).1), hb]
  · rcases hcases k p hk with ⟨rfl, rfl⟩ | hb <;> rcases hcases k' p hk' with ⟨rfl, hp⟩ | hb'
    · exact .inl rfl
    · exact absurd rfl (hold k' p hb').2
    · exact absurd hp (hold k p hb).2
    · exact h.apart k k' p hb hb'

section
variable {a b : PortAllocator} {uid protocol : String} {extPort : Int32}

theorem Extends.allocate (h : Extends a b) (uid : String) (extPort : Int32) (protocol : String) :
    Extends a (b.allocate uid extPort protocol).2 := by
  rw [PortAllocator.allocate]
  cases hkey : b.assigned[groupKey uid extPort protocol]? with
  | some port => exact h
  | none =>
    cases hfirst : b.firstFree (b.max + 1 - b.min).toNat b.min with
    | some port => exact h.record hkey (firstFree_some hfirst).1
    | none => exact h

theorem allocate_ok {port : Int32} (h : (b.allocate uid extPort protocol).1 = .ok port) :
    (b.allocate uid extPort protocol).2.assigned[groupKey uid extPort protocol]? = some port := by
  rw [PortAllocator.allocate] at h ⊢
  cases hkey : b.assigned[groupKey uid extPort protocol]? with
  | some p =>
    rw [hkey] at h
    exact hkey.trans (congrArg some (Except.ok.inj h))
  | none =>
    rw [hkey] at h
    dsimp only at h ⊢
    split at h
    · next p hfirst =>
      rw [← Except.ok.inj h, PortAllocator.record, GoMap.get_insert_self]
    · cases h

end

def allocatorAfter (min max : Int) (services : List Service) (earlier : List (String × Int32 × String)) :
    PortAllocator :=
  earlier.foldl (fun a g => (a.allocate g.1 g.2.1 g.2.2).2) (newPortAllocator min max services)

theorem recorded_allocatorAfter (min max : Int) (services : List Service)
    (earlier : List (String × Int32 × String)) : Recorded (allocatorAfter min max services earlier) := by
  have hnew : Recorded (newPortAllocator min max services) := fun key port hp =>
    newPortAllocator_isUsed.mpr ((newPortAllocator_assigned min max).mp hp).reserved
  rw [allocatorAfter]
  generalize newPortAllocator min max services = a at hnew
  induction earlier generalizing a with
  | nil => exact hnew
  | cons g earlier ih => exact ih _ ((Extends.refl hnew).allocate g.1 g.2.1 g.2.2).recorded

variable {p : Platform}

section
variable {w : World} {gw : Gateway} {sets : List ListenerSetState} {a : PortAllocator}

def keyOf (gw : Gateway) (l : ListenerState) : String := groupKey gw.uid l.spec.port l.spec.protocol

theorem keyOf_inj {l m : ListenerState} :
    keyOf gw l = keyOf gw m ↔ l.spec.port = m.spec.port ∧ l.spec.protocol = m.spec.protocol := by
  refine ⟨fun h => ?_, fun h => by rw [keyOf, keyOf, h.1, h.2]⟩
  rw [keyOf, keyOf, groupKey_eq, groupKey_eq] at h
  exact port_slash_inj (append_cancel h)

theorem Extends.validateEach {b : PortAllocator} (h : Extends a b)
    (specs : List (ListenerSpec × Option SetName)) :
    Extends a (ControlPlane.validateEach p w gw specs b).2 := by
  induction specs generalizing b with
  | nil => exact h
  | cons s specs ih =>
    obtain ⟨spec, set⟩ := s
    rw [ControlPlane.validateEach]
    dsimp only
    rw [validateListener_allocator]
    exact ih (h.allocate gw.uid spec.port spec.protocol)

theorem validateEach_assigned {specs : List (ListenerSpec × Option SetName)} {l : ListenerState}
    (ha : Recorded a) (hl : l ∈ (validateEach p w gw specs a).1) (hv : l.valid = true) :
    (validateEach p w gw specs a).2.assigned[keyOf gw l]? = some l.internalPort := by
  induction specs generalizing a with
  | nil => cases hl
  | cons s specs ih =>
    obtain ⟨spec, set⟩ := s
    have hnext : Recorded (validateListener p w gw spec set a).2 := by
      rw [validateListener_allocator]
      exact ((Extends.refl ha).allocate _ _ _).recorded
    rw [validateEach] at hl ⊢
    rcases List.mem_cons.mp hl with rfl | hl
    · have horigin : (validateListener p w gw spec set a).1.origin = (spec, set) := validateListener_origin
      have hkey : keyOf gw (validateListener p w gw spec set a).1 =
          groupKey gw.uid spec.port spec.protocol := by
        rw [keyOf, show (validateListener p w gw spec set a).1.spec = spec from congrArg Prod.fst horigin]
      refine ((Extends.refl hnext).validateEach specs).kept _ _ ?_
      rw [hkey, validateListener_allocator]
      exact allocate_ok (validateListener_valid hv).2
    · exact ih hnext hl

/-- Two valid listeners share a port when they are of one group, or when the annotations
already gave one port to their groups. -/
theorem internalPort_eq_iff (ha : Recorded a) {l m : ListenerState}
    (hl : l ∈ validOnes (validateListeners p w gw sets a).1)
    (hm : m ∈ validOnes (validateListeners p w gw sets a).1) :
    l.internalPort = m.internalPort ↔ (l.spec.port = m.spec.port ∧ l.spec.protocol = m.spec.protocol) ∨
      ∃ port, a.assigned[keyOf gw l]? = some port ∧ a.assigned[keyOf gw m]? = some port := by
  have hext : Extends a (validateEach p w gw (effectiveSpecs gw sets) a).2 :=
    (Extends.refl ha).validateEach _
  have hpl := validateEach_assigned ha (mem_validateEach hl) (mem_validOnes.mp hl).2
  have hpm := validateEach_assigned ha (mem_validateEach hm) (mem_validOnes.mp hm).2
  have hinj : keyOf gw l = keyOf gw m ↔ _ := keyOf_inj
  rw [← hinj]
  constructor
  · intro hport
    rw [← hport] at hpm
    exact (hext.apart _ _ _ hpl hpm).imp_right fun h => ⟨_, h⟩
  · rintro (hkey | ⟨port, hl, hm⟩)
    · rw [hkey] at hpl
      exact Option.some.inj (hpl.symm.trans hpm)
    · rw [hext.kept _ _ hl] at hpl
      rw [hext.kept _ _ hm] at hpm
      exact (Option.some.inj hpl).symm.trans (Option.some.inj hpm)

theorem own_spec_mem {l : ListenerState} (hl : l ∈ (validateListeners p w gw sets a).1)
    (hown : l.set = none) : l.spec ∈ gw.listeners := by
  have horigin := List.mem_map_of_mem (f := ListenerState.origin) hl
  rw [validateListeners_origins, ListenerState.origin, hown, effectiveSpecs] at horigin
  rcases List.mem_append.mp horigin with h | h
  · obtain ⟨spec, hspec, he⟩ := List.mem_map.mp h
    have hspecs : spec = l.spec := congrArg Prod.fst he
    rwa [← hspecs]
  · obtain ⟨set, -, hset⟩ := List.mem_flatMap.mp h
    obtain ⟨spec, -, he⟩ := List.mem_map.mp hset
    cases he

end

variable {gateway : GatewayConfig}

section
variable {trust : List String} {port : Int32}

theorem foldl_openPort (listeners : List Listener) (ports : GoMap Int32 PortTable) :
    ((∃ table, ports[port]? = some table) ∨ (∃ l ∈ listeners, l.internalPort = port) →
      ∃ table, (listeners.foldl (openPort gateway trust) ports)[port]? = some table) ∧
    ∀ table, (listeners.foldl (openPort gateway trust) ports)[port]? = some table →
      (table.proxyProtocol = true ↔ (∃ table, ports[port]? = some table ∧ table.proxyProtocol = true) ∨
        ∃ l ∈ listeners, l.internalPort = port ∧ l.proxyProtocol = true) := by
  induction listeners generalizing ports with
  | nil =>
    refine ⟨fun h => h.resolve_right fun ⟨_, hl, _⟩ => (nomatch hl), fun table ht => ?_⟩
    have ht : ports[port]? = some table := ht
    constructor
    · exact fun h => .inl ⟨table, ht, h⟩
    · rintro (⟨table', ht', h⟩ | ⟨_, hl, _⟩)
      · rwa [Option.some.inj (ht.symm.trans ht')]
      · cases hl
  | cons lst rest ih =>
    rw [List.foldl_cons]
    obtain ⟨hopen, hasks⟩ := ih (openPort gateway trust ports lst)
    by_cases hport : lst.internalPort = port
    · have hget : (openPort gateway trust ports lst)[port]? = some
          { ports.read port (newPort gateway trust lst) with proxyProtocol :=
              (ports.read port (newPort gateway trust lst)).proxyProtocol || lst.proxyProtocol } := by
        rw [openPort, hport, GoMap.get_insert_self]
      refine ⟨fun _ => hopen (.inl ⟨_, hget⟩), fun table ht => (hasks table ht).trans ?_⟩
      have hread : (ports.read port (newPort gateway trust lst)).proxyProtocol = true ↔
          ∃ table, ports[port]? = some table ∧ table.proxyProtocol = true := by
        rw [GoMap.read]
        cases ports[port]? with
        | none => simp [newPort]
        | some old => simp
      simp only [hget, Option.some.injEq, exists_eq_left', Bool.or_eq_true, hread, List.mem_cons,
        exists_eq_or_imp, hport, true_and, or_assoc]
    · have hget : (openPort gateway trust ports lst)[port]? = ports[port]? := by
        rw [openPort, GoMap.get_insert_of_ne _ _ hport]
      rw [hget] at hopen hasks
      simp only [List.mem_cons, exists_eq_or_imp, hport, false_and, false_or]
      exact ⟨hopen, hasks⟩

end

section
variable {generation : String} {routes : List RouteConfig} {secret : Option SecretData}
  {previous : Option GatewayTable} {built : GatewayTable}

theorem buildGatewayTable_proxyProtocol
    (h : buildGatewayTable p generation gateway routes secret previous = .ok built) {l : Listener}
    (hl : l ∈ gateway.listeners) : ∃ table, built.byPort[l.internalPort]? = some table ∧
      (table.proxyProtocol = true ↔
        ∃ m ∈ gateway.listeners, m.internalPort = l.internalPort ∧ m.proxyProtocol = true) := by
  obtain ⟨trust, -, h⟩ := Result.bind_eq_ok.mp h
  obtain ⟨entries, -, h⟩ := Result.bind_eq_ok.mp h
  obtain ⟨client, -, h⟩ := Result.bind_eq_ok.mp h
  cases h
  have hfold := @foldl_openPort gateway trust l.internalPort gateway.listeners ∅
  obtain ⟨table, ht⟩ := hfold.1 (.inr ⟨l, hl, rfl⟩)
  refine ⟨_, (GoMap.get_map ..).trans (congrArg (Option.map _) ht), (hfold.2 table ht).trans ?_⟩
  simp only [GoMap.get_empty, reduceCtorEq, false_and, exists_false, false_or]

end

/-! ## Agreement -/

/-- Listeners of one internal port agree, and every table asks the connections of a listener for a
preamble exactly when the listener does. -/
def PreambleKept (config : GatewayConfig) : Prop :=
  (∀ l ∈ config.listeners, ∀ m ∈ config.listeners, l.internalPort = m.internalPort →
    l.proxyProtocol = m.proxyProtocol) ∧
  ∀ (p : Platform) (generation : String) (routes : List RouteConfig) (secret : Option SecretData)
    (previous : Option GatewayTable) (built : GatewayTable),
    buildGatewayTable p generation config routes secret previous = .ok built →
    ∀ l ∈ config.listeners, ∃ table, built.byPort[l.internalPort]? = some table ∧
      table.proxyProtocol = l.proxyProtocol

theorem preambleKept_iff (config : GatewayConfig) : PreambleKept config ↔
    ∀ l ∈ config.listeners, ∀ m ∈ config.listeners, l.internalPort = m.internalPort →
      l.proxyProtocol = true → m.proxyProtocol = true := by
  refine ⟨fun h l hl m hm hport hasked => (h.1 l hl m hm hport).symm.trans hasked, fun h => ?_⟩
  refine ⟨fun l hl m hm hport => ?_, fun p generation routes secret previous built hbuilt l hl => ?_⟩
  · exact Bool.eq_iff_iff.mpr ⟨h l hl m hm hport, h m hm l hl hport.symm⟩
  · obtain ⟨table, ht, hasks⟩ := buildGatewayTable_proxyProtocol hbuilt hl
    refine ⟨table, ht, Bool.eq_iff_iff.mpr (hasks.trans ⟨?_, fun hasked => ⟨l, hl, rfl, hasked⟩⟩)⟩
    rintro ⟨m, hm, hport, hasked⟩
    exact h m hm l hl hport hasked

def Named (infra : InfraParams) (l : ListenerState) : Prop :=
  l.set = none ∧ l.spec.name ∈ infra.proxyProtocolListeners

/-- No listener of a ListenerSet has the port and protocol of a named one, and no annotation gives the
port of a named one's group to the group of another. -/
structure NamedApart (a : PortAllocator) (gw : Gateway) (infra : InfraParams)
    (listeners : List ListenerState) : Prop where
  sets : ∀ l ∈ validOnes listeners, Named infra l → ∀ m ∈ validOnes listeners, m.set ≠ none →
    ¬ (l.spec.port = m.spec.port ∧ l.spec.protocol = m.spec.protocol)
  annotations : ∀ l ∈ validOnes listeners, Named infra l → ∀ m ∈ validOnes listeners,
    ¬ Named infra m → ∀ port, a.assigned[keyOf gw l]? = some port → a.assigned[keyOf gw m]? ≠ some port

theorem compileListener_proxyProtocol {infra : InfraParams} {l : ListenerState} :
    (compileListener infra l).proxyProtocol = true ↔ Named infra l := by
  rw [compileListener, Named, Bool.and_eq_true, Option.isNone_iff_eq_none, List.contains_iff_mem]

theorem preamble_kept_iff (p : Platform) (w : World) (gw : Gateway) (sets : List ListenerSetState)
    (min max : Int) (services : List Service) (earlier : List (String × Int32 × String))
    (order : KeyOrder) (infra : InfraParams) (clientCert : BackendClientCert)
    (hvalid : validateProxyProtocol order gw infra = .ok ()) :
    PreambleKept (compileGatewayConfig gw infra
      (validateListeners p w gw sets (allocatorAfter min max services earlier)).1 clientCert) ↔
    NamedApart (allocatorAfter min max services earlier) gw infra
      (validateListeners p w gw sets (allocatorAfter min max services earlier)).1 := by
  have ha := recorded_allocatorAfter min max services earlier
  generalize allocatorAfter min max services earlier = a at ha
  have hconfig : PreambleKept (compileGatewayConfig gw infra (validateListeners p w gw sets a).1 clientCert) ↔
      ∀ l ∈ validOnes (validateListeners p w gw sets a).1, ∀ m ∈ validOnes (validateListeners p w gw sets a).1,
        l.internalPort = m.internalPort → Named infra l → Named infra m := by
    rw [preambleKept_iff]
    change (∀ l ∈ (validOnes _).map _, ∀ m ∈ (validOnes _).map _, _) ↔ _
    simp only [List.forall_mem_map, compileListener_proxyProtocol]
    rfl
  rw [hconfig]
  constructor
  · intro h
    refine ⟨fun l hl hnamed m hm hset hgroup => ?_, fun l hl hnamed m hm hnot port hpl hpm => ?_⟩
    · exact hset (h l hl m hm ((internalPort_eq_iff ha hl hm).mpr (Or.inl hgroup)) hnamed).1
    · exact hnot (h l hl m hm ((internalPort_eq_iff ha hl hm).mpr (Or.inr ⟨port, hpl, hpm⟩)) hnamed)
  · intro h l hl m hm hport hnamed
    by_contra hnot
    rcases (internalPort_eq_iff ha hl hm).mp hport with hgroup | ⟨port, hpl, hpm⟩
    · -- within a group the other one is an own listener, which the check has seen
      have hown : m.set = none := not_not.mp fun hset => h.sets l hl hnamed m hm hset hgroup
      have hagree := validateProxyProtocol_agree hvalid
        (own_spec_mem (mem_validOnes.mp hl).1 hnamed.1) (own_spec_mem (mem_validOnes.mp hm).1 hown)
        hgroup.1 hgroup.2
      rw [List.contains_iff_mem.mpr hnamed.2] at hagree
      exact hnot ⟨hown, List.contains_iff_mem.mp hagree.symm⟩
    · exact h.annotations l hl hnamed m hm hnot port hpl hpm

/-! A Gateway whose plain listener asks for the preamble, and a team that adds a hostname of its
own on some port. -/

def ListenerSpec.http (name hostname : String) (port : Int32) : ListenerSpec where
  name := name
  hostname := some hostname
  port := port
  protocol := "HTTP"
  tls := none
  allowedRoutes := none

def preambleGateway : Gateway :=
  { Gateway.small [.http "web" "shop.example.com" 80] none with allowedListeners := some ⟨some "All", none⟩ }

def teamWorld (port : Int32) : World :=
  { World.small with
    listenerSets := [⟨"team", "extra", 0, ⟨none, none, some "shop", "gw", none, none⟩,
      [.http "web" "team.example.com" port]⟩] }

def preambleSource : InfraSource := ⟨1, none, some ⟨["10.0.0.0/8"], some ["web"]⟩⟩

def preambleInfra : InfraParams := ⟨["10.0.0.0/8"], ["web"]⟩

def teamListeners (port : Int32) : List ListenerState :=
  (validateListeners .trusting (teamWorld port) preambleGateway
    (selectListenerSets (teamWorld port) preambleGateway) (allocatorAfter 10000 10010 [] [])).1

instance (infra : InfraParams) (l : ListenerState) : Decidable (Named infra l) :=
  inferInstanceAs (Decidable (_ ∧ _))

theorem separate_port_preamble_kept :
    validateProxyProtocol ⟨id, fun _ => .refl _⟩ preambleGateway preambleInfra = .ok () ∧
    PreambleKept (compileGatewayConfig preambleGateway preambleInfra (teamListeners 8080)
      (.invalid .refNotPermitted "")) := by
  have hvalid : validateProxyProtocol ⟨id, fun _ => .refl _⟩ preambleGateway preambleInfra = .ok () := by
    decide
  refine ⟨hvalid, (preamble_kept_iff .trusting (teamWorld 8080) preambleGateway _ 10000 10010 [] []
    ⟨id, fun _ => .refl _⟩ preambleInfra _ hvalid).mpr ⟨?_, fun l _ _ m _ _ port hl => ?_⟩⟩
  · decide
  · have hempty : (allocatorAfter 10000 10010 [] []).assigned = ∅ := rfl
    rw [hempty, GoMap.get_empty] at hl
    cases hl

theorem shared_port_preamble_imposed :
    (parseInfra .trusting (fun _ => .ok preambleSource) "").map ParsedInfra.toInfraParams = .ok preambleInfra ∧
    validateProxyProtocol ⟨id, fun _ => .refl _⟩ preambleGateway preambleInfra = .ok () ∧
    ((compileGatewayConfig preambleGateway preambleInfra (teamListeners 80)
      (.invalid .refNotPermitted "")).listeners.map fun l => (l.name, l.internalPort, l.proxyProtocol)) =
      [("web", 10000, true), ("team--extra--web", 10000, false)] ∧
    ¬ PreambleKept (compileGatewayConfig preambleGateway preambleInfra (teamListeners 80)
      (.invalid .refNotPermitted "")) := by
  refine ⟨by decide, by decide, by decide, fun h => ?_⟩
  have hagree : ∀ l ∈ (compileGatewayConfig preambleGateway preambleInfra (teamListeners 80)
      (.invalid .refNotPermitted "")).listeners, ∀ m ∈ (compileGatewayConfig preambleGateway preambleInfra
        (teamListeners 80) (.invalid .refNotPermitted "")).listeners,
      l.internalPort = m.internalPort → l.proxyProtocol = m.proxyProtocol := h.1
  exact absurd hagree (by decide)

end Krouter.ControlPlane
