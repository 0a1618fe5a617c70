import Krouter.ControlPlane.ProxyProtocol
import Krouter.Lib.Precedence
import Mathlib.Data.List.Pairwise

/-! Conflicts between the listeners of a Gateway: the earlier one stands, whatever order the API lists
the ListenerSets in, and every port of the Service stands for one group. -/

namespace Krouter.ControlPlane
open Compiled Frontend GoString Ports PortAllocator Routing

/-! ## Service ports -/

def protoSuffix (protocol : String) : String :=
  if protocol = protocolHTTPS then "https"
  else if protocol = protocolTCP then "tcp"
  else if protocol = protocolUDP then "udp"
  else "http"

def servicePortKey (spec : ListenerSpec) : String :=
  "p" ++ String.ofList (Decimal.itoa spec.port.toInt) ++ "-" ++ protoSuffix spec.protocol

def layer4Protocol (spec : ListenerSpec) : String := if spec.protocol = protocolUDP then "UDP" else "TCP"

structure PortGroups where
  seen : GoMap String PortGroup
  order : List String

def openGroup (groups : PortGroups) (lst : ListenerState) : PortGroups :=
  let key := servicePortKey lst.spec
  match groups.seen[key]? with
  | some _ => groups
  | none =>
    ⟨groups.seen.insert key ⟨key, lst.spec.port, lst.internalPort, 0, layer4Protocol lst.spec⟩,
      groups.order ++ [key]⟩

def requestNodePort (service : ServiceParams) (groups : PortGroups) (lst : ListenerState) : PortGroups :=
  let key := servicePortKey lst.spec
  match lst.set, service.nodePorts[lst.spec.name]?, groups.seen[key]? with
  | none, some requested, some port =>
    { groups with seen := groups.seen.insert key { port with nodePort := requested } }
  | _, _, _ => groups

def groupListener (service : ServiceParams) (groups : PortGroups) (lst : ListenerState) : PortGroups :=
  if lst.valid then requestNodePort service (openGroup groups lst) lst else groups

def desiredServicePorts (listeners : List ListenerState) (service : ServiceParams) : List PortGroup :=
  let groups := listeners.foldl (groupListener service) ⟨∅, []⟩
  (groups.order.insertionSort (· ≤ ·)).filterMap fun key => groups.seen[key]?

/-! ## Conflicts -/

def ListenerState.Conflicts (l m : ListenerState) : Prop :=
  l.spec.port = m.spec.port ∧
    (l.spec.protocol ≠ m.spec.protocol ∨ l.spec.hostname.getD "" = m.spec.hostname.getD "")

theorem conflicts_iff {l m : ListenerState} : l.Conflicts m ↔ ¬ l.claimed.Compatible m.claimed := by
  simp only [ListenerState.Conflicts, ListenerState.claimed, Claimed.Compatible, Classical.not_imp,
    not_and_or, not_not]

theorem conflictReason_isSome {earlier : List Claimed} {c : Claimed} :
    (conflictReason earlier c).isSome = true ↔ ∃ e ∈ earlier, ¬ e.Compatible c := by
  constructor
  · intro h
    by_contra hnone
    push Not at hnone
    have hcompatible : conflictReason earlier c = none := by
      refine List.findSome?_eq_none_iff.mpr fun e he => ?_
      obtain ⟨hmem, hport⟩ := List.mem_filter.mp he
      obtain ⟨hprotocol, hhostname⟩ := hnone e hmem (of_decide_eq_true hport)
      rw [if_neg (not_not.mpr hprotocol), if_neg hhostname]
    rw [hcompatible] at h
    cases h
  · rintro ⟨e, he, hconflict⟩
    by_contra hnone
    exact hconflict (conflictReason_eq_none (Option.not_isSome_iff_eq_none.mp hnone) e he)

def claims (listeners : List ListenerState) : List Claimed :=
  (listeners.filter ListenerState.accepted).map ListenerState.claimed

def settle (earlier : List Claimed) (lst : ListenerState) : ListenerState :=
  if ¬ lst.accepted then lst
  else match conflictReason earlier lst.claimed with
    | some reason => resolveRouteKinds ({ lst with conflicted := true }.reject reason)
    | none => lst

section
variable {earlier : List Claimed} {l : ListenerState}

theorem settle_of_rejected (h : l.accepted = false) : settle earlier l = l := by
  simp [settle, h]

theorem settle_accepted (h : l.accepted = true) :
    (settle earlier l).accepted = false ↔ ∃ e ∈ earlier, ¬ e.Compatible l.claimed := by
  rw [← conflictReason_isSome, settle, if_neg (not_not.mpr h)]
  cases hreason : conflictReason earlier l.claimed with
  | none => simp [h]
  | some reason => simp [resolveRouteKinds_accepted, ListenerState.reject]

theorem settle_eq (h : (settle earlier l).accepted = true) : settle earlier l = l := by
  cases ha : l.accepted with
  | false => exact settle_of_rejected ha
  | true =>
    rw [settle, if_neg (not_not.mpr ha)] at h ⊢
    cases hreason : conflictReason earlier l.claimed with
    | none => rfl
    | some reason =>
      rw [hreason] at h
      simp [resolveRouteKinds_accepted, ListenerState.reject] at h

theorem rejectConflicting_cons (earlier : List Claimed) (l : ListenerState) (ls : List ListenerState) :
    rejectConflicting earlier (l :: ls) =
      settle earlier l :: rejectConflicting (earlier ++ claims [settle earlier l]) ls := by
  rw [rejectConflicting, settle]
  cases ha : l.accepted with
  | false => simp [claims, ha]
  | true =>
    cases hreason : conflictReason earlier l.claimed with
    | none => simp [claims, ha]
    | some reason => simp [claims, resolveRouteKinds_accepted, ListenerState.reject]

theorem claims_append (ls ms : List ListenerState) : claims (ls ++ ms) = claims ls ++ claims ms := by
  simp [claims]

theorem rejectConflicting_append (earlier : List Claimed) (ls ms : List ListenerState) :
    rejectConflicting earlier (ls ++ ms) = rejectConflicting earlier ls ++
      rejectConflicting (earlier ++ claims (rejectConflicting earlier ls)) ms := by
  induction ls generalizing earlier with
  | nil => simp [rejectConflicting, claims]
  | cons l ls ih =>
    rw [List.cons_append, rejectConflicting_cons, rejectConflicting_cons, ih, List.cons_append,
      List.append_assoc, ← claims_append]
    rfl

end

/-- What the pass owes to the listeners it was given, in their order of precedence. -/
structure Settled (before after : List ListenerState) : Prop where
  origins : after.map ListenerState.origin = before.map ListenerState.origin
  /-- A listener that is still accepted, or was not before, is as it was. -/
  unchanged : ∀ (i : ℕ) (l l' : ListenerState), before[i]? = some l → after[i]? = some l' →
    l'.accepted = true ∨ l.accepted = false → l' = l
  compatible : (after.filter ListenerState.accepted).Pairwise fun l m => ¬ l.Conflicts m
  rejected : ∀ (i : ℕ) (l l' : ListenerState), before[i]? = some l → after[i]? = some l' →
    l.accepted = true → (l'.accepted = false ↔
      ∃ j < i, ∃ m, after[j]? = some m ∧ m.accepted = true ∧ m.Conflicts l)

theorem length_rejectConflicting (earlier : List Claimed) (ls : List ListenerState) :
    (rejectConflicting earlier ls).length = ls.length := by
  simpa using congrArg List.length (rejectConflicting_origins earlier ls)

theorem rejectConflicting_get {ls : List ListenerState} {i : ℕ} {l l' : ListenerState}
    (hl : ls[i]? = some l) (hl' : (rejectConflicting [] ls)[i]? = some l') :
    l' = settle (claims ((rejectConflicting [] ls).take i)) l := by
  have hsplit : ls = ls.take i ++ l :: ls.drop (i + 1) := by
    conv_lhs => rw [← List.take_append_drop i ls]
    rw [List.drop_eq_getElem?_toList_append, hl]
    rfl
  have hi : i < ls.length := (List.getElem?_eq_some_iff.mp hl).1
  have hlen : (rejectConflicting [] (ls.take i)).length = i := by
    rw [length_rejectConflicting, List.length_take, min_eq_left hi.le]
  have hrun : rejectConflicting [] ls = rejectConflicting [] (ls.take i) ++
      rejectConflicting (claims (rejectConflicting [] (ls.take i))) (l :: ls.drop (i + 1)) := by
    conv_lhs => rw [hsplit]
    rw [rejectConflicting_append]
    rfl
  rw [hrun, rejectConflicting_cons] at hl'
  rw [List.getElem?_append_right hlen.le, hlen, Nat.sub_self, List.getElem?_cons_zero] at hl'
  have htake : (rejectConflicting [] ls).take i = rejectConflicting [] (ls.take i) := by
    rw [hrun, List.take_left' hlen]
  rw [htake]
  exact (Option.some.inj hl').symm

theorem mem_claims_take {ls : List ListenerState} {i : ℕ} {l : ListenerState} :
    (∃ e ∈ claims (ls.take i), ¬ e.Compatible l.claimed) ↔
      ∃ j < i, ∃ m, ls[j]? = some m ∧ m.accepted = true ∧ m.Conflicts l := by
  constructor
  · rintro ⟨e, he, hconflict⟩
    obtain ⟨m, hm, rfl⟩ := List.mem_map.mp he
    obtain ⟨hmem, haccepted⟩ := List.mem_filter.mp hm
    obtain ⟨j, hj⟩ := List.mem_iff_getElem?.mp hmem
    rw [List.getElem?_take] at hj
    split_ifs at hj with hji
    exact ⟨j, hji, m, hj, haccepted, conflicts_iff.mpr hconflict⟩
  · rintro ⟨j, hji, m, hj, haccepted, hconflict⟩
    have hmem : m ∈ ls.take i :=
      List.mem_iff_getElem?.mpr ⟨j, by rw [List.getElem?_take, if_pos hji, hj]⟩
    exact ⟨m.claimed, List.mem_map_of_mem (List.mem_filter.mpr ⟨hmem, haccepted⟩),
      conflicts_iff.mp hconflict⟩

theorem settled_rejectConflictingListeners (ls : List ListenerState) :
    Settled ls (rejectConflictingListeners ls) where
  origins := rejectConflicting_origins [] ls
  unchanged i l l' hl hl' h := by
    have hsettle := rejectConflicting_get hl hl'
    rcases h with haccepted | hrejected
    · rw [hsettle] at haccepted ⊢
      exact settle_eq haccepted
    · rw [hsettle, settle_of_rejected hrejected]
  compatible := (rejectConflicting_accepted [] ls).2.1.imp fun h hconflict =>
    conflicts_iff.mp hconflict h
  rejected i l l' hl hl' haccepted := by
    rw [rejectConflicting_get hl hl', settle_accepted haccepted]
    exact mem_claims_take

/-! ## The order of the ListenerSets -/

def setName (set : ListenerSet) : String := nsName set.ns set.name

theorem selectListenerSets_eq (w : World) (gw : Gateway) : selectListenerSets w gw =
    Precedence.sort (fun state => state.set.created) (fun state => setName state.set)
      ((w.listenerSets.filter fun set => parentGatewayMatches set gw).map fun set =>
        ⟨set, listenerSetAllowed gw set w.namespaces⟩) := by
  congr

section
variable {w : World} {sets : List ListenerSet} {gw : Gateway}

theorem selectListenerSets_perm (hnames : (w.listenerSets.map setName).Nodup)
    (hperm : sets.Perm w.listenerSets) :
    selectListenerSets { w with listenerSets := sets } gw = selectListenerSets w gw := by
  rw [selectListenerSets_eq, selectListenerSets_eq]
  refine (Precedence.sort_eq_of_perm ?_ ((hperm.filter _).map _).symm).symm
  rw [List.map_map]
  exact hnames.sublist (List.filter_sublist.map setName)

variable (p : Platform)

theorem resolveCertificateRefs_sets (owner : RefOwner) (refs : List SecretRef) (l : ListenerState) :
    resolveCertificateRefs p { w with listenerSets := sets } owner l refs =
      resolveCertificateRefs p w owner l refs := by
  induction refs generalizing l with
  | nil => rfl
  | cons ref refs ih =>
    have hone : resolveCertificateRef p { w with listenerSets := sets } owner ref =
        resolveCertificateRef p w owner ref := rfl
    rw [resolveCertificateRefs, resolveCertificateRefs, hone]
    cases resolveCertificateRef p w owner ref with
    | error err => rfl
    | ok cert => exact ih _

theorem validateListener_sets (spec : ListenerSpec) (set : Option SetName) (a : PortAllocator) :
    validateListener p { w with listenerSets := sets } gw spec set a =
      validateListener p w gw spec set a := by
  have hcerts : resolveCertificates p { w with listenerSets := sets } gw = resolveCertificates p w gw := by
    funext l
    simp only [resolveCertificates, resolveCertificateRefs_sets]
  have hfrontend : resolveFrontendValidation p { w with listenerSets := sets } gw =
      resolveFrontendValidation p w gw := rfl
  have hrefs : resolveRefs p { w with listenerSets := sets } gw = resolveRefs p w gw := by
    funext l
    unfold resolveRefs resolveKeyPair
    rw [hcerts, hfrontend]
  unfold validateListener
  rw [hrefs]

theorem validateEach_sets (specs : List (ListenerSpec × Option SetName)) (a : PortAllocator) :
    validateEach p { w with listenerSets := sets } gw specs a = validateEach p w gw specs a := by
  induction specs generalizing a with
  | nil => rfl
  | cons s specs ih =>
    obtain ⟨spec, set⟩ := s
    rw [validateEach, validateEach, validateListener_sets]
    simp only [ih]

end

/-! ## Grouping -/

structure PortGroup.Exposes (port : PortGroup) (l : ListenerState) : Prop where
  external : port.externalPort = l.spec.port
  layer4 : port.protocol = layer4Protocol l.spec
  internal : port.internalPort = l.internalPort

structure Grouped (ls : List ListenerState) (groups : PortGroups) : Prop where
  nodup : groups.order.Nodup
  mem_order : ∀ key, key ∈ groups.order ↔ ∃ l ∈ ls, l.valid = true ∧ servicePortKey l.spec = key
  mem_seen : ∀ key, groups.seen[key]?.isSome = true ↔ key ∈ groups.order
  opened : ∀ key port, groups.seen[key]? = some port → port.name = key ∧
    ∃ l ∈ ls, l.valid = true ∧ servicePortKey l.spec = key ∧ PortGroup.Exposes port l

theorem grouped_nil : Grouped [] ⟨∅, []⟩ where
  nodup := List.nodup_nil
  mem_order key := by simp
  mem_seen key := by simp
  opened key port h := by
    rw [GoMap.get_empty] at h
    cases h

section
variable {ls : List ListenerState} {groups : PortGroups} {l : ListenerState}

theorem Grouped.skip (h : Grouped ls groups) (hl : l.valid = false) : Grouped (ls ++ [l]) groups where
  nodup := h.nodup
  mem_order key := by
    rw [h.mem_order]
    simp [hl, or_and_right, exists_or]
  mem_seen := h.mem_seen
  opened key port hport := by
    obtain ⟨hname, m, hm, hrest⟩ := h.opened key port hport
    exact ⟨hname, m, List.mem_append_left _ hm, hrest⟩

theorem Grouped.openGroup (h : Grouped ls groups) (hl : l.valid = true) :
    Grouped (ls ++ [l]) (openGroup groups l) := by
  have hopened : ∀ key port, groups.seen[key]? = some port → port.name = key ∧
      ∃ m ∈ ls ++ [l], m.valid = true ∧ servicePortKey m.spec = key ∧ PortGroup.Exposes port m := by
    intro key port hport
    obtain ⟨hname, m, hm, hrest⟩ := h.opened key port hport
    exact ⟨hname, m, List.mem_append_left _ hm, hrest⟩
  have hmem : ∀ key, (∃ m ∈ ls ++ [l], m.valid = true ∧ servicePortKey m.spec = key) ↔
      key ∈ groups.order ∨ servicePortKey l.spec = key := by
    intro key
    rw [h.mem_order]
    simp [hl, or_and_right, exists_or]
  unfold ControlPlane.openGroup
  dsimp only
  cases hseen : groups.seen[servicePortKey l.spec]? with
  | some port =>
    have hkey : servicePortKey l.spec ∈ groups.order := (h.mem_seen _).mp (by rw [hseen]; rfl)
    refine ⟨h.nodup, fun key => ?_, h.mem_seen, hopened⟩
    rw [hmem, iff_self_or]
    rintro rfl
    exact hkey
  | none =>
    have hkey : servicePortKey l.spec ∉ groups.order := by
      rw [← h.mem_seen, hseen]
      exact Bool.false_ne_true
    refine ⟨?_, fun key => ?_, fun key => ?_, fun key port hport => ?_⟩
    · refine List.nodup_append.mpr ⟨h.nodup, List.nodup_singleton _, fun a ha b hb hab => ?_⟩
      rw [List.mem_singleton.mp hb] at hab
      exact hkey (hab ▸ ha)
    · rw [hmem, List.mem_append, List.mem_singleton, eq_comm (a := key)]
    · rw [GoMap.get_insert, List.mem_append, List.mem_singleton, ← h.mem_seen]
      split_ifs with he
      · simp [he]
      · simp [Ne.symm he]
    · rw [GoMap.get_insert] at hport
      split_ifs at hport with he
      · obtain rfl := Option.some.inj hport
        exact ⟨he, l, by simp, hl, he, rfl, rfl, rfl⟩
      · exact hopened key port hport

theorem Grouped.requestNodePort (h : Grouped ls groups) (service : ServiceParams) (l : ListenerState) :
    Grouped ls (requestNodePort service groups l) := by
  unfold ControlPlane.requestNodePort
  dsimp only
  split
  · next requested port _ _ hseen =>
    refine ⟨h.nodup, h.mem_order, fun key => ?_, fun key other hother => ?_⟩
    · rw [← h.mem_seen, GoMap.get_insert]
      split_ifs with he
      · rw [← he, hseen]
        rfl
      · rfl
    · rw [GoMap.get_insert] at hother
      split_ifs at hother with he
      · obtain rfl := Option.some.inj hother
        obtain ⟨hname, m, hm, hv, hk, hexposes⟩ := h.opened _ _ hseen
        exact ⟨hname.trans he, m, hm, hv, hk.trans he, hexposes.external, hexposes.layer4,
          hexposes.internal⟩
      · exact h.opened key other hother
  · exact h

theorem Grouped.step (h : Grouped ls groups) (service : ServiceParams) (l : ListenerState) :
    Grouped (ls ++ [l]) (groupListener service groups l) := by
  rw [groupListener]
  split_ifs with hl
  · exact (h.openGroup hl).requestNodePort service l
  · exact h.skip (Bool.not_eq_true _ ▸ hl)

theorem grouped_foldl (service : ServiceParams) (ls : List ListenerState) :
    Grouped ls (ls.foldl (groupListener service) ⟨∅, []⟩) := by
  induction ls using List.reverseRecOn with
  | nil => exact grouped_nil
  | append_singleton ls l ih =>
    rw [List.foldl_append]
    exact ih.step service l

end

theorem dash_notMem_protoSuffix (protocol : String) : '-' ∉ (protoSuffix protocol).toList := by
  unfold protoSuffix
  split_ifs <;> decide

theorem servicePortKey_port {s t : ListenerSpec} (h : servicePortKey s = servicePortKey t) :
    s.port = t.port := by
  obtain ⟨hdigits, -⟩ := joined_inj rfl (.inr ⟨dash_notMem_protoSuffix _, dash_notMem_protoSuffix _⟩) h
  exact Int32.toInt_inj.mp (Decimal.itoa_injective (String.ofList_injective (append_cancel hdigits)))

structure Served (listeners : List ListenerState) (ports : List PortGroup) : Prop where
  covered : ∀ l ∈ validOnes listeners, ∃! port, port ∈ ports ∧ PortGroup.Exposes port l
  needed : ∀ port ∈ ports, ∃ l ∈ validOnes listeners, PortGroup.Exposes port l
  distinct : ports.Pairwise fun s t =>
    (s.externalPort, s.protocol) ≠ (t.externalPort, t.protocol) ∧ s.name ≠ t.name

def OneGroup (ls : List ListenerState) : Prop :=
  ∀ l ∈ ls, ∀ m ∈ ls, l.spec.port = m.spec.port →
    l.spec.protocol = m.spec.protocol ∧ l.internalPort = m.internalPort

section
variable {listeners : List ListenerState} {service : ServiceParams}

theorem Grouped.mem_ports {groups : PortGroups} (h : Grouped listeners groups) {port : PortGroup} :
    port ∈ (groups.order.insertionSort (· ≤ ·)).filterMap (fun key => groups.seen[key]?) ↔
      groups.seen[port.name]? = some port := by
  rw [List.mem_filterMap]
  constructor
  · rintro ⟨key, -, hport⟩
    rwa [(h.opened key port hport).1]
  · intro hport
    refine ⟨port.name, (List.mem_insertionSort _).mpr ((h.mem_seen _).mp ?_), hport⟩
    rw [hport]
    rfl

theorem Grouped.names_nodup {groups : PortGroups} (h : Grouped listeners groups) :
    (((groups.order.insertionSort (· ≤ ·)).filterMap fun key => groups.seen[key]?).map
      PortGroup.name).Nodup := by
  have hnodup : (groups.order.insertionSort (· ≤ ·)).Nodup :=
    (List.perm_insertionSort _ _).nodup_iff.mpr h.nodup
  rw [List.map_filterMap]
  refine List.Nodup.filterMap (fun a b name ha hb => ?_) hnodup
  obtain ⟨s, hs, rfl⟩ := Option.map_eq_some_iff.mp ha
  obtain ⟨t, ht, hname⟩ := Option.map_eq_some_iff.mp hb
  rw [← (h.opened a s hs).1, ← (h.opened b t ht).1, hname]

theorem served_desiredServicePorts (hgroup : OneGroup (validOnes listeners)) :
    Served listeners (desiredServicePorts listeners service) := by
  have hgrouped := grouped_foldl service listeners
  unfold desiredServicePorts
  generalize listeners.foldl (groupListener service) ⟨∅, []⟩ = groups at hgrouped
  have hneeded : ∀ port, groups.seen[port.name]? = some port → ∃ l ∈ validOnes listeners,
      servicePortKey l.spec = port.name ∧ PortGroup.Exposes port l := by
    intro port hport
    obtain ⟨-, l, hl, hv, hk, hexposes⟩ := hgrouped.opened _ _ hport
    exact ⟨l, mem_validOnes.mpr ⟨hl, hv⟩, hk, hexposes⟩
  -- two ports for one external port are opened by listeners of one group, so under one name
  have hsame : ∀ s t : PortGroup, groups.seen[s.name]? = some s → groups.seen[t.name]? = some t →
      s.externalPort = t.externalPort → s = t := by
    intro s t hs ht hexternal
    obtain ⟨l, hl, hlk, hsl⟩ := hneeded s hs
    obtain ⟨m, hm, hmk, htm⟩ := hneeded t ht
    have hport : l.spec.port = m.spec.port := by rw [← hsl.external, ← htm.external, hexternal]
    have hname : s.name = t.name := by
      rw [← hlk, ← hmk, servicePortKey, servicePortKey, hport, (hgroup l hl m hm hport).1]
    rw [hname, ht] at hs
    exact (Option.some.inj hs).symm
  refine ⟨fun l hl => ?_, fun port hport => ?_, ?_⟩
  · obtain ⟨hmem, hv⟩ := mem_validOnes.mp hl
    have hkey := (hgrouped.mem_seen _).mpr ((hgrouped.mem_order _).mpr ⟨l, hmem, hv, rfl⟩)
    obtain ⟨port, hport⟩ := Option.isSome_iff_exists.mp hkey
    obtain ⟨hname, m, hm, hmv, hmk, hexposes⟩ := hgrouped.opened _ _ hport
    have hspec : l.spec.port = m.spec.port := (servicePortKey_port hmk).symm
    obtain ⟨hprotocol, hinternal⟩ := hgroup l hl m (mem_validOnes.mpr ⟨hm, hmv⟩) hspec
    rw [← hname] at hport
    refine ⟨port, ⟨hgrouped.mem_ports.mpr hport, hexposes.external.trans hspec.symm, ?_,
      hexposes.internal.trans hinternal.symm⟩, fun other hother => ?_⟩
    · rw [hexposes.layer4, layer4Protocol, layer4Protocol, hprotocol]
    · refine hsame _ _ (hgrouped.mem_ports.mp hother.1) hport ?_
      rw [hother.2.external, hexposes.external, hspec]
  · obtain ⟨l, hl, -, hexposes⟩ := hneeded port (hgrouped.mem_ports.mp hport)
    exact ⟨l, hl, hexposes⟩
  · have hnames := List.pairwise_map.mp hgrouped.names_nodup
    refine hnames.imp_of_mem fun hs ht hne => ⟨fun hpair => hne ?_, hne⟩
    rw [hsame _ _ (hgrouped.mem_ports.mp hs) (hgrouped.mem_ports.mp ht) (Prod.mk.inj hpair).1]

end

/-! ## The listeners of a pass -/

theorem oneGroup_validateListeners {p : Platform} {w : World} {gw : Gateway}
    {sets : List ListenerSetState} {a : PortAllocator} (ha : Recorded a) :
    OneGroup (validOnes (validateListeners p w gw sets a).1) := by
  intro l hl m hm hport
  have hsymm : Std.Symm fun x y : ListenerState =>
      x.spec.port = y.spec.port → x.spec.protocol = y.spec.protocol :=
    ⟨fun _ _ hxy he => (hxy he.symm).symm⟩
  have hpairs : (validOnes (validateListeners p w gw sets a).1).Pairwise fun x y =>
      x.spec.port = y.spec.port → x.spec.protocol = y.spec.protocol :=
    (rejectConflictingListeners_compatible _).imp fun hcompatible he => (hcompatible he).1
  have hprotocol : l.spec.protocol = m.spec.protocol :=
    List.Pairwise.forall_of_forall (fun _ _ _ => rfl) hpairs hl hm hport
  exact ⟨hprotocol, (internalPort_eq_iff ha hl hm).mpr (.inl ⟨hport, hprotocol⟩)⟩

def InPrecedence (states : List ListenerSetState) : Prop :=
  states.Pairwise (Precedence.Precedes (fun state => state.set.created) fun state => setName state.set)

/-- The Gateway's listeners against those of its ListenerSets, in a pass that has served others before;
`sets` is another order of the same ListenerSets. -/
theorem conflicts_settled (p : Platform) (w : World) (gw : Gateway) (service : ServiceParams)
    (min max : Int) (services : List Service) (earlier : List (String × Int32 × String))
    (sets : List ListenerSet) (hnames : (w.listenerSets.map setName).Nodup)
    (hperm : sets.Perm w.listenerSets) :
    let a := allocatorAfter min max services earlier
    let selected := selectListenerSets w gw
    let before := (validateEach p w gw (effectiveSpecs gw selected) a).1
    let after := (validateListeners p w gw selected a).1
    InPrecedence selected ∧ before.map ListenerState.origin = effectiveSpecs gw selected ∧
      Settled before after ∧
      validateListeners p { w with listenerSets := sets } gw
        (selectListenerSets { w with listenerSets := sets } gw) a = validateListeners p w gw selected a ∧
      Served after (desiredServicePorts after service) := by
  intro a selected before after
  refine ⟨?_, validateEach_origins _ _, settled_rejectConflictingListeners _, ?_, ?_⟩
  · have hsorted : selected = _ := selectListenerSets_eq w gw
    rw [hsorted]
    exact Precedence.pairwise_sort _
  · unfold validateListeners
    rw [selectListenerSets_perm hnames hperm, validateEach_sets]
  · exact served_desiredServicePorts (oneGroup_validateListeners (recorded_allocatorAfter min max services earlier))

/-! Two teams ask for one hostname, and a third for another protocol on the port. -/

def teamSet (name : String) (created : Int) (spec : ListenerSpec) : ListenerSet :=
  ⟨"team", name, created, ⟨none, none, some "shop", "gw", none, none⟩, [spec]⟩

def contendingSets : List ListenerSet :=
  [teamSet "late" 2 (.http "web" "team.example.com" 80),
    teamSet "plain" 1 { ListenerSpec.http "tcp" "" 80 with protocol := "TCP" },
    teamSet "early" 1 (.http "web" "team.example.com" 80)]

def contendingWorld : World := { World.small with listenerSets := contendingSets }

theorem contention_settled :
    ((validateListeners .trusting contendingWorld preambleGateway
        (selectListenerSets contendingWorld preambleGateway) (allocatorAfter 10000 10010 [] [])).1.map
      fun l => (l.effectiveName, l.accepted, l.internalPort)) =
      [("web", true, 10000), ("team--early--web", true, 10000), ("team--plain--tcp", false, 10001),
        ("team--late--web", false, 10000)] ∧
    desiredServicePorts (validateListeners .trusting contendingWorld preambleGateway
        (selectListenerSets contendingWorld preambleGateway) (allocatorAfter 10000 10010 [] [])).1
      ⟨"NodePort", "Local", none, ∅, (∅ : GoMap String Int32).insert "web" 30080⟩ =
      [⟨"p80-http", 80, 10000, 30080, "TCP"⟩] ∧
    validateListeners .trusting { contendingWorld with listenerSets := contendingSets.reverse }
        preambleGateway (selectListenerSets { contendingWorld with listenerSets := contendingSets.reverse }
          preambleGateway) (allocatorAfter 10000 10010 [] []) =
      validateListeners .trusting contendingWorld preambleGateway
        (selectListenerSets contendingWorld preambleGateway) (allocatorAfter 10000 10010 [] []) := by
  refine ⟨by decide, by decide, ?_⟩
  have hsettled := conflicts_settled .trusting contendingWorld preambleGateway
    ⟨"NodePort", "Local", none, ∅, ∅⟩ 10000 10010 [] [] contendingSets.reverse (by decide)
    (List.reverse_perm _)
  exact hsettled.2.2.2.1

end Krouter.ControlPlane
