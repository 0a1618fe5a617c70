import Krouter.ControlPlane.SecretKeys
import Krouter.Lib.Fields
import Krouter.Routing.Ownership

/-! Effective listener names join three parts with `--`, which all may contain. Two collide exactly
when cutting their parts at `--` gives the same fields. -/

namespace Krouter.ControlPlane
open Compiled Ports Routing Fields

/-! ## Names -/

def isAlphanumeric (c : Char) : Bool := ('a' ≤ c && c ≤ 'z') || ('0' ≤ c && c ≤ '9')

def validName (s : String) : Bool :=
  s.toList.all (fun c => isAlphanumeric c || c = '-' || c = '.') &&
    s.toList.head?.any isAlphanumeric && s.toList.getLast?.any isAlphanumeric

theorem getLast?_ne_of_validName {s : String} (h : validName s = true) : s.toList.getLast? ≠ some '-' := by
  intro hl
  rw [validName, hl] at h
  simp [isAlphanumeric] at h

structure ListenerKey where
  set : Option SetName
  name : String
  deriving DecidableEq

namespace ListenerKey

def parts (k : ListenerKey) : List String :=
  match k.set with
  | none => [k.name]
  | some set => [set.ns, set.name, k.name]

/-- What is left of the parts when each of them is cut at `--`. -/
def fields (k : ListenerKey) : List (List Char) := k.parts.flatMap fun part => Fields.fields '-' part.toList

def Valid (k : ListenerKey) : Prop := ∀ part ∈ k.parts, validName part = true

end ListenerKey

def ListenerState.key (l : ListenerState) : ListenerKey := ⟨l.set, l.spec.name⟩

theorem fields_effectiveName {l : ListenerState} (h : l.key.Valid) :
    Fields.fields '-' l.effectiveName.toList = l.key.fields := by
  have hdash : "--".toList = ['-', '-'] := by decide
  unfold ListenerState.effectiveName ListenerKey.fields ListenerKey.parts ListenerState.key
  cases hset : l.set with
  | none => simp
  | some set =>
    have hparts : ∀ part ∈ [set.ns, set.name, l.spec.name], validName part = true := by
      simpa [ListenerKey.Valid, ListenerKey.parts, ListenerState.key, hset] using h
    have hns := getLast?_ne_of_validName (hparts set.ns (by simp))
    have hname := getLast?_ne_of_validName (hparts set.name (by simp))
    simp only [String.toList_append, hdash, List.append_assoc, List.cons_append, List.nil_append,
      List.flatMap_cons, List.flatMap_nil, List.append_nil]
    rw [fields_append _ hns, fields_append _ hname]

theorem effectiveName_eq_iff {l m : ListenerState} (hl : l.key.Valid) (hm : m.key.Valid) :
    l.effectiveName = m.effectiveName ↔ l.key.fields = m.key.fields := by
  rw [← fields_effectiveName hl, ← fields_effectiveName hm, (fields_injective '-').eq_iff, String.toList_inj]

/-! ## Attached routes -/

def EntriesOf (p : Platform) (config : GatewayConfig) (secret : Option SecretData) (entries : List Entry) :
    Prop :=
  ∃ start client state, ∃ routes : List RouteConfig,
    (config.listeners.mapM fun lst => do
      let entry ← buildListener p secret lst
      return ((lst.internalPort, entry) : Entry)) = .ok start ∧
    entries = (routes.foldl (buildRoute p client secret) (start, state)).1

theorem EntriesOf.names {p : Platform} {config : GatewayConfig} {secret : Option SecretData}
    {entries : List Entry} (h : EntriesOf p config secret entries) :
    entries.map (fun e => e.2.name) = config.listeners.map Listener.name := by
  obtain ⟨start, client, state, routes, hstart, rfl⟩ := h
  have hbare := congrArg (List.map fun e : Entry => e.2.name)
    (@foldl_buildRoute_bare p secret client routes (start, state))
  rw [List.map_map, List.map_map] at hbare
  refine hbare.trans (Result.map_of_mapM_eq_ok hstart fun lst e he => ?_)
  obtain ⟨entry, hentry, he⟩ := Result.bind_eq_ok.mp he
  cases he
  rw [buildListener_eq hentry]
  rfl

def attach (rt : RouteTable) (e : Entry) : Entry := (e.1, { e.2 with routes := e.2.routes ++ [rt] })

theorem attachRoute_eq_modify (rt : RouteTable) {entries : List Entry}
    (hn : (entries.map fun e => e.2.name).Nodup) {i : Nat} {e : Entry} (hi : entries[i]? = some e) :
    Routing.attachRoute rt e.2.name entries = entries.modify i (attach rt) := by
  induction entries generalizing i with
  | nil => cases hi
  | cons first entries ih =>
    rw [List.map_cons, List.nodup_cons] at hn
    rw [Routing.attachRoute]
    cases i with
    | zero =>
      obtain rfl : first = e := by simpa using hi
      have hrest : entries.all (fun o => o.2.name ≠ first.2.name) = true := by
        rw [List.all_eq_true]
        intro o ho
        exact decide_eq_true fun he => hn.1 (he ▸ List.mem_map_of_mem (f := fun e : Entry => e.2.name) ho)
      rw [if_pos ⟨rfl, hrest⟩]
      rfl
    | succ i =>
      have hmem : e ∈ entries := List.mem_of_getElem? (by simpa using hi)
      have hne : first.2.name ≠ e.2.name := fun he =>
        hn.1 (he ▸ List.mem_map_of_mem (f := fun e : Entry => e.2.name) hmem)
      rw [if_neg fun h => hne h.1, ih hn.2 (by simpa using hi)]
      rfl

/-! ## Unique names -/

def listenerKeys (gw : Gateway) (sets : List ListenerSetState) : List ListenerKey :=
  (effectiveSpecs gw sets).map fun s => ⟨s.2, s.1.name⟩

structure WellNamed (gw : Gateway) (sets : List ListenerSetState) : Prop where
  valid : ∀ k ∈ listenerKeys gw sets, k.Valid
  once : (listenerKeys gw sets).Nodup

/-- Names of different listeners differ, so their material is kept apart and routes attach where they
were admitted. -/
structure UniqueNames (gw : Gateway) (listeners : List ListenerState) : Prop where
  distinct : ∀ l ∈ listeners, ∀ m ∈ listeners, l.key ≠ m.key → l.effectiveName ≠ m.effectiveName
  kept : ∀ clientCert outcomes, ∀ l ∈ validOnes listeners, ∀ k v : String, l.certData[k]? = some v →
    (compileAttachments clientCert listeners outcomes).secretData[k]? = some v
  resolved : ∀ p infra clientCert secret entries,
    EntriesOf p (compileGatewayConfig gw infra listeners clientCert) secret entries →
    ∀ i l, (validOnes listeners)[i]? = some l → ∀ rt,
      Routing.attachRoute rt l.effectiveName entries = entries.modify i (attach rt)

def DistinctFields (keys : List ListenerKey) : Prop :=
  ∀ k ∈ keys, ∀ k' ∈ keys, k ≠ k' → k.fields ≠ k'.fields

variable {p : Platform} {w : World} {gw : Gateway} {sets : List ListenerSetState} {a : PortAllocator}

theorem validateListeners_keys :
    (validateListeners p w gw sets a).1.map ListenerState.key = listenerKeys gw sets := by
  rw [listenerKeys, ← @validateListeners_origins p w gw a sets, List.map_map]
  rfl

theorem mem_listenerKeys {k : ListenerKey} :
    k ∈ listenerKeys gw sets ↔ ∃ l ∈ (validateListeners p w gw sets a).1, l.key = k := by
  rw [← @validateListeners_keys p w gw sets a, List.mem_map]

theorem effectiveName_ne_iff (hw : WellNamed gw sets) :
    (∀ l ∈ (validateListeners p w gw sets a).1, ∀ m ∈ (validateListeners p w gw sets a).1,
      l.key ≠ m.key → l.effectiveName ≠ m.effectiveName) ↔ DistinctFields (listenerKeys gw sets) := by
  have hvalid : ∀ l ∈ (validateListeners p w gw sets a).1, l.key.Valid :=
    fun l hl => hw.valid _ (mem_listenerKeys.mpr ⟨l, hl, rfl⟩)
  constructor
  · intro h k hk k' hk' hne
    obtain ⟨l, hl, rfl⟩ := (@mem_listenerKeys p w gw sets a _).mp hk
    obtain ⟨m, hm, rfl⟩ := (@mem_listenerKeys p w gw sets a _).mp hk'
    exact fun he => h l hl m hm hne ((effectiveName_eq_iff (hvalid l hl) (hvalid m hm)).mpr he)
  · intro h l hl m hm hne he
    exact h l.key (mem_listenerKeys.mpr ⟨l, hl, rfl⟩) m.key (mem_listenerKeys.mpr ⟨m, hm, rfl⟩) hne
      ((effectiveName_eq_iff (hvalid l hl) (hvalid m hm)).mp he)

theorem validNames_nodup (hw : WellNamed gw sets) (hd : DistinctFields (listenerKeys gw sets)) :
    ((validOnes (validateListeners p w gw sets a).1).map ListenerState.effectiveName).Nodup := by
  have hkeys : ((validateListeners p w gw sets a).1.map ListenerState.key).Nodup := by
    rw [validateListeners_keys]
    exact hw.once
  have hall : ((validateListeners p w gw sets a).1.map ListenerState.effectiveName).Nodup := by
    rw [List.Nodup, List.pairwise_map] at hkeys ⊢
    exact hkeys.imp_of_mem fun hl hm hne => (effectiveName_ne_iff hw).mpr hd _ hl _ hm hne
  exact hall.sublist (List.filter_sublist.map _)

/-- Effective names are unique, with all that follows, exactly when no two listeners of a
Gateway have the same fields. -/
theorem uniqueNames_iff_distinctFields (hw : WellNamed gw sets) :
    UniqueNames gw (validateListeners p w gw sets a).1 ↔ DistinctFields (listenerKeys gw sets) := by
  refine ⟨fun h => (effectiveName_ne_iff hw).mp h.distinct, fun hd => ?_⟩
  have hnames := @validNames_nodup p w gw sets a hw hd
  refine ⟨(effectiveName_ne_iff hw).mpr hd, fun clientCert outcomes l hl k v hv => ?_,
    fun p' infra clientCert secret entries he i l hi rt => ?_⟩
  · have hcarries : ∀ l ∈ validOnes (validateListeners p w gw sets a).1, ∃ m, Carries m l :=
      fun l hl => (validateListeners_material hl).imp fun _ hm => hm.2
    obtain ⟨m, hm⟩ := hcarries l hl
    obtain ⟨part, rfl, -⟩ := (certData_get_iff hm).mp hv
    rw [compileAttachments_get_material]
    exact tlsSecretData_keeps hcarries hnames hl hv
  · have hlist : entries.map (fun e => e.2.name) =
        (validOnes (validateListeners p w gw sets a).1).map ListenerState.effectiveName := by
      rw [he.names, compileGatewayConfig, List.map_map]
      rfl
    have hat := congrArg (fun names => names[i]?) hlist
    simp only [List.getElem?_map, hi, Option.map_some] at hat
    obtain ⟨e, hei, hname⟩ := Option.map_eq_some_iff.mp hat
    rw [← hname]
    exact attachRoute_eq_modify rt (hlist ▸ hnames) hei

/-! A Gateway that admits ListenerSets from everywhere, and one of another namespace. -/

def extraSet : ListenerSet where
  ns := "infra"
  name := "extra"
  created := 0
  parentRef := ⟨none, none, some "shop", "gw", none, none⟩
  listeners := [.https "web" "" 8443]

def sharedWorld : World := { World.small with listenerSets := [extraSet] }

def sharedGateway (name : String) (frontendTLS : Option FrontendTLSConfig) : Gateway :=
  { Gateway.small [.https name "" 443] frontendTLS with allowedListeners := some ⟨some fromAll, none⟩ }

def sharedListeners (gw : Gateway) : List ListenerState :=
  (validateListeners .trusting sharedWorld gw (selectListenerSets sharedWorld gw)
    (newPortAllocator 10000 10010 [])).1

theorem own_listener_overwritten :
    WellNamed (sharedGateway "infra--extra--web" none)
      (selectListenerSets sharedWorld (sharedGateway "infra--extra--web" none)) ∧
    (validOnes (sharedListeners (sharedGateway "infra--extra--web" none))).map
      (fun l => (l.key, l.effectiveName)) =
        [(⟨none, "infra--extra--web"⟩, "infra--extra--web"),
          (⟨some ⟨"infra", "extra"⟩, "web"⟩, "infra--extra--web")] ∧
    (validOnes (sharedListeners (sharedGateway "infra--extra--web" none))).map
      (fun l => l.certData["infra--extra--web.tls.key"]?) = [some "shop/tls", some "infra/tls"] ∧
    (compileAttachments (resolveBackendClientCert .trusting sharedWorld (sharedGateway "infra--extra--web" none))
      (sharedListeners (sharedGateway "infra--extra--web" none)) []).secretData["infra--extra--web.tls.key"]? =
        some "infra/tls" ∧
    ¬ UniqueNames (sharedGateway "infra--extra--web" none)
      (sharedListeners (sharedGateway "infra--extra--web" none)) := by
  have hkeys : (validOnes (sharedListeners (sharedGateway "infra--extra--web" none))).map
      (fun l => (l.key, l.effectiveName)) =
        [(⟨none, "infra--extra--web"⟩, "infra--extra--web"),
          (⟨some ⟨"infra", "extra"⟩, "web"⟩, "infra--extra--web")] := by decide
  refine ⟨⟨?_, by decide⟩, hkeys, by decide, by decide, fun h => ?_⟩
  · unfold ListenerKey.Valid
    decide
  · obtain ⟨l, hl, hlk⟩ := List.mem_map.mp (hkeys ▸ List.mem_cons_self)
    obtain ⟨m, hm, hmk⟩ := List.mem_map.mp (hkeys ▸ List.mem_cons_of_mem _ (List.mem_singleton_self _))
    obtain ⟨hl1, hl2⟩ := Prod.mk.inj hlk
    obtain ⟨hm1, hm2⟩ := Prod.mk.inj hmk
    refine h.distinct l (mem_validOnes.mp hl).1 m (mem_validOnes.mp hm).1 ?_ (hl2.trans hm2.symm)
    rw [hl1, hm1]
    decide

theorem web_listeners_unique :
    UniqueNames (sharedGateway "web" none) (sharedListeners (sharedGateway "web" none)) := by
  have hw : WellNamed (sharedGateway "web" none)
      (selectListenerSets sharedWorld (sharedGateway "web" none)) := by
    refine ⟨?_, by decide⟩
    unfold ListenerKey.Valid
    decide
  refine (uniqueNames_iff_distinctFields hw).mpr ?_
  unfold DistinctFields
  decide

end Krouter.ControlPlane
