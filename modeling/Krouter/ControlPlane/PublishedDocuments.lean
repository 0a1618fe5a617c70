import Krouter.ControlPlane.ListedExtensions
import Krouter.ControlPlane.BackendGrants

/-! The extensions of routes, up to the Secret of the generation: an accepted route has every list in
its rules, and the document of a rule's identity is published with it. -/

namespace Krouter.ControlPlane
open Compiled Routing Attempt Idempotence

/-! ## Routes -/

def Route.extensionLists : Route → List (List LocalObjectReference)
  | .http route => route.rules.map fun rule => extensionRefs rule.filters
  | .grpc route => route.rules.map fun rule => extensionRefs (rule.filters.map GRPCRouteFilter.toHTTP)
  | .tcp route => route.rules.map fun _ => []
  | .tls route => route.rules.map fun _ => []
  | .udp route => route.rules.map fun _ => []

structure RulesExtended {D : Type} (docs : Documents D) (p : Platform) (w : Snapshot) (ns : String)
    (lists : List (List LocalObjectReference)) (s : RouteOutcome) (rules : List Rule) (t : RouteOutcome) :
    Prop where
  listed : List.Forall₂ (fun refs c => ∃ ext, Listed docs p w ns refs t ext ∧ Enforces c ext) lists rules
  documents : ∀ identity payload : String, t.authDocs[identity]? = some payload →
    s.authDocs[identity]? = some payload ∨ ∃ refs ∈ lists, DocumentOf docs p w ns refs identity payload

variable {D : Type} {docs : Documents D} {p : Platform} {w : Snapshot}

section
variable {ns : String} {s t : RouteOutcome} {rules : List Rule}

theorem RulesExtended.nil (s : RouteOutcome) : RulesExtended docs p w ns [] s [] s :=
  ⟨.nil, fun _ _ h => .inl h⟩

theorem RulesExtended.cons {refs : List LocalObjectReference} {lists : List (List LocalObjectReference)}
    {c : Rule} {r : RouteOutcome} (hfirst : Extended docs p w ns refs s c r)
    (hrest : RulesExtended docs p w ns lists r rules t) (hlater : Reports r t) :
    RulesExtended docs p w ns (refs :: lists) s (c :: rules) t := by
  obtain ⟨ext, hlisted, henforces⟩ := hfirst.listed
  refine ⟨.cons ⟨ext, hlisted.mono hlater, henforces⟩ hrest.listed, fun identity payload hpayload => ?_⟩
  rcases hrest.documents identity payload hpayload with hearlier | ⟨list, hlist, hdocument⟩
  · exact (hfirst.documents identity payload hearlier).imp_right fun h => ⟨refs, (.head _), h⟩
  · exact .inr ⟨list, .tail _ hlist, hdocument⟩

theorem mapM_extended {α : Type} {f : α → Compiler Rule} {refsOf : α → List LocalObjectReference}
    (hf : ∀ a s c t, eval (f a) s = (.ok c, t) → Extended docs p w ns (refsOf a) s c t)
    (hkeep : ∀ a, Keeps Progress (f a)) {sources : List α}
    (h : eval (sources.mapM f) s = (.ok rules, t)) :
    RulesExtended docs p w ns (sources.map refsOf) s rules t := by
  induction sources generalizing s rules with
  | nil =>
    cases h
    exact .nil t
  | cons source sources ih =>
    obtain ⟨c, rest, r, hfirst, hrest, rfl⟩ := mapM_cons_ok.mp h
    exact (ih hrest).cons (hf source s c r hfirst) ((Keeps.mapM hkeep sources).of_eval hrest).toReports

theorem compileL4Route_extended {kind : String} {route : RouteMeta} {hostnames : List String}
    {sources : List (List BackendRef)} {admitted : List ListenerState} {config : RouteConfig}
    (h : eval (compileL4Route w kind route hostnames sources admitted) s = (.ok config, t)) :
    RulesExtended docs p w route.ns (sources.map fun _ => []) s config.rules t := by
  match sources, h with
  | [refs], h =>
    obtain ⟨rule, r, hrule, h⟩ := bind_ok.mp h
    cases h
    exact (RulesExtended.nil t).cons (compileL4Rule_extended hrule) ⟨id, fun _ => id⟩
  | [], h => cases h
  | _ :: _ :: _, h => cases h

theorem Route.compile_extended {route : Route} {admitted : List ListenerState} {config : RouteConfig}
    (h : eval (route.compile docs p w admitted) s = (.ok config, t)) :
    RulesExtended docs p w route.meta.ns route.extensionLists s config.rules t := by
  cases route with
  | http route =>
    obtain ⟨rules, r, hrules, h⟩ := bind_ok.mp h
    cases h
    exact mapM_extended (fun _ _ _ _ => compileHTTPRule_extended) keeps_compileHTTPRule hrules
  | grpc route =>
    obtain ⟨rules, r, hrules, h⟩ := bind_ok.mp h
    cases h
    exact mapM_extended (fun _ _ _ _ => compileGRPCRule_extended) keeps_compileGRPCRule hrules
  | tcp route => exact compileL4Route_extended h
  | tls route => exact compileL4Route_extended h
  | udp route => exact compileL4Route_extended h

end

section
variable {gw : Gateway} {listeners : List ListenerState} {parentRef : ParentReference} {route : Route}
  {config : RouteConfig}

theorem attach_extended (h : (route.attach docs p w gw listeners parentRef).1.config = some config) :
    RulesExtended docs p w route.meta.ns route.extensionLists (.rejected .unsupportedValue) config.rules
      (route.attach docs p w gw listeners parentRef).1 := by
  rw [attach_eq] at h ⊢
  unfold attachByHostname at h ⊢
  split at h
  · cases h
  · dsimp only at h ⊢
    split_ifs at h ⊢
    · cases h
    · rcases finishAttach_cases route _ _ with ⟨_, _, -, -, hnone, hfinish⟩ | ⟨compiled, outcome, heval, hfinish⟩
      · rw [hfinish] at h
        cases hnone.symm.trans h
      · rw [hfinish] at h ⊢
        cases h
        obtain ⟨hlisted, hdocuments⟩ := Route.compile_extended heval
        refine ⟨hlisted.imp fun refs c => ?_, hdocuments⟩
        rintro ⟨ext, hext, henforces⟩
        have hsame : Reports outcome { outcome with
            accepted := true, acceptedReason := .accepted, config := some config } := ⟨id, fun _ => id⟩
        exact ⟨ext, hext.mono hsame, henforces⟩

end

/-! ## Publication -/

def authUIDs {D : Type} (parts : List (ExtensionDocs D)) : List String :=
  (parts.flatMap ExtensionDocs.auths).map Prod.fst

/-- An identity stands for one list of Secrets: the API gives a UID to one Secret, and the
digests of the lists in use do not collide. -/
structure IdentitiesApart {D : Type} (docs : Documents D) (p : Platform) (w : Snapshot) (routes : List Route) :
    Prop where
  secrets : ∀ ns name ns' name' secret secret', w.extensionSecret ns name = .ok secret →
    w.extensionSecret ns' name' = .ok secret' → secret.uid = secret'.uid → secret = secret'
  lists : ∀ route ∈ routes, ∀ refs ∈ route.extensionLists, ∀ route' ∈ routes, ∀ refs' ∈ route'.extensionLists,
    ∀ parts parts', List.Forall₂ (Holds docs w route.meta.ns) refs parts →
      List.Forall₂ (Holds docs w route'.meta.ns) refs' parts' →
      authIdentity p.sum256 (authUIDs parts) = authIdentity p.sum256 (authUIDs parts') →
      authUIDs parts = authUIDs parts'

section
variable {ns ns' : String} {refs refs' : List LocalObjectReference} {parts parts' : List (ExtensionDocs D)}
  {routes : List Route}

theorem auths_source (h : List.Forall₂ (Holds docs w ns) refs parts) {uid : String} {doc : D}
    (hmem : (uid, doc) ∈ parts.flatMap ExtensionDocs.auths) :
    ∃ name secret src, w.extensionSecret ns name = .ok secret ∧ uid = secret.uid ∧
      secret.data[authKey]? = some src ∧ docs.parseAuth src = .ok doc := by
  obtain ⟨part, hpart, hin⟩ := List.mem_flatMap.mp hmem
  obtain ⟨ref, -, hholds⟩ := Result.exists_left_of_mem h hpart
  cases hholds with
  | @secret secret src _ _ _ hsecret _ _ hsrc hparse =>
    obtain ⟨rfl, rfl⟩ := Prod.mk.inj (List.mem_singleton.mp hin)
    exact ⟨ref.name, secret, src, hsecret, rfl, hsrc, hparse⟩
  | configMap => cases hin

theorem eq_of_map_fst {α β : Type} {l l' : List (α × β)} (hmap : l.map Prod.fst = l'.map Prod.fst)
    (hunique : ∀ a b b', (a, b) ∈ l → (a, b') ∈ l' → b = b') : l = l' := by
  induction l generalizing l' with
  | nil => exact (List.map_eq_nil_iff.mp hmap.symm).symm
  | cons pair l ih =>
    obtain ⟨pair', rest, rfl, hfst, hrest⟩ := List.map_eq_cons_iff.mp hmap.symm
    obtain ⟨a, b⟩ := pair
    obtain ⟨a', b'⟩ := pair'
    obtain rfl : a' = a := hfst
    rw [hunique a' b b' (.head _) (.head _),
      ih hrest.symm fun x y y' hy hy' =>
        hunique x y y' (.tail _ hy) (.tail _ hy')]

theorem IdentitiesApart.auths_eq (hapart : IdentitiesApart docs p w routes)
    (h : List.Forall₂ (Holds docs w ns) refs parts) (h' : List.Forall₂ (Holds docs w ns') refs' parts')
    (huids : authUIDs parts = authUIDs parts') :
    parts.flatMap ExtensionDocs.auths = parts'.flatMap ExtensionDocs.auths := by
  refine eq_of_map_fst huids fun uid doc doc' hmem hmem' => ?_
  obtain ⟨name, secret, src, hsecret, huid, hsrc, hparse⟩ := auths_source h hmem
  obtain ⟨name', secret', src', hsecret', huid', hsrc', hparse'⟩ := auths_source h' hmem'
  obtain rfl := hapart.secrets ns name ns' name' secret secret' hsecret hsecret' (huid.symm.trans huid')
  obtain rfl := Option.some.inj (hsrc.symm.trans hsrc')
  exact Except.ok.inj (hparse.symm.trans hparse')

theorem IdentitiesApart.document_eq (hapart : IdentitiesApart docs p w routes) {route route' : Route}
    (hroute : route ∈ routes) (hrefs : refs ∈ route.extensionLists) (hroute' : route' ∈ routes)
    (hrefs' : refs' ∈ route'.extensionLists) {identity payload payload' : String}
    (h : DocumentOf docs p w route.meta.ns refs identity payload)
    (h' : DocumentOf docs p w route'.meta.ns refs' identity payload') : payload = payload' := by
  obtain ⟨parts, config, hparts, hconfig, hidentity, rfl⟩ := h
  obtain ⟨parts', config', hparts', hconfig', hidentity', rfl⟩ := h'
  have huids := hapart.lists route hroute refs hrefs route' hroute' refs' hrefs' parts parts' hparts hparts'
    (hidentity.symm.trans hidentity')
  rw [hapart.auths_eq hparts hparts' huids] at hconfig
  rw [Except.ok.inj (hconfig.symm.trans hconfig')]

theorem Listed.document {outcome : RouteOutcome} {ext : RuleExtensions} {auth : Auth}
    (h : Listed docs p w ns refs outcome ext) (hauth : ext.auth = some auth) :
    outcome.authDocs[auth.identity]?.isSome = true ∧
      DocumentOf docs p w ns refs auth.identity (authCodec.marshal auth) := by
  cases h with
  | closed _ hext =>
    rw [hext] at hauth
    cases hauth
  | merged hparts hmerged hdocs =>
    refine ⟨hdocs auth hauth, ?_⟩
    rcases hmerged.auth with ⟨-, hnone⟩ | ⟨config, hconfig, hsome⟩
    · rw [hnone] at hauth
      cases hauth
    · cases hsome.symm.trans hauth
      exact ⟨_, config, hparts, hconfig, rfl, rfl⟩

theorem compiled_rule_document {gw : Gateway} {clientCert : BackendClientCert} {states : List ListenerState}
    {outcomes : List RouteOutcome}
    (houtcomes : ∀ outcome ∈ outcomes, ∃ route ∈ routes, ∃ listeners parentRef,
      outcome = (route.attach docs p w gw listeners parentRef).1)
    {uid : String} {config : RouteConfig}
    (h : (compileAttachments clientCert states outcomes).routeConfigs[uid]? = some config) {c : Rule}
    (hc : c ∈ config.rules) :
    ∃ route ∈ routes, ∃ refs ∈ route.extensionLists, ∃ outcome ∈ outcomes, ∃ ext,
      Listed docs p w route.meta.ns refs outcome ext ∧ Enforces c ext ∧ ∀ auth, ext.auth = some auth →
        ∃ payload, (compileAttachments clientCert states outcomes).secretData[authSecretKey c.auth]? =
            some payload ∧
          (∃ route' ∈ routes, ∃ refs' ∈ route'.extensionLists,
            DocumentOf docs p w route'.meta.ns refs' c.auth payload) ∧
          (IdentitiesApart docs p w routes → payload = authCodec.marshal auth) := by
  rcases grows_of_compiled outcomes h with ⟨_, hempty, -⟩ | ⟨outcome, houtcome, source, hattaches, hgrows⟩
  · cases hempty
  · obtain ⟨route, hroute, listeners, parentRef, hattach⟩ := houtcomes outcome houtcome
    have hextended := attach_extended (hattach ▸ hattaches.1)
    rw [← hattach] at hextended
    rw [hgrows.1] at hc
    obtain ⟨refs, hrefs, ext, hlisted, henforces⟩ := Result.exists_left_of_mem hextended.listed hc
    refine ⟨route, hroute, refs, hrefs, outcome, houtcome, ext, hlisted, henforces, fun auth hauth => ?_⟩
    obtain ⟨hsome, hown⟩ := hlisted.document hauth
    have hidentity : c.auth = auth.identity := by
      rw [henforces.auth, hauth]
      rfl
    -- another outcome may have written the entry last
    obtain ⟨other, hother, ⟨config', hattaches'⟩, payload, hpayload, hsecret⟩ :=
      secretData_of_attached outcomes ⟨outcome, houtcome, ⟨source, hattaches⟩, hsome⟩
    obtain ⟨route', hroute', listeners', parentRef', hattach'⟩ := houtcomes other hother
    have hextended' := attach_extended (hattach' ▸ hattaches'.1)
    rw [← hattach'] at hextended'
    rcases hextended'.documents _ _ hpayload with hempty | ⟨refs', hrefs', hdocument⟩
    · cases hempty
    · rw [hidentity]
      exact ⟨payload, hsecret, ⟨route', hroute', refs', hrefs', hdocument⟩,
        fun hapart => hapart.document_eq hroute' hrefs' hroute hrefs hdocument hown⟩

end

/-- What is listed is not dropped, exactly if no broken reference hides one of another kind. Then a route
is accepted only without such references, and its rules fail closed or enforce everything listed. A
published rule has the document of its identity, its own one if identities do not collide. -/
theorem listed_extensions_kept_iff {D : Type} (docs : Documents D) (p : Platform) (w : Snapshot) :
    (∀ ns grpcRoute refs s, ExtensionsKept docs p w ns grpcRoute refs s ↔ ReadableBefore docs w ns refs) ∧
    (∀ gw listeners parentRef (route : Route),
      ((∃ refs ∈ route.extensionLists, ReadableBefore docs w route.meta.ns refs ∧
          ∃ ref ∈ refs, ¬ ref.Supported) →
        (route.attach docs p w gw listeners parentRef).1.accepted = false) ∧
      ∀ config, (route.attach docs p w gw listeners parentRef).1.config = some config →
        List.Forall₂ (fun refs c => ∃ ext, Enforces c ext ∧
          Listed docs p w route.meta.ns refs (route.attach docs p w gw listeners parentRef).1 ext)
          route.extensionLists config.rules) ∧
    ∀ order uid gw infra states clientCert outcomes (routes : List Route),
      (∀ outcome ∈ outcomes, ∃ route ∈ routes, ∃ listeners parentRef,
        outcome = (route.attach docs p w gw listeners parentRef).1) →
      ∀ (routeUID : String) config,
        (compileAttachments clientCert states outcomes).routeConfigs[routeUID]? = some config →
        ∀ c ∈ config.rules, ∃ route ∈ routes, ∃ refs ∈ route.extensionLists, ∃ outcome ∈ outcomes, ∃ ext,
          Listed docs p w route.meta.ns refs outcome ext ∧ Enforces c ext ∧
          ∀ auth, ext.auth = some auth → ∃ payload,
            ((publicationOf order uid gw infra states clientCert outcomes).generatedSecret
              p.sum256).data[authSecretKey c.auth]? = some payload ∧
            (∃ route' ∈ routes, ∃ refs' ∈ route'.extensionLists,
              DocumentOf docs p w route'.meta.ns refs' c.auth payload) ∧
            (IdentitiesApart docs p w routes → payload = authCodec.marshal auth) := by
  refine ⟨fun ns grpcRoute refs s => extensionsKept_iff, fun gw listeners parentRef route => ⟨?_, ?_⟩, ?_⟩
  · rintro ⟨refs, hrefs, hbefore, ref, hmem, hbad⟩
    by_contra haccepted
    obtain ⟨config, hconfig⟩ := Option.isSome_iff_exists.mp ((config_isSome_iff _ _).mpr (Bool.eq_true_of_not_eq_false haccepted))
    obtain ⟨c, -, ext, hlisted, -⟩ := Result.exists_left_of_mem (attach_extended hconfig).listed.flip hrefs
    exact hbad (hlisted.supported hbefore ref hmem)
  · intro config hconfig
    refine (attach_extended hconfig).listed.imp fun refs c => ?_
    rintro ⟨ext, hlisted, henforces⟩
    exact ⟨ext, henforces, hlisted⟩
  · intro order uid gw infra states clientCert outcomes routes houtcomes routeUID config hconfig c hc
    exact compiled_rule_document houtcomes hconfig hc

/-! A rule lists a ConfigMap that does not exist and then an object of another kind. -/

def extensionFilter (ref : LocalObjectReference) : HTTPRouteFilter where
  type := filterExtensionRef
  requestHeaderModifier := none
  responseHeaderModifier := none
  requestMirror := none
  extensionRef := some ref
  requestRedirect := none
  urlRewrite := none
  cors := none

def limitedRoute : Route :=
  .http ⟨⟨"route", "shop", "web", 0⟩, [],
    [⟨[], [extensionFilter ⟨"", "ConfigMap", "limits"⟩, extensionFilter ⟨"acme.io", "Quota", "gold"⟩], [], none⟩]⟩

def webListener : ListenerState :=
  { tcpListener with
    spec := ⟨"web", none, 80, "HTTP", none, none⟩
    allowedKinds := ["HTTPRoute"] }

def limitedOutcome : RouteOutcome :=
  (limitedRoute.attach noDocuments .trusting bankWorld (.small [] none) [webListener]
    ⟨none, none, none, "gw", none, none⟩).1

/-- The route is accepted: the broken reference is reported, and the other one is never seen. -/
theorem broken_extension_hides_unsupported :
    (∃ refs ∈ limitedRoute.extensionLists, ∃ ref ∈ refs, ¬ ref.Supported) ∧
    limitedOutcome.accepted = true ∧ limitedOutcome.refsReason = .invalidExtensionRef ∧
    ¬ ExtensionsKept noDocuments .trusting bankWorld "shop" false
      [⟨"", "ConfigMap", "limits"⟩, ⟨"acme.io", "Quota", "gold"⟩] (.rejected .unsupportedValue) := by
  refine ⟨by decide, by decide, by decide, fun hkept => ?_⟩
  have hbefore := extensionsKept_iff.mp hkept [⟨"", "ConfigMap", "limits"⟩] ⟨"acme.io", "Quota", "gold"⟩ [] rfl
    (by decide) (by decide) ⟨"", "ConfigMap", "limits"⟩ List.mem_cons_self
  obtain ⟨found, hfound⟩ := hbefore
  cases hfound with
  | secret _ hkind => exact absurd hkind (by decide)
  | configMap _ _ hcm => cases hcm

end Krouter.ControlPlane
