import Krouter.ControlPlane.RouteAttachment

/-! The extensions that a rule lists: which references reject its route, which fail it closed,
and what the rule enforces otherwise. -/

namespace Krouter.ControlPlane
open Compiled Routing Attempt

/-! ## References and their documents -/

def LocalObjectReference.Supported (ref : LocalObjectReference) : Prop :=
  ref.group = "" ∧ (ref.kind = "ConfigMap" ∨ ref.kind = "Secret")

instance (ref : LocalObjectReference) : Decidable ref.Supported := inferInstanceAs (Decidable (_ ∧ _))

inductive ParsedAs {α : Type} (parse : String → Except String α) : Option String → List α → Prop where
  | absent : ParsedAs parse none []
  | present {src : String} {doc : α} : parse src = .ok doc → ParsedAs parse (some src) [doc]

inductive Holds {D : Type} (docs : Documents D) (w : Snapshot) (ns : String) (ref : LocalObjectReference) :
    ExtensionDocs D → Prop where
  | secret {secret : ExtensionSecret} {src : String} {doc : D} : ref.group = "" → ref.kind = "Secret" →
      w.extensionSecret ns ref.name = .ok secret → secret.data[rateLimitKey]? = none →
      secret.data[wafKey]? = none → secret.data[authKey]? = some src → docs.parseAuth src = .ok doc →
      Holds docs w ns ref ⟨[], [], [(secret.uid, doc)]⟩
  | configMap {data : GoMap String String} {rateLimits : List RateLimitDocument} {wafs : List String} :
      ref.group = "" → ref.kind = "ConfigMap" → w.extensionCM ns ref.name = .ok data →
      data[authKey]? = none → ¬ (data[rateLimitKey]? = none ∧ data[wafKey]? = none) →
      ParsedAs docs.parseRateLimit data[rateLimitKey]? rateLimits → ParsedAs docs.parseWAF data[wafKey]? wafs →
      Holds docs w ns ref ⟨rateLimits, wafs, []⟩

variable {D : Type} {docs : Documents D} {w : Snapshot} {ns : String} {ref : LocalObjectReference}

section

variable {name : String} {data : GoMap String String} {found : ExtensionDocs D}

theorem readDocument_ok_iff {α : Type} {key : String} {parse : String → Except String α} {found : List α} :
    readDocument name key data parse = .ok found ↔ ParsedAs parse data[key]? found := by
  unfold readDocument
  cases data[key]? with
  | none => exact ⟨fun h => by cases h; exact .absent, fun h => by cases h; rfl⟩
  | some src =>
    dsimp only
    constructor
    · intro h
      split at h
      · cases h
      · next hsrc =>
        cases h
        exact .present hsrc
    · rintro (_ | hsrc)
      rw [hsrc]

theorem readExtensionSecret_ok_iff {secret : ExtensionSecret} :
    readExtensionSecret docs name secret = .ok found ↔ secret.data[rateLimitKey]? = none ∧
      secret.data[wafKey]? = none ∧ ∃ src doc, secret.data[authKey]? = some src ∧
        docs.parseAuth src = .ok doc ∧ found = ⟨[], [], [(secret.uid, doc)]⟩ := by
  unfold readExtensionSecret
  cases secret.data[rateLimitKey]? with
  | some _ => simp
  | none =>
    cases secret.data[wafKey]? with
    | some _ => simp
    | none =>
      cases secret.data[authKey]? with
      | none => simp
      | some src => cases hsrc : docs.parseAuth src <;> simp [hsrc, eq_comm]

theorem readExtensionCM_ok_iff : readExtensionCM docs name data = .ok found ↔ data[authKey]? = none ∧
      ¬ (data[rateLimitKey]? = none ∧ data[wafKey]? = none) ∧ ∃ rateLimits wafs,
        ParsedAs docs.parseRateLimit data[rateLimitKey]? rateLimits ∧
        ParsedAs docs.parseWAF data[wafKey]? wafs ∧ found = ⟨rateLimits, wafs, []⟩ := by
  unfold readExtensionCM
  cases hauth : data[authKey]? with
  | some _ => simp
  | none =>
    simp only [Option.isSome_none, Bool.false_eq_true, if_false, Option.isNone_iff_eq_none, true_and]
    split_ifs with hnone
    · simp [hnone]
    · rw [Result.bind_eq_ok]
      constructor
      · rintro ⟨rateLimits, hlimits, h⟩
        obtain ⟨wafs, hwafs, h⟩ := Result.bind_eq_ok.mp h
        cases h
        exact ⟨hnone, rateLimits, wafs, readDocument_ok_iff.mp hlimits, readDocument_ok_iff.mp hwafs, rfl⟩
      · rintro ⟨-, rateLimits, wafs, hlimits, hwafs, rfl⟩
        exact ⟨rateLimits, readDocument_ok_iff.mpr hlimits,
          Result.bind_eq_ok.mpr ⟨wafs, readDocument_ok_iff.mpr hwafs, rfl⟩⟩

theorem Holds.supported (h : Holds docs w ns ref found) : ref.Supported := by
  cases h with
  | secret hgroup hkind => exact ⟨hgroup, .inr hkind⟩
  | configMap hgroup hkind => exact ⟨hgroup, .inl hkind⟩

theorem readExtension_of_supported (h : ref.Supported) : readExtension docs w ns ref =
    if ref.kind = "Secret" then
      match w.extensionSecret ns ref.name with
      | .error err => .error (.invalid ("extension Secret " ++ nsName ns ref.name ++ ": " ++ err))
      | .ok secret => readExtensionSecret docs (nsName ns ref.name) secret
    else
      match w.extensionCM ns ref.name with
      | .error err => .error (.invalid ("extension ConfigMap " ++ nsName ns ref.name ++ ": " ++ err))
      | .ok data => readExtensionCM docs (nsName ns ref.name) data := by
  have hnot : ¬ (ref.group ≠ "" ∨ ref.kind ≠ "ConfigMap" ∧ ref.kind ≠ "Secret") := by
    rintro (hgroup | ⟨hcm, hsecret⟩)
    · exact hgroup h.1
    · exact h.2.elim hcm hsecret
  unfold readExtension
  exact if_neg hnot

theorem readExtension_ok_iff : readExtension docs w ns ref = .ok found ↔ Holds docs w ns ref found := by
  constructor
  · intro h
    have hsupported : ref.Supported := by
      by_contra hnot
      have hbad : ref.group ≠ "" ∨ ref.kind ≠ "ConfigMap" ∧ ref.kind ≠ "Secret" := by
        simpa only [LocalObjectReference.Supported, not_and_or, not_or] using hnot
      unfold readExtension at h
      rw [if_pos hbad] at h
      cases h
    rw [readExtension_of_supported hsupported] at h
    split_ifs at h with hkind
    · split at h
      · cases h
      · next secret hsecret =>
        obtain ⟨h1, h2, src, doc, h3, h4, rfl⟩ := readExtensionSecret_ok_iff.mp h
        exact .secret hsupported.1 hkind hsecret h1 h2 h3 h4
    · split at h
      · cases h
      · next data hcm =>
        obtain ⟨h1, h2, rateLimits, wafs, h3, h4, rfl⟩ := readExtensionCM_ok_iff.mp h
        exact .configMap hsupported.1 (hsupported.2.resolve_right hkind) hcm h1 h2 h3 h4
  · intro h
    rw [readExtension_of_supported h.supported]
    cases h with
    | secret hgroup hkind hsecret h1 h2 h3 h4 =>
      rw [if_pos hkind, hsecret]
      exact readExtensionSecret_ok_iff.mpr ⟨h1, h2, _, _, h3, h4, rfl⟩
    | configMap hgroup hkind hcm h1 h2 h3 h4 =>
      rw [if_neg (by simp [hkind]), hcm]
      exact readExtensionCM_ok_iff.mpr ⟨h1, h2, _, _, h3, h4, rfl⟩

end

variable {refs : List LocalObjectReference}

theorem readDocument_failure {α : Type} {name key : String} {data : GoMap String String}
    {parse : String → Except String α} (message : String) :
    readDocument name key data parse ≠ .error (.unsupported message) := by
  intro h
  unfold readDocument at h
  split at h
  · cases h
  · split at h <;> cases h

theorem readExtensionSecret_failure {name : String} {secret : ExtensionSecret} (message : String) :
    readExtensionSecret docs name secret ≠ .error (.unsupported message) := by
  intro h
  unfold readExtensionSecret at h
  split_ifs at h
  · cases h
  · cases h
  · split at h
    · cases h
    · split at h <;> cases h

theorem readExtensionCM_failure {name : String} {data : GoMap String String} (message : String) :
    readExtensionCM docs name data ≠ .error (.unsupported message) := by
  intro h
  unfold readExtensionCM at h
  split_ifs at h
  · cases h
  · cases h
  · rcases Result.bind_eq_error.mp h with hlimits | ⟨rateLimits, -, h⟩
    · exact readDocument_failure message hlimits
    · rcases Result.bind_eq_error.mp h with hwafs | ⟨wafs, -, h⟩
      · exact readDocument_failure message hwafs
      · cases h

theorem readExtension_unsupported_iff :
    (∃ message, readExtension docs w ns ref = .error (.unsupported message)) ↔ ¬ ref.Supported := by
  constructor
  · rintro ⟨message, h⟩ hsupported
    rw [readExtension_of_supported hsupported] at h
    split_ifs at h
    · split at h
      · cases h
      · next secret hsecret =>
        exact readExtensionSecret_failure message h
    · split at h
      · cases h
      · next data hcm =>
        exact readExtensionCM_failure message h
  · intro hnot
    have hbad : ref.group ≠ "" ∨ ref.kind ≠ "ConfigMap" ∧ ref.kind ≠ "Secret" := by
      simpa only [LocalObjectReference.Supported, not_and_or, not_or] using hnot
    refine ⟨"unsupported extensionRef kind " ++ ref.group ++ "/" ++ ref.kind, ?_⟩
    unfold readExtension
    rw [if_pos hbad]

def ReadableBefore (docs : Documents D) (w : Snapshot) (ns : String) (refs : List LocalObjectReference) : Prop :=
  ∀ before ref after, refs = before ++ ref :: after → ¬ ref.Supported →
    (∀ r ∈ before, r.Supported) → ∀ r ∈ before, ∃ found, Holds docs w ns r found

/-- The first reference that cannot be read is of another kind. -/
def Rejects (docs : Documents D) (w : Snapshot) (ns : String) (refs : List LocalObjectReference) : Prop :=
  ∃ before ref after, refs = before ++ ref :: after ∧ ¬ ref.Supported ∧
    ∀ r ∈ before, ∃ found, Holds docs w ns r found

theorem mapM_readExtension_unsupported_iff :
    (∃ message, refs.mapM (readExtension docs w ns) = .error (.unsupported message)) ↔
      Rejects docs w ns refs := by
  simp only [Result.mapM_eq_error, readExtension_ok_iff]
  constructor
  · rintro ⟨message, before, ref, after, hrefs, hbefore, hbad⟩
    exact ⟨before, ref, after, hrefs, readExtension_unsupported_iff.mp ⟨message, hbad⟩, hbefore⟩
  · rintro ⟨before, ref, after, hrefs, hbad, hbefore⟩
    obtain ⟨message, hmessage⟩ := readExtension_unsupported_iff.mpr hbad
    exact ⟨message, before, ref, after, hrefs, hbefore, hmessage⟩

theorem not_rejects (h : ∀ message, refs.mapM (readExtension docs w ns) ≠ .error (.unsupported message)) :
    ¬ Rejects docs w ns refs := by
  rw [← mapM_readExtension_unsupported_iff]
  exact not_exists.mpr h

theorem exists_first_unsupported (h : ∃ ref ∈ refs, ¬ ref.Supported) :
    ∃ before ref after, refs = before ++ ref :: after ∧ ¬ ref.Supported ∧ ∀ r ∈ before, r.Supported := by
  obtain ⟨ref, hmem, hbad⟩ := h
  cases hfind : refs.find? (fun r => ¬ r.Supported) with
  | none =>
    have hnone := List.find?_eq_none.mp hfind ref hmem
    simp only [decide_eq_true_eq, not_not] at hnone
    exact absurd hnone hbad
  | some first =>
    obtain ⟨hfirst, before, after, hsplit, hbefore⟩ := List.find?_eq_some_iff_append.mp hfind
    refine ⟨before, first, after, hsplit, by simpa using hfirst, fun r hr => ?_⟩
    simpa using hbefore r hr

/-- A reference of another kind is noticed wherever it is listed, if those listed before the
first one are in order. -/
theorem rejects_iff_readableBefore :
    ((∃ ref ∈ refs, ¬ ref.Supported) → Rejects docs w ns refs) ↔ ReadableBefore docs w ns refs := by
  constructor
  · intro h before ref after hrefs hbad hbefore r hr
    obtain ⟨before', ref', after', hrefs', hbad', hread⟩ :=
      h ⟨ref, by rw [hrefs]; exact List.mem_append_right _ (.head _), hbad⟩
    -- both are the first unsupported reference, so the two splits agree
    rcases List.append_eq_append_iff.mp (hrefs.symm.trans hrefs') with ⟨t, rfl, ht⟩ | ⟨t, rfl, ht⟩
    · exact hread r (List.mem_append_left _ hr)
    · cases t with
      | nil =>
        rw [List.append_nil] at hr
        exact hread r hr
      | cons c t =>
        obtain ⟨rfl, -⟩ := List.cons.inj ht
        exact absurd (hbefore ref' (List.mem_append_right _ (.head _))) hbad'
  · intro h hexists
    obtain ⟨before, ref, after, hrefs, hbad, hbefore⟩ := exists_first_unsupported hexists
    exact ⟨before, ref, after, hrefs, hbad, h before ref after hrefs hbad hbefore⟩

/-! ## What a rule enforces -/

structure MergedFrom {D : Type} (docs : Documents D) (p : Platform) (parts : List (ExtensionDocs D))
    (ext : RuleExtensions) : Prop where
  valid : ext.invalid = false
  rateLimit : (parts.flatMap ExtensionDocs.rateLimits = [] ∧ ext.rateLimit = none) ∨
    ∃ config, mergeRateLimits (parts.flatMap ExtensionDocs.rateLimits) = .ok config ∧
      ext.rateLimit = some config
  waf : ext.waf = concatDirectives (parts.flatMap ExtensionDocs.wafs)
  auth : (parts.flatMap ExtensionDocs.auths = [] ∧ ext.auth = none) ∨
    ∃ config, docs.mergeAuth ((parts.flatMap ExtensionDocs.auths).map Prod.snd) = .ok config ∧
      ext.auth = some { config with
        identity := authIdentity p.sum256 ((parts.flatMap ExtensionDocs.auths).map Prod.fst) }

/-- The route is not rejected, and the rule fails closed and the route reports it, or the rule enforces
everything listed and the outcome has its document. -/
inductive Listed {D : Type} (docs : Documents D) (p : Platform) (w : Snapshot) (ns : String)
    (refs : List LocalObjectReference) (outcome : RouteOutcome) (ext : RuleExtensions) : Prop where
  | closed : ¬ Rejects docs w ns refs → ext = invalidExtensions → outcome.refsResolved = false →
      Listed docs p w ns refs outcome ext
  | merged {parts : List (ExtensionDocs D)} : List.Forall₂ (Holds docs w ns) refs parts →
      MergedFrom docs p parts ext →
      (∀ config, ext.auth = some config → outcome.authDocs[config.identity]?.isSome = true) →
      Listed docs p w ns refs outcome ext

variable {p : Platform} {s t : RouteOutcome}

section
variable {grpcRoute : Bool} {parts : List (ExtensionDocs D)} {ext : RuleExtensions}

theorem mergedRateLimit_ok {all : List RateLimitDocument} {limit : Option RateLimit}
    (h : mergedRateLimit all = .ok limit) :
    (all = [] ∧ limit = none) ∨ ∃ config, mergeRateLimits all = .ok config ∧ limit = some config := by
  unfold mergedRateLimit at h
  split_ifs at h with hnil
  · cases h
    exact .inl ⟨hnil, rfl⟩
  · cases hmerge : mergeRateLimits all with
    | error err =>
      rw [hmerge] at h
      cases h
    | ok config =>
      rw [hmerge] at h
      cases h
      exact .inr ⟨config, rfl, rfl⟩

theorem mergedWAF_ok {fragments : List String} {program : String} (h : mergedWAF p fragments = .ok program) :
    program = concatDirectives fragments := by
  unfold mergedWAF at h
  split_ifs at h with hnil
  · cases h
    rw [hnil]
    rfl
  · split at h
    · cases h
    · cases h
      rfl

theorem mergedAuth_ok {all : List (String × D)} {auth : Option Auth}
    (h : mergedAuth docs p grpcRoute all = .ok auth) :
    (all = [] ∧ auth = none) ∨ ∃ config, docs.mergeAuth (all.map Prod.snd) = .ok config ∧
      auth = some { config with identity := authIdentity p.sum256 (all.map Prod.fst) } := by
  unfold mergedAuth at h
  split at h
  · cases h
    exact .inl ⟨rfl, rfl⟩
  · split at h
    · cases h
    · next config hmerge =>
      split_ifs at h
      cases h
      exact .inr ⟨config, hmerge, rfl⟩

theorem mergeExtensions_ok (h : mergeExtensions docs p grpcRoute parts = .ok ext) :
    MergedFrom docs p parts ext := by
  obtain ⟨limit, hlimit, h⟩ := Result.bind_eq_ok.mp h
  obtain ⟨program, hprogram, h⟩ := Result.bind_eq_ok.mp h
  obtain ⟨auth, hauth, h⟩ := Result.bind_eq_ok.mp h
  cases h
  exact ⟨rfl, mergedRateLimit_ok hlimit, mergedWAF_ok hprogram, mergedAuth_ok hauth⟩

theorem Listed.mono (h : Reports s t) (hl : Listed docs p w ns refs s ext) : Listed docs p w ns refs t ext := by
  cases hl with
  | closed hkept hext hrefs => exact .closed hkept hext (h.refs hrefs)
  | merged hparts hmerged hdocs => exact .merged hparts hmerged fun config hc => h.authDocs _ (hdocs config hc)

theorem compileExtensions_listed (h : eval (compileExtensions docs p w ns refs grpcRoute) s = (.ok ext, t)) :
    Listed docs p w ns refs t ext ∧ (ext.invalid = true → t.refsReason = .invalidExtensionRef) := by
  rcases compileExtensions_cases docs p w ns refs grpcRoute s with
    ⟨message, -, heval⟩ | ⟨hkept, message, heval⟩ | ⟨parts, merged, hread, hmerge, heval⟩
  · rw [heval] at h
    cases h
  · rw [heval] at h
    cases h
    exact ⟨.closed (not_rejects hkept) rfl rfl, fun _ => rfl⟩
  · rw [heval] at h
    cases h
    have hmerged := mergeExtensions_ok hmerge
    refine ⟨.merged ((Result.forall₂_of_mapM_eq_ok hread).imp fun _ _ => readExtension_ok_iff.mp) hmerged ?_,
      fun hinvalid => ?_⟩
    · intro config hc
      rw [hc]
      simp [RouteOutcome.addAuthDoc]
    · rw [hmerged.valid] at hinvalid
      cases hinvalid

/-- What the references owe to the route: one of another kind rejects it, and otherwise the rule fails
closed or enforces all of them. -/
def ExtensionsKept (docs : Documents D) (p : Platform) (w : Snapshot) (ns : String) (grpcRoute : Bool)
    (refs : List LocalObjectReference) (s : RouteOutcome) : Prop :=
  ((∃ ref ∈ refs, ¬ ref.Supported) →
    ∃ message, (eval (compileExtensions docs p w ns refs grpcRoute) s).1 = .error message) ∧
  ((∀ ref ∈ refs, ref.Supported) →
    ∃ ext t, eval (compileExtensions docs p w ns refs grpcRoute) s = (.ok ext, t) ∧
      Listed docs p w ns refs t ext ∧ (ext.invalid = true → t.refsReason = .invalidExtensionRef))

theorem extensionsKept_iff : ExtensionsKept docs p w ns grpcRoute refs s ↔ ReadableBefore docs w ns refs := by
  have hrejected : (∃ message, (eval (compileExtensions docs p w ns refs grpcRoute) s).1 = .error message) ↔
      Rejects docs w ns refs := by
    rw [← mapM_readExtension_unsupported_iff]
    rcases compileExtensions_cases docs p w ns refs grpcRoute s with
      ⟨message, hread, heval⟩ | ⟨hkept, message, heval⟩ | ⟨parts, merged, hread, -, heval⟩ <;> rw [heval]
    · exact ⟨fun _ => ⟨message, hread⟩, fun _ => ⟨message, rfl⟩⟩
    · exact ⟨fun ⟨_, h⟩ => (by cases h), fun ⟨_, h⟩ => absurd h (hkept _)⟩
    · rw [hread]
      exact ⟨fun ⟨_, h⟩ => (by cases h), fun ⟨_, h⟩ => (by cases h)⟩
  rw [← rejects_iff_readableBefore, ExtensionsKept, hrejected]
  refine and_iff_left fun hsupported => ?_
  rcases compileExtensions_cases docs p w ns refs grpcRoute s with
    ⟨message, hread, -⟩ | ⟨-, message, heval⟩ | ⟨parts, merged, -, -, heval⟩
  · obtain ⟨before, ref, after, rfl, hbad, -⟩ := mapM_readExtension_unsupported_iff.mp ⟨message, hread⟩
    exact absurd (hsupported ref (by simp)) hbad
  · exact ⟨_, _, heval, compileExtensions_listed heval⟩
  · exact ⟨_, _, heval, compileExtensions_listed heval⟩

theorem Listed.supported (h : Listed docs p w ns refs s ext) (hbefore : ReadableBefore docs w ns refs) :
    ∀ ref ∈ refs, ref.Supported := by
  cases h with
  | closed hkept =>
    by_contra hbad
    push Not at hbad
    exact hkept (rejects_iff_readableBefore.mpr hbefore hbad)
  | merged hparts =>
    intro ref hmem
    obtain ⟨found, -, hholds⟩ := Result.exists_left_of_mem hparts.flip hmem
    exact hholds.supported

end

/-! ## Rules -/

def extensionRefs (filters : List HTTPRouteFilter) : List LocalObjectReference :=
  filters.filterMap fun filter => if filter.type = filterExtensionRef then filter.extensionRef else none

structure Enforces (c : Rule) (ext : RuleExtensions) : Prop where
  rateLimit : c.rateLimit = ext.rateLimit
  waf : c.waf = ext.waf
  invalid : c.extensionsInvalid = ext.invalid
  auth : c.auth = (ext.auth.map Auth.identity).getD ""

def DocumentOf {D : Type} (docs : Documents D) (p : Platform) (w : Snapshot) (ns : String)
    (refs : List LocalObjectReference) (identity payload : String) : Prop :=
  ∃ parts config, List.Forall₂ (Holds docs w ns) refs parts ∧
    docs.mergeAuth ((parts.flatMap ExtensionDocs.auths).map Prod.snd) = .ok config ∧
    identity = authIdentity p.sum256 ((parts.flatMap ExtensionDocs.auths).map Prod.fst) ∧
    payload = authCodec.marshal { config with identity := identity }

/-- What compiling a rule with these references does to the outcome of its route. -/
structure Extended {D : Type} (docs : Documents D) (p : Platform) (w : Snapshot) (ns : String)
    (refs : List LocalObjectReference) (s : RouteOutcome) (c : Rule) (t : RouteOutcome) : Prop where
  listed : ∃ ext, Listed docs p w ns refs t ext ∧ Enforces c ext
  documents : ∀ identity payload : String, t.authDocs[identity]? = some payload →
    s.authDocs[identity]? = some payload ∨ DocumentOf docs p w ns refs identity payload

def SameDocs (s t : RouteOutcome) : Prop := t.authDocs = s.authDocs

instance : Std.Refl SameDocs := ⟨fun _ => rfl⟩

instance : IsTrans RouteOutcome SameDocs := ⟨fun _ _ _ h k => Eq.trans k h⟩

theorem sameDocs_degrade (s : RouteOutcome) (reason : RouteReason) (message : String) :
    SameDocs s (s.degrade reason message) := by
  unfold RouteOutcome.degrade SameDocs
  split_ifs <;> rfl

variable {kind : String} {c : Rule}

variable {sources : List HTTPRouteMatch}

theorem FilterAccount.ref_eq {filter : HTTPRouteFilter} {result : FilterResult}
    (h : FilterAccount docs w ns kind sources filter s result) :
    result.ref = if filter.type = filterExtensionRef then filter.extensionRef else none := by
  cases h with
  | extension htype href => rw [if_pos htype, href]; rfl
  | requestHeaders htype => rw [htype]; rfl
  | responseHeaders htype => rw [htype]; rfl
  | cors htype => rw [htype]; rfl
  | redirect htype => rw [htype]; rfl
  | rewrite htype => rw [htype]; rfl
  | mirror htype => rw [htype]; rfl
  | droppedMirror htype => rw [htype]; rfl

theorem refs_of_accounts {filters : List HTTPRouteFilter} {results : List FilterResult}
    (h : List.Forall₂ (fun filter => FilterAccount docs w ns kind sources filter s) filters results) :
    results.filterMap FilterResult.ref = extensionRefs filters := by
  induction h with
  | nil => rfl
  | @cons filter result filters results hfilter _ ih =>
    rw [extensionRefs, List.filterMap_cons, List.filterMap_cons, hfilter.ref_eq, ih]
    rfl

theorem addAuthDoc_documents {grpcRoute : Bool}
    {parts : List (ExtensionDocs D)} {ext : RuleExtensions}
    (hread : refs.mapM (readExtension docs w ns) = .ok parts)
    (hmerge : mergeExtensions docs p grpcRoute parts = .ok ext) {identity payload : String}
    (h : (s.addAuthDoc ext.auth).authDocs[identity]? = some payload) :
    s.authDocs[identity]? = some payload ∨ DocumentOf docs p w ns refs identity payload := by
  rcases (mergeExtensions_ok hmerge).auth with ⟨-, hnone⟩ | ⟨config, hconfig, hsome⟩
  · rw [hnone] at h
    exact .inl h
  · rw [hsome, RouteOutcome.addAuthDoc] at h
    rw [GoMap.get_insert] at h
    split_ifs at h with hidentity
    · refine .inr ⟨parts, config, ?_, hconfig, hidentity.symm, ?_⟩
      · exact (Result.forall₂_of_mapM_eq_ok hread).imp fun _ _ => readExtension_ok_iff.mp
      · rw [← hidentity]
        exact (Option.some.inj h).symm
    · exact .inl h

theorem ruleSteps_extended {F : Type} {grpcRoute : Bool} {ruleMatches : Except String (List Match)}
    {filters : List F} {sort : F → Compiler FilterResult} {timeouts : Except String (Int64 × Int64)}
    {backendRefs : List FilteredBackendRef} (asHTTP : F → HTTPRouteFilter)
    (hkeep : ∀ filter, Keeps Progress (sort filter)) (hsame : ∀ filter, Keeps SameDocs (sort filter))
    (hsort : ∀ filter s result t, eval (sort filter) s = (.ok result, t) →
      FilterAccount docs w ns kind sources (asHTTP filter) t result)
    (h : eval (ruleSteps docs p w ns kind grpcRoute ruleMatches filters sort timeouts backendRefs) s = (.ok c, t)) :
    Extended docs p w ns (extensionRefs (filters.map asHTTP)) s c t := by
  obtain ⟨compiled, results, ext, millis, backends, s2, s3, -, hresults, hext, -, hbackends, rfl⟩ :=
    ruleSteps_ok h
  have hfilters := forall₂_of_mapM_ok (R := Progress)
    (P := fun f r st => FilterAccount docs w ns kind sources (asHTTP f) st r) hsort hkeep
    (fun _ _ _ _ hst => FilterAccount.mono hst.toReports) hresults
  rw [refs_of_accounts (List.forall₂_map_left_iff.mpr hfilters)] at hext
  have hlater : Progress s3 t := (Keeps.mapM (keeps_compileFilteredBackend progress_degrade) _).of_eval hbackends
  -- neither the filters nor the backends touch the documents
  have hdocs2 : s2.authDocs = s.authDocs := (Keeps.mapM hsame filters).of_eval hresults
  have hdocs3 : SameDocs s3 t := (Keeps.mapM (keeps_compileFilteredBackend sameDocs_degrade) _).of_eval hbackends
  refine ⟨⟨ext, (compileExtensions_listed hext).1.mono hlater.toReports, rfl, rfl, rfl, rfl⟩, ?_⟩
  intro identity payload hpayload
  rw [show t.authDocs = s3.authDocs from hdocs3] at hpayload
  rw [← hdocs2]
  rcases compileExtensions_cases docs p w ns (extensionRefs (filters.map asHTTP)) grpcRoute s2 with
    ⟨_, -, heval⟩ | ⟨-, _, heval⟩ | ⟨parts, merged, hread, hmerge, heval⟩ <;> rw [heval] at hext <;> cases hext
  · exact .inl hpayload
  · exact addAuthDoc_documents hread hmerge hpayload

theorem compileHTTPRule_extended {rule : HTTPRouteRule}
    (h : eval (compileHTTPRule docs p w ns rule) s = (.ok c, t)) :
    Extended docs p w ns (extensionRefs rule.filters) s c t := by
  rw [compileHTTPRule_eq] at h
  have hextended := ruleSteps_extended id (keeps_sortHTTPFilter rule)
    (fun f => keeps_sortFilter (keeps_compileHTTPFilter sameDocs_degrade rule f))
    (fun f s r t hf => sortFilter_ok (fun _ _ _ => compileHTTPFilter_ok) hf) h
  rwa [List.map_id] at hextended

theorem compileGRPCRule_extended {rule : GRPCRouteRule}
    (h : eval (compileGRPCRule docs p w ns rule) s = (.ok c, t)) :
    Extended docs p w ns (extensionRefs (rule.filters.map GRPCRouteFilter.toHTTP)) s c t := by
  rw [compileGRPCRule_eq] at h
  exact ruleSteps_extended GRPCRouteFilter.toHTTP keeps_sortGRPCFilter
    (fun f => keeps_sortFilter (keeps_compileGRPCFilter sameDocs_degrade f))
    (fun f s r t hf => @sortFilter_ok D docs w ns "GRPCRoute" s t [] f.toHTTP _ r
      (fun _ _ _ => compileGRPCFilter_ok) hf) h

theorem compileL4Rule_extended {refs : List BackendRef}
    (h : eval (compileL4Rule w ns kind refs) s = (.ok c, t)) : Extended docs p w ns [] s c t := by
  have hsame : ∀ ref : BackendRef, Keeps SameDocs
      (do return (⟨← compileBackend w ns kind ref, []⟩ : Backend) : Compiler Backend) := fun ref =>
    (keeps_compileBackend w ns kind sameDocs_degrade ref).bind fun _ => Keeps.pure _
  obtain ⟨backends, r, hbackends, h⟩ := bind_ok.mp h
  have hdocs := (Keeps.mapM hsame refs).of_eval hbackends
  cases h
  have hnone : MergedFrom docs p [] noExtensions :=
    ⟨rfl, .inl ⟨rfl, rfl⟩, rfl, .inl ⟨rfl, rfl⟩⟩
  refine ⟨⟨noExtensions, .merged .nil hnone fun config hc => (by cases hc), rfl, rfl, rfl, rfl⟩, ?_⟩
  intro identity payload hpayload
  have hsame : t.authDocs = s.authDocs := hdocs
  rw [hsame] at hpayload
  exact .inl hpayload

end Krouter.ControlPlane
