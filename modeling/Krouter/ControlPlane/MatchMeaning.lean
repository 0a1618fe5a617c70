import Krouter.ControlPlane.RouteAttachment
import Krouter.Proxy.HeaderFilters
import Krouter.Proxy.PrefixReplacement

/-! The matches of a route as the API means them, against what becomes of the compiled ones: path,
method, headers and query parameters. -/

namespace Krouter.ControlPlane
open Compiled GoString Http Proxy Routing

section
variable (key : ValueMatch → String) (l : List ValueMatch)

def firstOf (m : GoMap String (List String)) (k : String) : Option String := m[k]?.bind List.head?

/-- Of the entries with one key only the first is considered, and what it names has to be there. -/
def FirstsPresent (m : GoMap String (List String)) : Prop :=
  ∀ e, l.find? (fun e' => key e' = key e) = some e → firstOf m (key e) = some e.value

def Agree : Prop := ∀ e ∈ l, ∀ first, l.find? (fun e' => key e' = key e) = some first → first.value = e.value

def firstMap : GoMap String (List String) := l.foldr (fun e m => m.insert (key e) [e.value]) ∅

theorem firstOf_firstMap (k : String) :
    firstOf (firstMap key l) k = (l.find? fun e => key e = k).map (·.value) := by
  induction l with
  | nil => rfl
  | cons e l ih =>
    have hcons : firstMap key (e :: l) = (firstMap key l).insert (key e) [e.value] := rfl
    rw [firstOf, hcons, GoMap.get_insert, List.find?_cons]
    by_cases h : key e = k
    · simp [h]
    · rw [if_neg h, decide_eq_false h]
      exact ih

theorem firstsPresent_firstMap : FirstsPresent key l (firstMap key l) := by
  intro e he
  rw [firstOf_firstMap, he]
  rfl

variable {key l}

theorem exists_first {e : ValueMatch} (he : e ∈ l) :
    ∃ first, l.find? (fun e' => key e' = key e) = some first ∧ key first = key e := by
  obtain ⟨first, hfirst⟩ := Option.isSome_iff_exists.mp
    (List.find?_isSome.mpr ⟨e, he, decide_eq_true rfl⟩ : (l.find? fun e' => key e' = key e).isSome)
  have hkey := List.find?_some hfirst
  exact ⟨first, hfirst, of_decide_eq_true hkey⟩

theorem FirstsPresent.of_agree {m : GoMap String (List String)} (h : FirstsPresent key l m) (hagree : Agree key l)
    {e : ValueMatch} (he : e ∈ l) : firstOf m (key e) = some e.value := by
  obtain ⟨first, hfirst, hkey⟩ := @exists_first key l e he
  rw [← hkey, h first (by rw [hkey, hfirst]), hagree e he first hfirst]

theorem present_iff : (∀ m, (∀ e ∈ l, firstOf m (key e) = some e.value) ↔ FirstsPresent key l m) ↔ Agree key l := by
  constructor
  · intro h e he first hfirst
    have hall := (h (firstMap key l)).mpr (firstsPresent_firstMap key l) e he
    rw [firstOf_firstMap, hfirst] at hall
    exact Option.some.inj hall
  · intro hagree m
    exact ⟨fun h e he => h e (List.mem_of_find?_eq_some he), fun h e he => h.of_agree hagree he⟩

theorem read_iff : (∀ m, (∀ e ∈ l, (firstOf m (key e)).getD "" = e.value) ↔ FirstsPresent key l m) ↔
    Agree key l ∧ ∀ e ∈ l, e.value ≠ "" := by
  constructor
  · intro h
    have hagree : Agree key l := by
      intro e he first hfirst
      have hall := (h (firstMap key l)).mpr (firstsPresent_firstMap key l) e he
      rwa [firstOf_firstMap, hfirst] at hall
    refine ⟨hagree, fun e he hempty => ?_⟩
    -- without the header, the entries that ask for nothing are content
    obtain ⟨first, hfirst, hkey⟩ := @exists_first key l e he
    have hread : ∀ k, firstOf ((firstMap key l).erase (key e)) k =
        if key e = k then none else firstOf (firstMap key l) k := by
      intro k
      rw [firstOf, GoMap.get_erase]
      split_ifs <;> rfl
    have habsent := (h ((firstMap key l).erase (key e))).mp (fun e' he' => by
      rw [hread]
      split_ifs with hsame
      · rw [← hagree e' he' first (by rw [← hsame, hfirst]), hagree e he first hfirst, hempty]
        rfl
      · rw [(firstsPresent_firstMap key l).of_agree hagree he']
        rfl) first (by rw [hkey, hfirst])
    rw [hread, if_pos hkey.symm] at habsent
    cases habsent
  · rintro ⟨hagree, hvalues⟩ m
    refine ⟨fun h e he => ?_, fun h e he => by rw [h.of_agree hagree he]; rfl⟩
    have hmem := List.mem_of_find?_eq_some he
    have hvalue := h e hmem
    cases hm : firstOf m (key e) with
    | none =>
      rw [hm] at hvalue
      exact absurd hvalue.symm (hvalues e hmem)
    | some v =>
      rw [hm] at hvalue
      exact congrArg some hvalue

end

theorem forall_parts_iff {α β γ δ : Type} {a a' : α → Prop} {b b' : β → Prop} {c c' : γ → Prop} {d d' : δ → Prop}
    (ha : ∃ x, a' x) (hb : ∃ y, b' y) (hc : ∃ z, c' z) (hd : ∃ w, d' w) :
    (∀ x y z w, a x ∧ b y ∧ c z ∧ d w ↔ a' x ∧ b' y ∧ c' z ∧ d' w) ↔
      (∀ x, a x ↔ a' x) ∧ (∀ y, b y ↔ b' y) ∧ (∀ z, c z ↔ c' z) ∧ ∀ w, d w ↔ d' w := by
  obtain ⟨x₀, hx⟩ := ha
  obtain ⟨y₀, hy⟩ := hb
  obtain ⟨z₀, hz⟩ := hc
  obtain ⟨w₀, hw⟩ := hd
  constructor
  · intro h
    obtain ⟨hax, hby, hcz, hdw⟩ := (h x₀ y₀ z₀ w₀).mpr ⟨hx, hy, hz, hw⟩
    exact ⟨fun x => by simpa [hby, hcz, hdw, hy, hz, hw] using h x y₀ z₀ w₀,
      fun y => by simpa [hax, hcz, hdw, hx, hz, hw] using h x₀ y z₀ w₀,
      fun z => by simpa [hax, hby, hdw, hx, hy, hw] using h x₀ y₀ z w₀,
      fun w => by simpa [hax, hby, hcz, hx, hy, hz] using h x₀ y₀ z₀ w⟩
  · rintro ⟨ha, hb, hc, hd⟩ x y z w
    rw [ha, hb, hc, hd]

/-! ## Paths -/

/-- The path is the prefix, or goes on behind it with a slash; a slash at its end is not counted. -/
def Continues (pre path : String) : Prop :=
  trimSuffix pre "/" = "" ∨ path = trimSuffix pre "/" ∨ hasPrefix path (trimSuffix pre "/" ++ "/") = true

theorem pathPrefixMatches_iff {pre path : String} : pathPrefixMatches pre path = true ↔ Continues pre path := by
  rw [pathPrefixMatches, Continues]
  generalize trimSuffix pre "/" = stem
  by_cases hempty : stem = ""
  · simp [hempty]
  by_cases hprefix : hasPrefix path stem = true
  · obtain ⟨rest, rfl⟩ := hasPrefix_iff.mp hprefix
    have hslash : "/".toList = ['/'] := rfl
    have hrest : hasPrefix (stem ++ rest) (stem ++ "/") = true ↔ hasPrefix rest "/" = true := by
      simp only [hasPrefix, String.toList_append, List.isPrefixOf_iff_prefix, List.prefix_append_right_inj]
    rw [if_neg hempty, if_pos hprefix, hrest, hasPrefix_slash_iff, String.toList_append, List.drop_left]
    cases hchars : rest.toList with
    | nil =>
      have : rest = "" := String.toList_inj.mp hchars
      simp [this]
    | cons c cs =>
      have hne : stem ++ rest ≠ stem := by
        intro h
        have hlength := congrArg (fun s => s.toList.length) h
        simp [hchars] at hlength
      simp [hempty, hne]
  · have hnot : ¬ hasPrefix path (stem ++ "/") = true := by
      intro h
      obtain ⟨rest, rfl⟩ := hasPrefix_iff.mp h
      exact hprefix (hasPrefix_iff.mpr ⟨"/" ++ rest, String.append_assoc⟩)
    have hne : path ≠ stem := by
      rintro rfl
      exact hprefix (hasPrefix_iff.mpr ⟨"", String.append_empty.symm⟩)
    simp [hempty, hprefix, hnot, hne]

def HTTPPathSatisfied (m : HTTPRouteMatch) (path : String) : Prop :=
  if m.path.bind HTTPPathMatch.type = some "Exact" then path = (m.path.bind HTTPPathMatch.value).getD "/"
  else Continues ((m.path.bind HTTPPathMatch.value).getD "/") path

theorem exists_httpPathSatisfied (m : HTTPRouteMatch) : ∃ path, HTTPPathSatisfied m path := by
  unfold HTTPPathSatisfied
  split_ifs
  · exact ⟨_, rfl⟩
  · exact ⟨_, .inr (.inl rfl)⟩

theorem continues_default {value : Option String} {path : String} :
    value.getD "" = "" ∨ pathPrefixMatches (value.getD "") path = true ↔ Continues (value.getD "/") path := by
  rw [pathPrefixMatches_iff]
  have hroot : ∀ pre, trimSuffix pre "/" = "" → Continues pre path := fun _ h => .inl h
  cases value with
  | none => exact ⟨fun _ => hroot "/" (by decide), fun _ => .inl rfl⟩
  | some v =>
    refine or_iff_right_of_imp fun h => hroot v ?_
    obtain rfl : v = "" := h
    decide

variable {m : HTTPRouteMatch} {c : Match} {service method : String}

theorem pathApplies_iff (h : compileHTTPMatch m = .ok c) :
    (∀ path, pathApplies c path = true ↔ HTTPPathSatisfied m path) ↔
      (m.path.bind HTTPPathMatch.type = some "Exact" → (m.path.bind HTTPPathMatch.value).isSome = true) := by
  have htype : (m.path.bind HTTPPathMatch.type).all (fun type => type = "Exact" || type = "PathPrefix") = true := by
    by_contra hnot
    unfold compileHTTPMatch at h
    rw [if_pos hnot] at h
    cases h
  have haccount := compileHTTPMatch_ok h
  unfold pathApplies HTTPPathSatisfied
  rw [haccount.pathType, haccount.pathValue]
  generalize m.path.bind HTTPPathMatch.type = type at htype ⊢
  generalize m.path.bind HTTPPathMatch.value = value
  cases type with
  | none => simpa using fun path => continues_default
  | some type =>
    rcases Bool.or_eq_true_iff.mp htype with hexact | hprefix
    · obtain rfl := of_decide_eq_true hexact
      cases value with
      | none =>
        refine iff_of_false (fun hall => ?_) fun hsome => absurd (hsome rfl) Bool.false_ne_true
        exact absurd ((hall "/").mpr (by rw [if_pos rfl]; rfl)) (by decide)
      | some v => simp
    · obtain rfl := of_decide_eq_true hprefix
      simpa using fun path => continues_default

/-! ## HTTP matches -/

structure HTTPSatisfies (m : HTTPRouteMatch) (r : Request) : Prop where
  path : HTTPPathSatisfied m r.path
  method : m.method.getD "" = "" ∨ r.method = m.method.getD ""
  headers : FirstsPresent (fun h => canonicalKey h.name) m.headers r.header
  queryParams : FirstsPresent (·.name) m.queryParams r.query

/-- Entries that name one header or parameter ask for one value, no header match for the empty one,
and an exact path is given. -/
structure HTTPUnambiguous (m : HTTPRouteMatch) : Prop where
  path : m.path.bind HTTPPathMatch.type = some "Exact" → (m.path.bind HTTPPathMatch.value).isSome = true
  headers : Agree (fun h => canonicalKey h.name) m.headers ∧ ∀ h ∈ m.headers, h.value ≠ ""
  queryParams : Agree (·.name) m.queryParams

theorem get_eq_firstOf (h : Header) (name : String) : h.get name = (firstOf h (canonicalKey name)).getD "" := by
  rw [Header.get, Header.values, GoMap.read, firstOf]
  cases h[canonicalKey name]? with
  | none => rfl
  | some values => cases values <;> rfl

theorem matchApplies_iff {m : Match} {r : Request} {headers params : List ValueMatch}
    (hheaders : m.headers = headers.map fun h => ⟨h.name, h.value⟩)
    (hparams : m.queryParams = params.map fun q => ⟨q.name, q.value⟩) :
    matchApplies m r = true ↔ pathApplies m r.path = true ∧ (m.method = "" ∨ r.method = m.method) ∧
      (∀ h ∈ headers, (firstOf r.header (canonicalKey h.name)).getD "" = h.value) ∧
      ∀ q ∈ params, firstOf r.query q.name = some q.value := by
  simp [matchApplies, hheaders, hparams, get_eq_firstOf, firstOf, and_assoc]

theorem httpSatisfies_iff {r : Request} : HTTPSatisfies m r ↔
    HTTPPathSatisfied m r.path ∧ (m.method.getD "" = "" ∨ r.method = m.method.getD "") ∧
      FirstsPresent (fun h => canonicalKey h.name) m.headers r.header ∧
      FirstsPresent (·.name) m.queryParams r.query :=
  ⟨fun h => ⟨h.path, h.method, h.headers, h.queryParams⟩, fun h => ⟨h.1, h.2.1, h.2.2.1, h.2.2.2⟩⟩

theorem http_matches_iff (h : compileHTTPMatch m = .ok c) :
    (∀ r : Request, matchApplies c r = true ↔ HTTPSatisfies m r) ↔ HTTPUnambiguous m := by
  have haccount := compileHTTPMatch_ok h
  have hmethod : ∃ method, m.method.getD "" = "" ∨ method = m.method.getD "" := ⟨_, .inr rfl⟩
  have hparts := forall_parts_iff (a := fun path => pathApplies c path = true)
    (b := fun method => m.method.getD "" = "" ∨ method = m.method.getD "")
    (c := fun header => ∀ h ∈ m.headers, (firstOf header (canonicalKey h.name)).getD "" = h.value)
    (d := fun query => ∀ q ∈ m.queryParams, firstOf query q.name = some q.value)
    (exists_httpPathSatisfied m) hmethod
    ⟨_, firstsPresent_firstMap (fun h => canonicalKey h.name) m.headers⟩
    ⟨_, firstsPresent_firstMap (·.name) m.queryParams⟩
  rw [pathApplies_iff h, read_iff, present_iff] at hparts
  simp only [matchApplies_iff haccount.headers haccount.queryParams, haccount.method, httpSatisfies_iff]
  -- the parts of a request can be chosen one by one
  constructor
  · intro hall
    obtain ⟨hpath, -, hheaders, hparams⟩ := hparts.mp fun path method header query =>
      hall ⟨method, "", path, "", query, header, [], "", none⟩
    exact ⟨hpath, hheaders, hparams⟩
  · intro hm r
    exact hparts.mpr ⟨hm.path, fun _ => Iff.rfl, hm.headers, hm.queryParams⟩ r.path r.method r.header r.query

/-! ## gRPC matches -/

structure GRPCSatisfies (m : GRPCRouteMatch) (service method : String) (header : Header) : Prop where
  service : ∀ name ∈ m.method.bind GRPCMethodMatch.service, name = "" ∨ service = name
  method : ∀ name ∈ m.method.bind GRPCMethodMatch.method, name = "" ∨ method = name
  headers : FirstsPresent (fun h => canonicalKey h.name) m.headers header

theorem slash_path_inj {service' method' : String} (h : '/' ∉ service.toList)
    (h' : '/' ∉ service'.toList) (heq : "/" ++ service ++ "/" ++ method = "/" ++ service' ++ "/" ++ method') :
    service = service' ∧ method = method' := by
  have hrest : service ++ "/" ++ method = service' ++ "/" ++ method' :=
    append_cancel (a := "/") (by simpa only [String.append_assoc] using heq)
  exact joined_inj rfl (.inl ⟨h, h'⟩) hrest

theorem pathPrefixMatches_service {name : String} (hne : name ≠ "") (hname : '/' ∉ name.toList)
    (hservice : '/' ∉ service.toList) :
    pathPrefixMatches ("/" ++ name) ("/" ++ service ++ "/" ++ method) = true ↔ service = name := by
  have hslash : "/".toList = ['/'] := rfl
  have hstem : trimSuffix ("/" ++ name) "/" = "/" ++ name := by
    refine if_neg fun hsuffix => ?_
    obtain ⟨t, ht⟩ := hasSuffix_iff.mp hsuffix
    have hlast := congrArg (fun s => s.toList.getLast?) ht
    have hchars : name.toList ≠ [] := fun h => hne (String.toList_inj.mp h)
    simp only [String.toList_append, hslash, List.getLast?_append_of_ne_nil _ hchars, List.getLast?_concat] at hlast
    exact hname (List.mem_of_getLast? hlast)
  rw [pathPrefixMatches_iff, Continues, hstem]
  constructor
  · rintro (hempty | hwhole | hprefix)
    · exact absurd (String.append_eq_empty_iff.mp hempty).1 (by decide)
    · have hrest : service ++ "/" ++ method = name := append_cancel (by rwa [← String.append_assoc, ← String.append_assoc])
      refine absurd ?_ hname
      rw [← hrest]
      simp [hslash]
    · obtain ⟨rest, hrest⟩ := hasPrefix_iff.mp hprefix
      exact (slash_path_inj hservice hname hrest).1
  · rintro rfl
    exact .inr (.inr (hasPrefix_iff.mpr ⟨method, rfl⟩))

theorem grpcPathApplies_iff {m : GRPCRouteMatch} (h : GRPCMatchAccount m c) (hservice : '/' ∉ service.toList)
    (hfree : ∀ name ∈ m.method.bind GRPCMethodMatch.service, '/' ∉ name.toList) :
    pathApplies c ("/" ++ service ++ "/" ++ method) = true ↔
      (∀ name ∈ m.method.bind GRPCMethodMatch.service, name = "" ∨ service = name) ∧
        ∀ name ∈ m.method.bind GRPCMethodMatch.method, name = "" ∨ method = name := by
  have hpath := h.path
  cases hm : m.method with
  | none =>
    rw [hm] at hpath
    simp [pathApplies, hpath.1, hpath.2]
  | some mm =>
    rw [hm] at hpath hfree
    obtain ⟨hne, hpath⟩ := hpath
    cases hs : mm.service with
    | none => simp [hs] at hne
    | some name =>
      simp only [Option.bind_some, hs, Option.getD_some, Option.mem_def, Option.some.injEq, forall_eq'] at hne hfree hpath ⊢
      by_cases hmethod : mm.method.getD "" = ""
      · rw [if_pos hmethod] at hpath
        have hany : ∀ name', mm.method = some name' → name' = "" ∨ method = name' := fun name' h =>
          .inl (by rwa [h] at hmethod)
        simp only [pathApplies, hpath.1, hpath.2, or_true, if_true, Bool.or_eq_true, decide_eq_true_eq,
          pathPrefixMatches_service hne hfree hservice]
        simpa [hne] using fun _ => hany
      · rw [if_neg hmethod] at hpath
        obtain ⟨method', hmethod'⟩ : ∃ method', mm.method = some method' := by
          cases hmm : mm.method with
          | none => simp [hmm] at hmethod
          | some method' => exact ⟨method', rfl⟩
        rw [hmethod', Option.getD_some] at hmethod hpath
        have hinj : "/" ++ service ++ "/" ++ method = "/" ++ name ++ "/" ++ method' ↔ service = name ∧ method = method' :=
          ⟨slash_path_inj hservice hfree, fun h => by rw [h.1, h.2]⟩
        simp [pathApplies, hpath.1, hpath.2, hmethod', hmethod, hne, hinj]

theorem exists_grpcSatisfied (m : GRPCRouteMatch)
    (hfree : ∀ name ∈ m.method.bind GRPCMethodMatch.service, '/' ∉ name.toList) :
    ∃ service method : String, '/' ∉ service.toList ∧
      (∀ name ∈ m.method.bind GRPCMethodMatch.service, name = "" ∨ service = name) ∧
      ∀ name ∈ m.method.bind GRPCMethodMatch.method, name = "" ∨ method = name := by
  refine ⟨(m.method.bind GRPCMethodMatch.service).getD "", (m.method.bind GRPCMethodMatch.method).getD "", ?_, ?_, ?_⟩
  · cases hs : m.method.bind GRPCMethodMatch.service with
    | none => exact List.not_mem_nil
    | some name => exact hfree name hs
  · intro name hname
    rw [Option.mem_def.mp hname]
    exact .inr rfl
  · intro name hname
    rw [Option.mem_def.mp hname]
    exact .inr rfl

theorem grpc_matches_iff {m : GRPCRouteMatch} (h : compileGRPCMatch m = .ok c)
    (hfree : ∀ name ∈ m.method.bind GRPCMethodMatch.service, '/' ∉ name.toList) :
    (∀ (service method : String) (r : Request), '/' ∉ service.toList → r.path = "/" ++ service ++ "/" ++ method →
        (matchApplies c r = true ↔ GRPCSatisfies m service method r.header)) ↔
      Agree (fun h => canonicalKey h.name) m.headers ∧ ∀ h ∈ m.headers, h.value ≠ "" := by
  have haccount := compileGRPCMatch_ok h
  have hspec : ∀ {service method : String} {header : Header}, GRPCSatisfies m service method header ↔
      ((∀ name ∈ m.method.bind GRPCMethodMatch.service, name = "" ∨ service = name) ∧
        ∀ name ∈ m.method.bind GRPCMethodMatch.method, name = "" ∨ method = name) ∧
        FirstsPresent (fun h => canonicalKey h.name) m.headers header :=
    ⟨fun hs => ⟨⟨hs.service, hs.method⟩, hs.headers⟩, fun hs => ⟨hs.1.1, hs.1.2, hs.2⟩⟩
  have happlies : ∀ {service method : String} {r : Request}, '/' ∉ service.toList →
      r.path = "/" ++ service ++ "/" ++ method → (matchApplies c r = true ↔
        ((∀ name ∈ m.method.bind GRPCMethodMatch.service, name = "" ∨ service = name) ∧
          ∀ name ∈ m.method.bind GRPCMethodMatch.method, name = "" ∨ method = name) ∧
          ∀ h ∈ m.headers, (firstOf r.header (canonicalKey h.name)).getD "" = h.value) := by
    intro service method r hservice hpath
    rw [@matchApplies_iff c r m.headers [] haccount.headers haccount.queryParams, hpath,
      grpcPathApplies_iff haccount hservice hfree]
    simp [haccount.method]
  rw [← read_iff]
  constructor
  · intro hall header
    obtain ⟨service, method, hservice, hline⟩ := exists_grpcSatisfied m hfree
    have hr := hall service method ⟨"", "", "/" ++ service ++ "/" ++ method, "", ∅, header, [], "", none⟩ hservice rfl
    rw [happlies hservice rfl, hspec, and_congr_right_iff] at hr
    exact hr hline
  · intro hread service method r hservice hpath
    rw [happlies hservice hpath, hspec, hread r.header]

def spelledTwice : HTTPRouteMatch := ⟨none, [⟨none, "X-Env", "prod"⟩, ⟨none, "x-env", "test"⟩], [], none⟩

end Krouter.ControlPlane
