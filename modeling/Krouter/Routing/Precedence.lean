import Krouter.Lib.Folds
import Krouter.Lib.RunningBest
import Krouter.Routing.Match
import Mathlib.Data.Prod.Lex
import Mathlib.Data.String.Basic
import Mathlib.Order.Nat

/-! The matching precedence as an order of its own: the numeric scores of the source encode it as long as
hostnames and paths are shorter than 65536 bytes. -/

namespace Krouter.Routing
open Compiled Auth Http GoString RunningBest

/-! ## The order -/

abbrev HostRank := ℕ ×ₗ ℕ

/-- Prefix or exact and the length of the path, then the presence of a method, the number
of headers and the number of query parameters. -/
abbrev MatchRank := (ℕ ×ₗ ℕ) ×ₗ ℕ ×ₗ ℕ ×ₗ ℕ

/-- Listener hostname, route hostname, match, then the older route, then the smaller name. -/
abbrev Rank := HostRank ×ₗ HostRank ×ₗ MatchRank ×ₗ ℤᵒᵈ ×ₗ Stringᵒᵈ

def hostRank (hostname : String) : HostRank :=
  if hostname = "" then toLex (0, 0)
  else if hasPrefix hostname "*." then toLex (1, hostname.utf8ByteSize)
  else toLex (2, hostname.utf8ByteSize)

/-- The most specific matching hostname of the route, or the listener's without any. -/
def routeRank (listener : ListenerTable) (route : RouteTable) (host : String) : HostRank :=
  if route.hostnames = [] then hostRank listener.hostname
  else ((route.hostnames.filter fun p => hostnameMatches p host).map hostRank).foldl max ⊥

def pathRank (m : Match) : ℕ ×ₗ ℕ :=
  if m.pathType = "Exact" then toLex (1, m.pathValue.utf8ByteSize)
  else toLex (0, (trimSuffix m.pathValue "/").utf8ByteSize)

def matchRank (m : Match) : MatchRank :=
  toLex (pathRank m, toLex (if m.method ≠ "" then 1 else 0,
    toLex (m.headers.length, m.queryParams.length)))

/-- The best applying match of the rule, bottom without any. -/
def ruleRank (rule : RuleTable) (r : Request) : MatchRank :=
  ((rule.ruleMatches.filter fun m => matchApplies m r).map matchRank).foldl max ⊥

def rank (host : String) (r : Request) (c : Matched) : Rank :=
  toLex (hostRank c.listener.hostname, toLex (routeRank c.listener c.route host,
    toLex (ruleRank c.rule r, toLex (OrderDual.toDual c.route.created.toInt,
      OrderDual.toDual c.route.key))))

/-! ## Candidates -/

def tableOrder (table : PortTable) : List Matched :=
  table.listeners.flatMap fun listener => listener.routes.flatMap fun route =>
    route.rules.map fun rule => ⟨rule, listener, route⟩

/-- The listener is one of the most specific ones that match the host. -/
def MostSpecific (table : PortTable) (host : String) (listener : ListenerTable) : Prop :=
  hostnameMatches listener.hostname host = true ∧ ∀ other ∈ table.listeners,
    hostnameMatches other.hostname host = true → hostRank other.hostname ≤ hostRank listener.hostname

def RuleApplies (rule : RuleTable) (r : Request) : Prop :=
  rule.ruleMatches = [] ∨ ∃ m ∈ rule.ruleMatches, matchApplies m r = true

@[mk_iff]
structure IsCandidate (table : PortTable) (host : String) (r : Request) (grpc : Bool) (c : Matched) :
    Prop where
  listener : MostSpecific table host c.listener
  route : routeHostnameMatches c.route.hostnames host = true
  rule : RuleApplies c.rule r
  grpc : c.rule.grpc = grpc

/-- Every hostname and path is shorter than 65536 bytes, as the Gateway API enforces. -/
structure Bounded (table : PortTable) : Prop where
  listener : ∀ l ∈ table.listeners, l.hostname.utf8ByteSize < 65536
  route : ∀ l ∈ table.listeners, ∀ rt ∈ l.routes, ∀ h ∈ rt.hostnames, h.utf8ByteSize < 65536
  path : ∀ l ∈ table.listeners, ∀ rt ∈ l.routes, ∀ rule ∈ rt.rules, ∀ m ∈ rule.ruleMatches,
    m.pathValue.utf8ByteSize < 65536

theorem mem_tableOrder {table : PortTable} {c : Matched} : c ∈ tableOrder table ↔
    c.listener ∈ table.listeners ∧ c.route ∈ c.listener.routes ∧ c.rule ∈ c.route.rules := by
  simp only [tableOrder, List.mem_flatMap, List.mem_map]
  constructor
  · rintro ⟨listener, hl, route, hr, rule, hrule, rfl⟩
    exact ⟨hl, hr, hrule⟩
  · rintro ⟨hl, hr, hrule⟩
    exact ⟨c.listener, hl, c.route, hr, c.rule, hrule, rfl⟩

/-! ## Scores encode ranks -/

inductive HostCode : Int → HostRank → Prop where
  | absent : HostCode 0 (toLex (0, 0))
  | wildcard (n : ℕ) : 0 < n → n < 65536 → HostCode n (toLex (1, n))
  | exact (n : ℕ) : n < 65536 → HostCode (65536 + n) (toLex (2, n))

theorem hostCode_encodes : Encodes HostCode := by
  intro s a t b hs ht
  cases hs <;> cases ht <;> simp only [Prod.Lex.toLex_lt_toLex, true_and] <;> omega

theorem HostCode.nonneg {s : Int} {a : HostRank} (h : HostCode s a) : 0 ≤ s := by
  cases h <;> omega

theorem hostnameScore_code {h : String} (hb : h.utf8ByteSize < 65536) :
    HostCode (hostnameScore h) (hostRank h) := by
  unfold hostnameScore hostRank
  split_ifs with h0 h1
  · exact .absent
  · exact .wildcard _ (Nat.pos_of_ne_zero fun hz => h0 (String.utf8ByteSize_eq_zero_iff.mp hz)) hb
  · exact .exact _ hb

theorem routeHostnameScore_code {listener : ListenerTable} {route : RouteTable} {host : String}
    (hl : listener.hostname.utf8ByteSize < 65536)
    (hr : ∀ h ∈ route.hostnames, h.utf8ByteSize < 65536) :
    HostCode (routeHostnameScore listener route host) (routeRank listener route host) := by
  unfold routeHostnameScore routeRank
  split_ifs with h0
  · exact hostnameScore_code hl
  · rw [foldl_keepMax (fun p => hostnameMatches p host)]
    refine hostCode_encodes.foldl_max (fun h hh => hostnameScore_code (hr h ?_)) .absent
    exact List.mem_of_mem_filter hh

inductive PathCode : Int → ℕ ×ₗ ℕ → Prop where
  | pathPrefix (n : ℕ) : n < 65536 → PathCode n (toLex (0, n))
  | exact (n : ℕ) : n < 65536 → PathCode (65536 + n) (toLex (1, n))

theorem pathCode_encodes : Encodes PathCode := by
  intro s a t b hs ht
  cases hs <;> cases ht <;> simp only [Prod.Lex.toLex_lt_toLex, true_and] <;> omega

theorem pathScore_code {m : Match} {r : Request} (ha : matchApplies m r = true)
    (hb : m.pathValue.utf8ByteSize < 65536) : PathCode (pathScore m) (pathRank m) := by
  unfold pathScore pathRank
  split_ifs with h0 h1
  · exact .exact _ hb
  · exact .pathPrefix _ ((utf8ByteSize_trimSuffix_le).trans_lt hb)
  · simp [matchApplies, pathApplies, h0, h1] at ha

structure SpecCode (s : RuleSpecificity) (a : MatchRank) : Prop where
  path : PathCode s.path (ofLex a).1
  method : s.method = (ofLex (ofLex a).2).1
  headers : s.headers = (ofLex (ofLex (ofLex a).2).2).1
  queryParams : s.queryParams = (ofLex (ofLex (ofLex a).2).2).2

theorem SpecCode.beats_iff {s t : RuleSpecificity} {a b : MatchRank} (hs : SpecCode s a)
    (ht : SpecCode t b) : t.beats s = true ↔ a < b := by
  have hpath := pathCode_encodes _ _ _ _ hs.path ht.path
  have hpathEq := pathCode_encodes.eq_iff hs.path ht.path
  rw [RuleSpecificity.beats, ite_ne_iff (by simp +contextual), ite_ne_iff (by simp +contextual),
    ite_ne_iff (by simp +contextual)]
  simp only [decide_eq_true_eq]
  rw [hs.method, ht.method, hs.headers, ht.headers, hs.queryParams, ht.queryParams, hpath, hpathEq,
    Prod.Lex.lt_iff (x := a), Prod.Lex.lt_iff (x := (ofLex a).2),
    Prod.Lex.lt_iff (x := (ofLex (ofLex a).2).2)]
  simp only [Int.ofNat_lt, Int.natCast_inj]

theorem SpecCode.eq_iff {s t : RuleSpecificity} {a b : MatchRank} (hs : SpecCode s a)
    (ht : SpecCode t b) : s = t ↔ a = b := by
  have heq := pathCode_encodes.eq_iff hs.path ht.path
  obtain ⟨-, hsm, hsh, hsq⟩ := hs
  obtain ⟨-, htm, hth, htq⟩ := ht
  rw [RuleSpecificity.mk.injEq, heq, hsm, htm, hsh, hth, hsq, htq]
  simp only [Int.natCast_inj]
  constructor
  · rintro ⟨hp, hm, hh, hq⟩
    exact Prod.ext hp (Prod.ext hm (Prod.ext hh hq))
  · rintro rfl
    exact ⟨rfl, rfl, rfl, rfl⟩

theorem matchSpecificity_code {m : Match} {r : Request} (ha : matchApplies m r = true)
    (hb : m.pathValue.utf8ByteSize < 65536) : SpecCode (matchSpecificity m) (matchRank m) where
  path := pathScore_code ha hb
  method := by
    change (if m.method ≠ "" then 1 else 0 : Int) = ((if m.method ≠ "" then 1 else 0 : ℕ) : Int)
    split_ifs <;> rfl
  headers := rfl
  queryParams := rfl

theorem ruleBestMatch_eq (rule : RuleTable) (r : Request) : ruleBestMatch rule r =
    if rule.ruleMatches = [] then some ⟨0, 0, 0, 0⟩
    else ((rule.ruleMatches.filter fun m => matchApplies m r).foldl
      (keepBest fun m b => (matchSpecificity m).beats (matchSpecificity b)) none).map
        matchSpecificity := by
  rw [← foldl_keepBest_map, List.foldl_filter]
  unfold ruleBestMatch
  congr
  funext best m
  cases best <;> rfl

theorem ruleBestMatch_code (rule : RuleTable) (r : Request)
    (hb : ∀ m ∈ rule.ruleMatches, m.pathValue.utf8ByteSize < 65536) :
    (ruleBestMatch rule r = none ∧ ¬ RuleApplies rule r) ∨
      ∃ s, ruleBestMatch rule r = some s ∧ SpecCode s (ruleRank rule r) ∧ RuleApplies rule r := by
  rw [ruleBestMatch_eq]
  split_ifs with h0
  · refine .inr ⟨_, rfl, ?_, .inl h0⟩
    rw [ruleRank, h0]
    exact ⟨.pathPrefix 0 (by decide), rfl, rfl, rfl⟩
  · have hcode : ∀ m ∈ rule.ruleMatches.filter (fun m => matchApplies m r),
        SpecCode (matchSpecificity m) (matchRank m) := fun m hm =>
      matchSpecificity_code (List.mem_filter.mp hm).2 (hb m (List.mem_filter.mp hm).1)
    rcases foldl_keepBest matchRank _ fun c hc b hb => (hcode b hb).beats_iff (hcode c hc) with
      ⟨hnil, hn⟩ | ⟨m, hm, hs⟩
    · refine .inl ⟨by rw [hn]; rfl, ?_⟩
      rintro (h | ⟨m, hm, ha⟩)
      · exact h0 h
      · exact List.filter_eq_nil_iff.mp hnil m hm ha
    · refine .inr ⟨matchSpecificity m, by rw [hs]; rfl, ?_, .inr ⟨m, List.mem_filter.mp hm.mem⟩⟩
      rw [ruleRank, hm.foldl_max fun _ => bot_le]
      exact hcode m hm.mem

structure ScoreCode (s : MatchScore) (a : Rank) : Prop where
  listenerHostname : HostCode s.listenerHostname (ofLex a).1
  routeHostname : HostCode s.routeHostname (ofLex (ofLex a).2).1
  specificity : SpecCode s.specificity (ofLex (ofLex (ofLex a).2).2).1
  created : OrderDual.toDual s.created.toInt = (ofLex (ofLex (ofLex (ofLex a).2).2).2).1
  name : OrderDual.toDual s.name = (ofLex (ofLex (ofLex (ofLex a).2).2).2).2

theorem ScoreCode.beats_iff {s t : MatchScore} {a b : Rank} (hs : ScoreCode s a)
    (ht : ScoreCode t b) : t.beats s = true ↔ a < b := by
  have hl := hostCode_encodes _ _ _ _ hs.listenerHostname ht.listenerHostname
  have hle := hostCode_encodes.eq_iff hs.listenerHostname ht.listenerHostname
  have hr := hostCode_encodes _ _ _ _ hs.routeHostname ht.routeHostname
  have hre := hostCode_encodes.eq_iff hs.routeHostname ht.routeHostname
  have hm := hs.specificity.beats_iff ht.specificity
  have hme := hs.specificity.eq_iff ht.specificity
  have hirrefl : s.specificity = t.specificity → t.specificity.beats s.specificity = false := by
    intro he
    rw [← Bool.not_eq_true, hm]
    exact (hme.mp he).not_lt
  rw [MatchScore.beats, ite_ne_iff (by simp +contextual), ite_ne_iff (by simp +contextual),
    ite_ne_iff hirrefl, ite_ne_iff (by simp +contextual), hm, hme]
  simp only [decide_eq_true_eq]
  rw [hl, hle, hr, hre, Int64.lt_iff_toInt_lt, ← Int64.toInt_inj,
    Prod.Lex.lt_iff (x := a), Prod.Lex.lt_iff (x := (ofLex a).2),
    Prod.Lex.lt_iff (x := (ofLex (ofLex a).2).2), Prod.Lex.lt_iff (x := (ofLex (ofLex (ofLex a).2).2).2),
    ← hs.created, ← ht.created, ← hs.name, ← ht.name, OrderDual.toDual_lt_toDual,
    OrderDual.toDual_lt_toDual, OrderDual.toDual_inj]

section
variable {table : PortTable} {host : String} {r : Request} {grpc : Bool}

instance (rule : RuleTable) : Decidable (RuleApplies rule r) :=
  inferInstanceAs (Decidable (_ ∨ _))

instance (listener : ListenerTable) : Decidable (MostSpecific table host listener) :=
  inferInstanceAs (Decidable (_ ∧ _))

instance (c : Matched) : Decidable (IsCandidate table host r grpc c) :=
  decidable_of_iff _ (isCandidate_iff table host r grpc c).symm

variable (table host r grpc) in
def candidates : List Matched := (tableOrder table).filter (IsCandidate table host r grpc ·)

def scored (host : String) (r : Request) (grpc : Bool) (winning : Int) (c : Matched) : Best :=
  if hostnameMatches c.listener.hostname host ∧ hostnameScore c.listener.hostname = winning ∧
      routeHostnameMatches c.route.hostnames host ∧ c.rule.grpc = grpc then
    (ruleBestMatch c.rule r).map fun specificity => (c, ⟨hostnameScore c.listener.hostname,
      routeHostnameScore c.listener c.route host, specificity, c.route.created, c.route.key⟩)
  else none

def keepScored (host : String) (r : Request) (grpc : Bool) (winning : Int) (best : Best)
    (c : Matched) : Best :=
  match scored host r grpc winning c with
  | none => best
  | some s => keepBest (fun s b => s.2.beats b.2) best s

variable {winning : Int} {listener : ListenerTable} {c : Matched}

theorem matchRule_eq {route : RouteTable}
    (hl : hostnameMatches listener.hostname host ∧ hostnameScore listener.hostname = winning)
    (hr : routeHostnameMatches route.hostnames host) (best : Best) (rule : RuleTable) :
    matchRule host r grpc listener route best rule =
      keepScored host r grpc winning best ⟨rule, listener, route⟩ := by
  unfold matchRule keepScored scored
  by_cases hg : rule.grpc = grpc
  · rw [if_neg (not_not_intro hg), if_pos ⟨hl.1, hl.2, hr, hg⟩]
    cases ruleBestMatch rule r with
    | none => rfl
    | some specificity => cases best <;> rfl
  · rw [if_pos hg, if_neg fun h => hg h.2.2.2]

theorem keepScored_of_not (h : ¬ (hostnameMatches c.listener.hostname
    host ∧ hostnameScore c.listener.hostname = winning ∧ routeHostnameMatches c.route.hostnames host))
    (best : Best) : keepScored host r grpc winning best c = best := by
  rw [keepScored, scored, if_neg fun hc => h ⟨hc.1, hc.2.1, hc.2.2.1⟩]

theorem foldl_keepScored_of_not {cs : List Matched} (h : ∀ c ∈ cs,
    ¬ (hostnameMatches c.listener.hostname host ∧ hostnameScore c.listener.hostname = winning ∧
      routeHostnameMatches c.route.hostnames host)) (best : Best) :
    cs.foldl (keepScored host r grpc winning) best = best :=
  List.foldl_kept id (fun best c hc => keepScored_of_not (h c hc) best) best

theorem matchRoute_eq (hl : hostnameMatches listener.hostname host ∧ hostnameScore listener.hostname = winning)
    (best : Best) (route : RouteTable) : matchRoute host r grpc listener best route =
      (route.rules.map fun rule => (⟨rule, listener, route⟩ : Matched)).foldl
        (keepScored host r grpc winning) best := by
  unfold matchRoute
  split_ifs with hr
  · rw [List.foldl_map]
    exact congrArg (fun f => route.rules.foldl f best)
      (funext fun b => funext fun rule => matchRule_eq hl hr b rule)
  · rw [foldl_keepScored_of_not]
    intro c hc h
    obtain ⟨rule, -, rfl⟩ := List.mem_map.mp hc
    exact hr h.2.2

theorem matchListener_eq (winning : Int) (best : Best) (listener : ListenerTable) :
    matchListener host r grpc winning best listener =
      (listener.routes.flatMap fun route => route.rules.map fun rule =>
        (⟨rule, listener, route⟩ : Matched)).foldl (keepScored host r grpc winning) best := by
  unfold matchListener
  split_ifs with hl
  · rw [List.foldl_flatMap]
    exact congrArg (fun f => listener.routes.foldl f best)
      (funext fun b => funext fun route => matchRoute_eq hl b route)
  · rw [foldl_keepScored_of_not]
    intro c hc h
    obtain ⟨route, -, hc⟩ := List.mem_flatMap.mp hc
    obtain ⟨rule, -, rfl⟩ := List.mem_map.mp hc
    exact hl ⟨h.1, h.2.1⟩

theorem matchPort_eq : matchPort table host r grpc =
    (((tableOrder table).filterMap (scored host r grpc (winningScore table.listeners host))).foldl
      (keepBest fun s b => s.2.beats b.2) none).map Prod.fst := by
  have hfold : ∀ (cs : List Matched) (winning : Int) (best : Best),
      (cs.filterMap (scored host r grpc winning)).foldl (keepBest fun s b => s.2.beats b.2) best =
        cs.foldl (keepScored host r grpc winning) best := by
    intro cs winning best
    rw [List.foldl_filterMap]
    refine congrArg (fun f => cs.foldl f best) (funext fun b => funext fun c => ?_)
    rw [keepScored]
    cases scored host r grpc winning c <;> rfl
  rw [hfold, tableOrder, List.foldl_flatMap, matchPort]
  exact congrArg (fun f => (table.listeners.foldl f none).map Prod.fst)
    (funext fun best => funext fun listener => matchListener_eq _ best listener)

theorem mem_tableOrder_of_matchPort (h : matchPort table host r grpc = some c) : c ∈ tableOrder table := by
  rw [matchPort_eq] at h
  obtain ⟨s, hs, rfl⟩ := Option.map_eq_some_iff.mp h
  obtain ⟨c, hc, hs⟩ := List.mem_filterMap.mp (mem_of_foldl_keepBest hs)
  unfold scored at hs
  split_ifs at hs
  obtain ⟨specificity, -, rfl⟩ := Option.map_eq_some_iff.mp hs
  exact hc

theorem winningScore_eq_iff (hb : Bounded table)
    (hl : listener ∈ table.listeners) (hm : hostnameMatches listener.hostname host) :
    hostnameScore listener.hostname = winningScore table.listeners host ↔
      MostSpecific table host listener := by
  have hcode : ∀ l ∈ table.listeners, HostCode (hostnameScore l.hostname) (hostRank l.hostname) :=
    fun l hl => hostnameScore_code (hb.listener l hl)
  have hmax := foldl_keepMax (fun l : ListenerTable => hostnameMatches l.hostname host)
    (fun l => hostnameScore l.hostname) table.listeners (-1)
  rw [winningScore, hmax]
  have hmem : ∀ l ∈ table.listeners, hostnameMatches l.hostname host → hostnameScore l.hostname ∈
      (table.listeners.filter fun l => hostnameMatches l.hostname host).map
        fun l => hostnameScore l.hostname :=
    fun l hl hm => List.mem_map_of_mem (List.mem_filter.mpr ⟨hl, hm⟩)
  constructor
  · intro he
    refine ⟨hm, fun other ho hom => (hostCode_encodes.le_iff (hcode other ho) (hcode _ hl)).mp ?_⟩
    rw [he]
    exact le_foldl_max.2 _ (hmem other ho hom)
  · intro hs
    refine le_antisymm (le_foldl_max.2 _ (hmem listener hl hm)) ?_
    rcases foldl_max_mem (l := (table.listeners.filter fun l => hostnameMatches l.hostname host).map
      fun l => hostnameScore l.hostname) (b := -1) with h | h
    · have hpos := (hcode listener hl).nonneg
      omega
    · obtain ⟨other, ho, he⟩ := List.mem_map.mp h
      obtain ⟨ho, hom⟩ := List.mem_filter.mp ho
      rw [← he]
      exact (hostCode_encodes.le_iff (hcode other ho) (hcode _ hl)).mpr (hs.2 other ho hom)

theorem scored_spec (hb : Bounded table) (hc : c ∈ tableOrder table) :
    (scored host r grpc (winningScore table.listeners host) c = none ∧
        ¬ IsCandidate table host r grpc c) ∨
      ∃ s, scored host r grpc (winningScore table.listeners host) c = some (c, s) ∧
        ScoreCode s (rank host r c) ∧ IsCandidate table host r grpc c := by
  obtain ⟨hl, hrt, hrule⟩ := mem_tableOrder.mp hc
  unfold scored
  split_ifs with h
  · obtain ⟨hm, hw, hr, hg⟩ := h
    have hs := (winningScore_eq_iff hb hl hm).mp hw
    rcases ruleBestMatch_code c.rule r (hb.path _ hl _ hrt _ hrule) with
      ⟨hn, ha⟩ | ⟨s, hs', hcode, ha⟩
    · exact .inl ⟨by rw [hn]; rfl, fun hc => ha hc.rule⟩
    · refine .inr ⟨_, by rw [hs']; rfl, ?_, ⟨hs, hr, ha, hg⟩⟩
      exact ⟨hostnameScore_code (hb.listener _ hl),
        routeHostnameScore_code (hb.listener _ hl) (hb.route _ hl _ hrt), hcode, rfl, rfl⟩
  · refine .inl ⟨rfl, fun hc => h ⟨hc.listener.1, ?_, hc.route, hc.grpc⟩⟩
    exact (winningScore_eq_iff hb hl hc.listener.1).mpr hc.listener

theorem map_scored (hb : Bounded table) : ((tableOrder table).filterMap
    (scored host r grpc (winningScore table.listeners host))).map Prod.fst =
      candidates table host r grpc := by
  rw [List.map_filterMap, candidates, ← List.filterMap_eq_filter]
  refine List.filterMap_congr fun c hc => ?_
  rcases scored_spec hb hc with ⟨hs, hn⟩ | ⟨s, hs, -, hy⟩
  · rw [hs, Option.guard_eq_none_iff.mpr (by simpa using hn)]
    rfl
  · rw [hs]
    simp [hy]

theorem matchPort_spec (host : String) (r : Request) (grpc : Bool) (hb : Bounded table) :
    (matchPort table host r grpc = none ∧ candidates table host r grpc = []) ∨
      ∃ c, matchPort table host r grpc = some c ∧
        FirstMax (rank host r) (candidates table host r grpc) c := by
  rw [matchPort_eq, ← map_scored hb]
  have hcode : ∀ s ∈ (tableOrder table).filterMap
      (scored host r grpc (winningScore table.listeners host)), ScoreCode s.2 (rank host r s.1) := by
    intro s hs
    obtain ⟨c, hc, hs⟩ := List.mem_filterMap.mp hs
    rcases scored_spec hb hc with ⟨hn, -⟩ | ⟨score, hsome, hcode, -⟩
    · rw [hn] at hs
      cases hs
    · rw [hsome] at hs
      cases hs
      exact hcode
  rcases foldl_keepBest (fun s : Matched × MatchScore => rank host r s.1) _
    fun s hs b hb => (hcode b hb).beats_iff (hcode s hs) with ⟨hnil, hn⟩ | ⟨s, hmax, hs⟩
  · exact .inl ⟨by rw [hn]; rfl, by rw [hnil]; rfl⟩
  · exact .inr ⟨s.1, by rw [hs]; rfl, hmax.map⟩

end

namespace Tables

/-- The candidates a request is matched against: those of GRPCRoutes for a gRPC request
that has any, else those of HTTPRoutes. -/
def wantedCandidates (t : Tables) (port : Int32) (host : String) (r : Request) : List Matched :=
  match t.byPort[port]? with
  | none => []
  | some table =>
    if isGRPCRequest r ∧ candidates table host r true ≠ [] then candidates table host r true
    else candidates table host r false

theorem matchPort_of_matchRequest {t : Tables} {port : Int32} {host : String} {r : Request} {c : Matched}
    (h : t.matchRequest port host r = some c) :
    ∃ table, t.byPort[port]? = some table ∧ ∃ grpc, matchPort table host r grpc = some c := by
  have hfor : ∃ grpc, t.matchFor port host r grpc = some c := by
    unfold matchRequest at h
    split_ifs at h
    · exact (Option.or_eq_some_iff.mp h).elim (⟨true, ·⟩) fun h => ⟨false, h.2⟩
    · exact ⟨false, h⟩
  obtain ⟨grpc, hm⟩ := hfor
  obtain ⟨table, ht, hm⟩ := Option.bind_eq_some_iff.mp hm
  exact ⟨table, ht, grpc, hm⟩

theorem mem_tableOrder_of_matchRequest {t : Tables} {port : Int32} {host : String} {r : Request}
    {c : Matched} (h : t.matchRequest port host r = some c) :
    ∃ table, t.byPort[port]? = some table ∧ c ∈ tableOrder table := by
  obtain ⟨table, ht, grpc, hm⟩ := matchPort_of_matchRequest h
  exact ⟨table, ht, mem_tableOrder_of_matchPort hm⟩

theorem matchRequest_spec (t : Tables) (port : Int32) (host : String) (r : Request)
    (hb : ∀ table, t.byPort[port]? = some table → Bounded table) :
    (t.matchRequest port host r = none ∧ t.wantedCandidates port host r = []) ∨
      ∃ c, t.matchRequest port host r = some c ∧
        FirstMax (rank host r) (t.wantedCandidates port host r) c := by
  unfold matchRequest matchFor wantedCandidates
  cases ht : t.byPort[port]? with
  | none => exact .inl ⟨by simp, rfl⟩
  | some table =>
    have hb := hb table ht
    by_cases hg : isGRPCRequest r
    · rcases matchPort_spec host r true hb with ⟨hn, hc⟩ | ⟨c, hs, hc⟩
      · simpa [hg, hn, hc] using matchPort_spec host r false hb
      · have hne := List.ne_nil_of_mem hc.mem
        exact .inr ⟨c, by simp [hg, hs], by simpa [hg, hne] using hc⟩
    · simpa [hg] using matchPort_spec host r false hb

/-- `Match` finds a rule exactly when there is a candidate, and then the first in table
order of those with the greatest rank. -/
theorem matchRequest_precedence (t : Tables) (port : Int32) (host : String) (r : Request)
    (hb : ∀ table, t.byPort[port]? = some table → Bounded table) :
    ((t.matchRequest port host r).isSome ↔ t.wantedCandidates port host r ≠ []) ∧
      ∀ c, t.matchRequest port host r = some c ↔
        FirstMax (rank host r) (t.wantedCandidates port host r) c := by
  rcases matchRequest_spec t port host r hb with ⟨hn, hc⟩ | ⟨c, hs, hc⟩
  · rw [hn, hc]
    refine ⟨by simp, fun c => ⟨fun h => (by cases h), fun h => ?_⟩⟩
    cases h.mem
  · rw [hs]
    refine ⟨by simpa using List.ne_nil_of_mem hc.mem, fun d => ⟨fun h => ?_, fun h => ?_⟩⟩
    · rwa [← Option.some.inj h]
    · rw [hc.unique h]

def shopRule (pathType pathValue : String) : RuleTable where
  ruleMatches := [⟨pathType, pathValue, "", [], []⟩]
  filters := []
  backends := []
  mirrors := []
  cors := none
  grpc := false
  requestTimeout := 0
  backendTimeout := 0
  total := 0
  limiter := none
  wafEngine := none
  authEnforcer := none
  extensionsInvalid := false

def shopRoute : RouteTable :=
  ⟨"store", "shop", ["*.example.com"], 0, [shopRule "PathPrefix" "/shop", shopRule "Exact" "/shop/cart"]⟩

def shopListener : ListenerTable :=
  ⟨"web", "*.example.com", none, false, none, .noClientCert, [shopRoute]⟩

def shopTables : Tables :=
  ⟨(∅ : GoMap Int32 PortTable).insert 8080
    ⟨"uid", "gateway", false, false, false, false, false, [shopListener], []⟩, ∅⟩

def cartRequest : Request := ⟨"GET", "www.example.com", "/shop/cart", "/shop/cart", ∅, ∅, [], "", none⟩

theorem cart_matches_exact_rule :
    shopTables.matchRequest 8080 "www.example.com" cartRequest =
      some ⟨shopRule "Exact" "/shop/cart", shopListener, shopRoute⟩ := by
  have hb : ∀ table, shopTables.byPort[(8080 : Int32)]? = some table → Bounded table := by
    intro table ht
    obtain rfl : table = ⟨"uid", "gateway", false, false, false, false, false, [shopListener], []⟩ := by
      rw [shopTables, GoMap.get_insert_self] at ht
      exact (Option.some.inj ht).symm
    exact ⟨by decide, by decide, by decide⟩
  refine ((matchRequest_precedence shopTables 8080 "www.example.com" cartRequest hb).2 _).mpr ?_
  refine ⟨[⟨shopRule "PathPrefix" "/shop", shopListener, shopRoute⟩], [], ?_, ?_, ?_⟩
  · decide
  · decide
  · decide

end Tables

end Krouter.Routing
