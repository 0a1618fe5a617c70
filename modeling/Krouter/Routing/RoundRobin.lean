import Krouter.Lib.Tickets
import Krouter.Routing.Backends
import Mathlib.Data.List.Rotate

/-! Weighted round-robin under concurrent requests: each draws one number of a counter, and a full round of
numbers gives everyone their share. -/

namespace Krouter.Routing
open Compiled

/-! ## The entry that is picked -/

def pickPlace : List BackendTable → Int → Option ℕ
  | [], _ => none
  | backend :: backends, slot =>
    if slot - backend.weight.toInt < 0 then some 0
    else (pickPlace backends (slot - backend.weight.toInt)).map (· + 1)

def RuleTable.pickPlace (rule : RuleTable) (counter : ℕ) : Option ℕ :=
  if rule.total ≤ 0 then none else Routing.pickPlace rule.backends (counter % rule.total.toInt)

theorem pickSlot_eq_pickPlace (backends : List BackendTable) (slot : Int) :
    pickSlot backends slot = (pickPlace backends slot).bind fun place => backends[place]? := by
  induction backends generalizing slot with
  | nil => rfl
  | cons b backends ih =>
    rw [pickSlot, pickPlace]
    split
    · rfl
    · rw [ih, Option.bind_map]
      rfl

theorem RuleTable.pickBackend_eq_pickPlace (rule : RuleTable) (turn : Turn) :
    rule.pickBackend turn = (rule.pickPlace turn.rule).bind fun place => rule.backends[place]? := by
  unfold RuleTable.pickBackend pickBucket RuleTable.pickPlace
  split
  · rfl
  · exact pickSlot_eq_pickPlace ..

theorem pickPlace_eq_place {backends : List BackendTable} (hw : ∀ b ∈ backends, 0 < b.weight) (slot : ℕ) :
    pickPlace backends slot = WeightedSlots.place share backends slot := by
  induction backends generalizing slot with
  | nil => rfl
  | cons b backends ih =>
    rw [pickPlace, WeightedSlots.place, ← toInt_share (hw b (.head _))]
    by_cases hlt : slot < share b
    · rw [if_pos hlt, if_pos (by omega)]
    · rw [if_neg hlt, if_neg (by omega), ← Int.ofNat_sub (by omega)]
      exact congrArg _ (ih (fun c hc => hw c (List.mem_cons_of_mem b hc)) _)

theorem Weighted.pickPlace_eq {rule : RuleTable} (hw : Weighted rule) (counter : ℕ) :
    rule.pickPlace counter =
      WeightedSlots.place share rule.backends (counter % WeightedSlots.total share rule.backends) := by
  have htotal := hw.total.trans (total_share hw.positive).symm
  unfold RuleTable.pickPlace
  split_ifs with hzero
  · rw [hw.nil_of_total_le hzero]
    rfl
  · rw [htotal, ← Int.natCast_mod, pickPlace_eq_place hw.positive]

/-! ## Weights of the compiled rule -/

def totalWeight (rule : Rule) : ℕ := (rule.backends.map fun b => b.weight.toInt.toNat).sum

theorem sum_filter_weights (backends : List Backend) :
    ((backends.filter fun b => 0 < b.weight).map fun b => b.weight.toInt.toNat).sum =
      (backends.map fun b => b.weight.toInt.toNat).sum := by
  induction backends with
  | nil => rfl
  | cons b backends ih =>
    rw [List.map_cons, List.sum_cons, ← ih]
    by_cases hw : 0 < b.weight
    · rw [List.filter_cons_of_pos (by simpa using hw), List.map_cons, List.sum_cons]
    · have hle : b.weight.toInt ≤ 0 := not_lt.mp fun hlt => hw (Int32.lt_iff_toInt_lt.mpr hlt)
      rw [List.filter_cons_of_neg (by simpa using hw), Int.toNat_of_nonpos hle, Nat.zero_add]

section
variable {p : Platform} {secret : Option SecretData} {route : RouteConfig} {rule : Rule} {t : RuleTable}

theorem CompiledFrom.total_share (h : CompiledFrom p secret route rule t) :
    WeightedSlots.total share t.backends = totalWeight rule := by
  have hshares : (rule.backends.filter fun b => 0 < b.weight).map (fun b => b.weight.toInt.toNat) =
      t.backends.map share := by
    refine List.forall₂_eq_eq_eq ▸ List.forall₂_map_left_iff.mpr (List.forall₂_map_right_iff.mpr ?_)
    exact h.sameReference.imp fun b entry hsame => by rw [share, hsame.2.2.2.1]
  rw [totalWeight, ← sum_filter_weights, hshares, WeightedSlots.total]

theorem CompiledFrom.weighted_of_totalWeight (h : CompiledFrom p secret route rule t)
    (hfits : totalWeight rule < 2 ^ 63) : Weighted t := by
  have hpositive := h.positive
  refine h.weighted ?_
  rw [← Routing.total_share hpositive, h.total_share]
  exact_mod_cast hfits

theorem totalWeight_eq_zero_iff (hnonneg : ∀ b ∈ rule.backends, 0 ≤ b.weight) :
    totalWeight rule = 0 ↔ ∀ b ∈ rule.backends, b.weight = 0 := by
  rw [totalWeight, List.sum_eq_zero_iff_forall_eq_nat, List.forall_mem_map]
  refine forall₂_congr fun b hb => ?_
  have hle : (0 : Int) ≤ b.weight.toInt := Int32.le_iff_toInt_le.mp (hnonneg b hb)
  rw [Int.toNat_eq_zero, ← Int32.toInt_inj]
  exact ⟨fun h => le_antisymm h hle, fun h => h.le⟩

end

/-! ## Full rounds -/

/-- Requests draw from the counter and are answered in any order; it stays below `2 ^ 63` and every number of
the window is answered. -/
structure Window {α : Type} (pick : ℕ → α) (low n : ℕ) (s : Tickets.State α) : Prop where
  reached : ∃ first es, first ≤ low ∧ Runs (Tickets.step pick) (fun _ _ => True) (Tickets.start first) es s
  drawn : low + n ≤ s.counter
  below : s.counter < 2 ^ 63
  answered : ∀ v ∈ s.held, ¬ (low ≤ v ∧ v < low + n)

theorem Window.perm {α : Type} {pick : ℕ → α} {low n : ℕ} {s : Tickets.State α} (h : Window pick low n s) :
    (s.window low n).Perm ((List.range' low n).map pick) := by
  obtain ⟨first, es, hfirst, hrun⟩ := h.reached
  exact (Tickets.Consecutive.of_runs hrun).window hfirst h.drawn h.answered

/-- How a rule table and its backends share out their traffic. -/
structure SharesExactly (rule : Rule) (t : RuleTable) : Prop where
  entries : List.Forall₂ SameReference (rule.backends.filter fun b => 0 < b.weight) t.backends
  picked : ∀ turn, t.pickBackend turn = (t.pickPlace turn.rule).bind fun place => t.backends[place]?
  nobody : totalWeight rule < 2 ^ 63 → ∀ turn, t.pickBackend turn = none ↔ ∀ b ∈ rule.backends, b.weight = 0
  shares : ∀ low s, Window t.pickPlace low (totalWeight rule) s → ∀ place entry, t.backends[place]? = some entry →
    (s.window low (totalWeight rule)).count (some place) = entry.weight.toInt.toNat
  endpoints : ∀ backend ∈ t.backends, ∀ (index : EndpointsIndex) (turn low : ℕ) endpoints,
    index.endpoints backend.ns backend.name backend.port = endpoints →
    ∀ s, Window (fun n => backend.pick index ⟨turn, n⟩) low endpoints.length s →
      (s.window low endpoints.length).Perm (endpoints.map some)

theorem map_getElem?_mod (l : List Endpoint) (low : ℕ) :
    (List.range' low l.length).map (fun n => l[n % l.length]?) = (l.rotate low).map some := by
  refine List.ext_getElem? fun i => ?_
  rw [List.getElem?_map, List.getElem?_map]
  by_cases hi : i < l.length
  · have hindex : (i + low) % l.length < l.length := Nat.mod_lt _ (Nat.zero_lt_of_lt hi)
    rw [List.getElem?_range' hi, List.getElem?_rotate hi, List.getElem?_eq_getElem hindex, Option.map_some,
      Option.map_some, Nat.one_mul, Nat.add_comm low i, List.getElem?_eq_getElem hindex]
  · have hi : l.length ≤ i := not_lt.mp hi
    rw [List.getElem?_eq_none (by rwa [List.length_range']), List.getElem?_eq_none (by rwa [List.length_rotate])]
    rfl

theorem Weighted.count_window {rule : RuleTable} (hw : Weighted rule) {low n : ℕ} {s : Tickets.State (Option ℕ)}
    (hwindow : Window rule.pickPlace low n s) (htotal : WeightedSlots.total share rule.backends = n)
    {place : ℕ} {entry : BackendTable} (hentry : rule.backends[place]? = some entry) :
    (s.window low n).count (some place) = entry.weight.toInt.toNat := by
  have hcount := WeightedSlots.countP_place_window share rule.backends place low
  rw [hwindow.perm.count_eq, List.count, List.countP_map, ← htotal]
  rw [hentry] at hcount
  refine Eq.trans (List.countP_congr fun v _ => ?_) hcount
  rw [Function.comp_apply, hw.pickPlace_eq, beq_iff_eq, decide_eq_true_iff]

/-- In a built table, nobody is picked exactly if nobody has a weight, and every full round of numbers, in
whatever order, gives each entry its weight and each endpoint one turn. -/
theorem round_robin_exact {p : Platform} {generation : String} {gateway : GatewayConfig} {routes : List RouteConfig}
    {secret : Option SecretData} {previous : Option GatewayTable} {table : GatewayTable}
    (hbuild : buildGatewayTable p generation gateway routes secret previous = .ok table) {port : Int32}
    {pt : PortTable} (hport : table.byPort[port]? = some pt) {lst : ListenerTable} (hlst : lst ∈ pt.listeners)
    {rt : RouteTable} (hrt : rt ∈ lst.routes) {t : RuleTable} (ht : t ∈ rt.rules) :
    ∃ route ∈ routes, ∃ rule ∈ route.rules, CompiledFrom p secret route rule t ∧
      ((∀ b ∈ rule.backends, 0 ≤ b.weight) → SharesExactly rule t) := by
  obtain ⟨route, hroute, rule, hrule, hfrom⟩ := buildGatewayTable_origin hbuild hport lst hlst rt hrt t ht
  refine ⟨route, hroute, rule, hrule, hfrom, fun hnonneg => ?_⟩
  refine ⟨hfrom.sameReference, t.pickBackend_eq_pickPlace, fun hfits turn => ?_, ?_, ?_⟩
  · have hw := hfrom.weighted_of_totalWeight hfits
    rw [hw.pickBackend_eq, WeightedSlots.owner_eq_none_iff, hfrom.total_share, ← totalWeight_eq_zero_iff hnonneg]
    constructor
    · intro hle
      exact Nat.eq_zero_of_not_pos fun hpos => absurd (Nat.mod_lt turn.rule hpos) (not_lt.mpr hle)
    · intro hzero
      rw [hzero]
      exact Nat.zero_le _
  · intro low s hwindow place entry hentry
    have hfits : totalWeight rule < 2 ^ 63 :=
      Nat.lt_of_le_of_lt (Nat.le_trans (Nat.le_add_left _ low) hwindow.drawn) hwindow.below
    exact (hfrom.weighted_of_totalWeight hfits).count_window hwindow hfrom.total_share hentry
  · rintro backend - index turn low endpoints rfl s hwindow
    refine hwindow.perm.trans ?_
    have hround := map_getElem?_mod (index.endpoints backend.ns backend.name backend.port) low
    exact (List.Perm.of_eq hround).trans ((List.rotate_perm ..).map some)

/-! ## Three backends of which one is idle and one does not resolve -/

def trioBackend (name : String) (weight : Int32) (valid : Bool) : Backend :=
  ⟨⟨"shop", name, 80, weight, valid, "", "", none⟩, []⟩

def trioRule : Rule :=
  ⟨[], [], [trioBackend "cart" 2 true, trioBackend "idle" 0 true, trioBackend "gone" 1 false], 0, 0, none, "", false, ""⟩

def trioRuleTable : RuleTable where
  ruleMatches := []
  filters := []
  backends := [plainBackend (trioBackend "cart" 2 true).toBackendTarget [],
    plainBackend (trioBackend "gone" 1 false).toBackendTarget []]
  mirrors := []
  cors := none
  grpc := false
  requestTimeout := 0
  backendTimeout := 0
  total := 3
  limiter := none
  wafEngine := none
  authEnforcer := none
  extensionsInvalid := false

def trioListener : ListenerTable := ⟨"web", "", none, false, none, .noClientCert, [⟨"shop", "all", [], 0, [trioRuleTable]⟩]⟩

def trioPort : PortTable := ⟨"uid", "shop/gw", false, false, false, false, false, [trioListener], []⟩

def trioRun : List Tickets.Event := [.draw, .draw, .draw, .answer 1, .answer 0, .answer 2]

theorem trio_shared : SharesExactly trioRule trioRuleTable ∧
    ∃ s, Window trioRuleTable.pickPlace 0 (totalWeight trioRule) s ∧ s.window 0 3 = [some 1, some 0, some 0] := by
  have hbuild : buildGatewayTable .trusting "g1"
      ⟨"uid", "shop", "gw", [⟨"web", 80, 10000, "HTTP", "", false, "", false⟩], false, []⟩
      [⟨"r1", "shop", "all", ["web"], [], 0, false, [trioRule]⟩] none none =
      .ok ⟨"g1", GoMap.setAll ∅ [(10000, trioPort)], GoMap.setAll ∅ [("shop", true)]⟩ := by decide
  have hport : (GoMap.setAll ∅ [((10000 : Int32), trioPort)])[(10000 : Int32)]? = some trioPort := by decide
  obtain ⟨route, hroute, rule, hrule, -, hshares⟩ := round_robin_exact hbuild hport (List.mem_singleton_self _)
    (List.mem_singleton_self _) (List.mem_singleton_self _)
  rw [List.mem_singleton.mp hroute, List.mem_singleton] at hrule
  rw [hrule] at hshares
  refine ⟨hshares (by decide), ⟨3, [], [(2, some 1), (0, some 0), (1, some 0)]⟩, ?_, by decide⟩
  have hrun : Runs (Tickets.step trioRuleTable.pickPlace) (fun _ _ => True) (Tickets.start 0) trioRun
      ⟨3, [], [(2, some 1), (0, some 0), (1, some 0)]⟩ := Runs.of_exec (by rfl)
  exact ⟨⟨0, trioRun, Nat.le_refl 0, hrun⟩, by decide, by decide, fun v hv => absurd hv List.not_mem_nil⟩

end Krouter.Routing
