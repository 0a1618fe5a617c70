import Krouter.Lib.WeightedSlots
import Krouter.Routing.Origin
import Krouter.Routing.Pick

/-! The backends of a built rule: each is the image of a compiled backend and is picked for
its share of the turns. -/

namespace Krouter.Routing
open Compiled

section
variable {p : Platform} {client : ClientCert}

variable (p client) in
def ImageOf (backend : BackendTarget) (t : BackendTable) : Prop :=
  ∃ transports filters, t = (buildBackendTable p client transports backend filters).1

def policyTransport (client : ClientCert) (tls : BackendTLS) : TLSTransport :=
  ⟨tls.hostname, client.cert, if tls.systemCAs then none else some tls.caPem, tls.subjectAltNames⟩

structure TLSSettings where
  key : String
  transport : Option TLSTransport
  invalid : Bool

def tlsSettings (p : Platform) (client : ClientCert) (transports : Transports) :
    Option BackendTLS → TLSSettings
  | none => ⟨"", none, false⟩
  | some tls =>
    let key := backendTLSFingerprint p tls client.sum
    if tls.invalid then ⟨"", none, true⟩
    else match transports[key]? with
      | some transport => ⟨key, some transport, false⟩
      | none =>
        if ¬ tls.systemCAs ∧ ¬ p.appendCertsFromPEM tls.caPem then ⟨key, none, true⟩
        else ⟨key, some (policyTransport client tls), false⟩

theorem buildBackendTable_fst (transports : Transports) (backend : BackendTarget) (filters : List Filter) :
    (buildBackendTable p client transports backend filters).1 =
      { plainBackend backend filters with
        tlsKey := (tlsSettings p client transports backend.tls).key
        tlsTransport := (tlsSettings p client transports backend.tls).transport
        tlsInvalid := (tlsSettings p client transports backend.tls).invalid } := by
  unfold buildBackendTable tlsSettings
  cases backend.tls with
  | none => rfl
  | some tls =>
    dsimp only
    by_cases hi : tls.invalid = true
    · rw [if_pos hi, if_pos hi]
      rfl
    · rw [if_neg hi, if_neg hi]
      cases transports[backendTLSFingerprint p tls client.sum]? with
      | some transport => rfl
      | none =>
        by_cases hc : ¬ tls.systemCAs ∧ ¬ p.appendCertsFromPEM tls.caPem
        · rw [if_pos hc, if_pos hc]
          rfl
        · rw [if_neg hc, if_neg hc]
          rfl

theorem ImageOf.view {backend : BackendTarget} {t : BackendTable} (h : ImageOf p client backend t) :
    t.ns = backend.ns ∧ t.name = backend.name ∧ t.port = backend.port ∧ t.weight = backend.weight ∧
      t.valid = backend.valid := by
  obtain ⟨transports, filters, rfl⟩ := h
  rw [buildBackendTable_fst]
  exact ⟨rfl, rfl, rfl, rfl, rfl⟩

def weights (backends : List BackendTable) : Int := (backends.map fun b => b.weight.toInt).sum

theorem weights_cons (b : BackendTable) (backends : List BackendTable) :
    weights (b :: backends) = b.weight.toInt + weights backends := rfl

variable (p client) in
theorem addFilter_backends (acc : RuleTable × BuildState) (filter : Filter) :
    (addFilter p client acc filter).1.backends = acc.1.backends ∧
      (addFilter p client acc filter).1.total = acc.1.total := by
  unfold addFilter
  dsimp only
  split
  · split_ifs <;> exact ⟨rfl, rfl⟩
  · split_ifs <;> exact ⟨rfl, rfl⟩

variable (p client) in
theorem foldl_addFilter_backends (filters : List Filter) (acc : RuleTable × BuildState) :
    (filters.foldl (addFilter p client) acc).1.backends = acc.1.backends ∧
      (filters.foldl (addFilter p client) acc).1.total = acc.1.total :=
  ⟨List.foldl_kept (fun s => s.1.backends) (fun s filter _ => (addFilter_backends p client s filter).1) acc,
    List.foldl_kept (fun s => s.1.total) (fun s filter _ => (addFilter_backends p client s filter).2) acc⟩

variable (p client) in
theorem foldl_addBackend (backends : List Backend) (acc : RuleTable × BuildState) :
    ∃ new, (backends.foldl (addBackend p client) acc).1.backends = acc.1.backends ++ new ∧
      List.Forall₂ (fun backend t => ImageOf p client backend.toBackendTarget t)
        (backends.filter fun backend => 0 < backend.weight) new ∧
      (backends.foldl (addBackend p client) acc).1.total = acc.1.total + Int64.ofInt (weights new) := by
  induction backends generalizing acc with
  | nil => exact ⟨[], by simp, .nil, by simp [weights]⟩
  | cons backend backends ih =>
    obtain ⟨new, hnew, hall, htotal⟩ := ih (addBackend p client acc backend)
    rw [List.foldl_cons, hnew, htotal]
    by_cases hw : backend.weight ≤ 0
    · rw [addBackend, if_pos hw, List.filter_cons_of_neg (by simpa using hw)]
      exact ⟨new, rfl, hall, rfl⟩
    · have himage : ImageOf p client backend.toBackendTarget
          (buildBackendTable p client acc.2.transports backend.toBackendTarget backend.filters).1 :=
        ⟨_, _, rfl⟩
      rw [addBackend, if_neg hw, List.filter_cons_of_pos (by simpa using hw)]
      refine ⟨_ :: new, by simp, .cons himage hall, ?_⟩
      rw [weights_cons, himage.view.2.2.2.1, Int64.ofInt_add, Int64.ofInt_int32ToInt, ← Int64.add_assoc]

theorem addFilter_mirrors {acc : RuleTable × BuildState} {filter : Filter} {m : MirrorTable}
    (h : m ∈ (addFilter p client acc filter).1.mirrors) : m ∈ acc.1.mirrors ∨
      ∃ target, filter.mirror = some target ∧ ImageOf p client target m.backend := by
  unfold addFilter at h
  dsimp only at h
  split at h
  · split_ifs at h <;> exact .inl h
  · next target hm =>
    split_ifs at h with htype hcors
    all_goals
      first
      | exact .inl h
      | rcases List.mem_append.mp h with h | h
        · exact .inl h
        · rw [List.mem_singleton.mp h]
          exact .inr ⟨target, hm, _, _, rfl⟩

theorem foldl_addFilter_mirrors {filters : List Filter} {acc : RuleTable × BuildState} {m : MirrorTable}
    (h : m ∈ (filters.foldl (addFilter p client) acc).1.mirrors) : m ∈ acc.1.mirrors ∨
      ∃ filter ∈ filters, ∃ target, filter.mirror = some target ∧ ImageOf p client target m.backend := by
  induction filters generalizing acc with
  | nil => exact .inl h
  | cons filter filters ih =>
    rcases ih h with h | ⟨other, ho, himage⟩
    · rcases addFilter_mirrors h with h | himage
      · exact .inl h
      · exact .inr ⟨filter, .head _, himage⟩
    · exact .inr ⟨other, List.mem_cons_of_mem filter ho, himage⟩

theorem addBackend_mirrors (acc : RuleTable × BuildState) (backend : Backend) :
    (addBackend p client acc backend).1.mirrors = acc.1.mirrors := by
  unfold addBackend
  split_ifs <;> rfl

theorem foldl_addBackend_mirrors (backends : List Backend) (acc : RuleTable × BuildState) :
    (backends.foldl (addBackend p client) acc).1.mirrors = acc.1.mirrors :=
  List.foldl_kept (fun s => s.1.mirrors) (fun s backend _ => addBackend_mirrors s backend) acc

end

section
variable {p : Platform} {secret : Option SecretData} {route : RouteConfig} {rule : Rule} {t : RuleTable}

theorem CompiledFrom.backends (h : CompiledFrom p secret route rule t) : ∃ client,
    List.Forall₂ (fun backend entry => ImageOf p client backend.toBackendTarget entry)
      (rule.backends.filter fun backend => 0 < backend.weight) t.backends ∧
    t.total = Int64.ofInt (weights t.backends) := by
  obtain ⟨client, state, rfl⟩ := h
  refine ⟨client, ?_⟩
  unfold buildRuleTable
  generalize hfiltered : rule.filters.foldl (addFilter p client) (ruleExtensions p route.grpc secret rule, state) =
    filtered
  obtain ⟨hb, ht⟩ := foldl_addFilter_backends p client rule.filters
    (ruleExtensions p route.grpc secret rule, state)
  rw [hfiltered] at hb ht
  obtain ⟨new, hnew, hall, htotal⟩ := foldl_addBackend p client rule.backends filtered
  rw [hnew, htotal, hb, ht]
  exact ⟨hall, Int64.zero_add _⟩

def SameReference (b : Backend) (entry : BackendTable) : Prop :=
  entry.ns = b.ns ∧ entry.name = b.name ∧ entry.port = b.port ∧ entry.weight = b.weight ∧ entry.valid = b.valid

theorem CompiledFrom.sameReference (h : CompiledFrom p secret route rule t) :
    List.Forall₂ SameReference (rule.backends.filter fun b => 0 < b.weight) t.backends := by
  obtain ⟨client, hall, -⟩ := h.backends
  exact hall.imp fun b entry himage => himage.view

theorem CompiledFrom.mirrors (h : CompiledFrom p secret route rule t) : ∃ client, ∀ m ∈ t.mirrors,
    ∃ filter ∈ rule.filters, ∃ target, filter.mirror = some target ∧ ImageOf p client target m.backend := by
  obtain ⟨client, state, rfl⟩ := h
  refine ⟨client, fun m hm => ?_⟩
  unfold buildRuleTable at hm
  rw [foldl_addBackend_mirrors] at hm
  rcases foldl_addFilter_mirrors hm with hm | hm
  · cases hm
  · exact hm

end

def share (b : BackendTable) : ℕ := b.weight.toInt.toNat

variable {backends : List BackendTable} {b : BackendTable} {rule : RuleTable}

theorem toInt_share (h : 0 < b.weight) : (share b : Int) = b.weight.toInt :=
  Int.toNat_of_nonneg (Int32.lt_iff_toInt_lt.mp h).le

theorem pickSlot_eq_owner (hw : ∀ b ∈ backends, 0 < b.weight) (slot : ℕ) :
    pickSlot backends slot = WeightedSlots.owner share backends slot := by
  induction backends generalizing slot with
  | nil => rfl
  | cons b backends ih =>
    rw [pickSlot, WeightedSlots.owner, ← toInt_share (hw b (.head _))]
    by_cases hlt : slot < share b
    · rw [if_pos hlt, if_pos (by omega)]
    · rw [if_neg hlt, if_neg (by omega), ← Int.ofNat_sub (by omega)]
      exact ih (fun c hc => hw c (List.mem_cons_of_mem b hc)) _

theorem total_share (hw : ∀ b ∈ backends, 0 < b.weight) :
    (WeightedSlots.total share backends : Int) = weights backends := by
  induction backends with
  | nil => rfl
  | cons b backends ih =>
    rw [WeightedSlots.total_cons, weights_cons, Nat.cast_add, ih fun c hc => hw c (List.mem_cons_of_mem b hc),
      toInt_share (hw b (.head _))]

theorem mem_of_pickSlot {slot : Int} (h : pickSlot backends slot = some b) : b ∈ backends := by
  induction backends generalizing slot with
  | nil => cases h
  | cons c backends ih =>
    rw [pickSlot] at h
    split_ifs at h
    · cases h
      exact .head _
    · exact List.mem_cons_of_mem c (ih h)

theorem RuleTable.mem_of_pickBackend {turn : Turn} (h : rule.pickBackend turn = some b) : b ∈ rule.backends := by
  unfold RuleTable.pickBackend pickBucket at h
  split_ifs at h
  exact mem_of_pickSlot h

def BackendTable.judged (valid : BackendTable → Bool) (b : BackendTable) : BackendTable :=
  { b with valid := valid b }

theorem pickSlot_judged (valid : BackendTable → Bool) (backends : List BackendTable) (slot : Int) :
    pickSlot (backends.map (BackendTable.judged valid)) slot =
      (pickSlot backends slot).map (BackendTable.judged valid) := by
  induction backends generalizing slot with
  | nil => rfl
  | cons b backends ih =>
    rw [List.map_cons, pickSlot, pickSlot, ih]
    change (if slot - b.weight.toInt < 0 then _ else _) = _
    split_ifs <;> rfl

theorem RuleTable.pickBackend_judged (rule : RuleTable) (valid : BackendTable → Bool) (turn : Turn) :
    { rule with backends := rule.backends.map (BackendTable.judged valid) }.pickBackend turn =
      (rule.pickBackend turn).map (BackendTable.judged valid) := by
  unfold RuleTable.pickBackend pickBucket
  split_ifs
  · rfl
  · exact pickSlot_judged valid _ _

/-- Entries have a weight and the total is their sum, as long as it fits the counter. -/
structure Weighted (rule : RuleTable) : Prop where
  positive : ∀ b ∈ rule.backends, 0 < b.weight
  total : rule.total.toInt = weights rule.backends

section
variable {p : Platform} {secret : Option SecretData} {route : RouteConfig} {rule : Rule} {t : RuleTable}

theorem CompiledFrom.positive (h : CompiledFrom p secret route rule t) : ∀ b ∈ t.backends, 0 < b.weight := by
  intro entry hentry
  obtain ⟨b, hb, -, -, -, hweight, -⟩ := Result.exists_left_of_mem h.sameReference hentry
  rw [hweight]
  simpa using (List.mem_filter.mp hb).2

theorem CompiledFrom.weighted (h : CompiledFrom p secret route rule t) (hfits : weights t.backends < 2 ^ 63) :
    Weighted t := by
  obtain ⟨client, -, htotal⟩ := h.backends
  have hnonneg : 0 ≤ weights t.backends := by
    rw [← total_share h.positive]
    exact Int.natCast_nonneg _
  exact ⟨h.positive, by rw [htotal, Int64.toInt_ofInt_of_le (by omega) hfits]⟩

end

theorem share_pos (h : 0 < b.weight) : 0 < share b := by
  have hint : (0 : Int) < b.weight.toInt := Int32.lt_iff_toInt_lt.mp h
  unfold share
  omega

theorem Weighted.nil_of_total_le (hw : Weighted rule) (hzero : rule.total ≤ 0) : rule.backends = [] := by
  rw [Int64.le_iff_toInt_le, hw.total, ← total_share hw.positive, Int64.toInt_zero] at hzero
  cases hb : rule.backends with
  | nil => rfl
  | cons b backends =>
    have hpos := share_pos (hw.positive b (by rw [hb]; exact .head _))
    rw [hb, WeightedSlots.total_cons] at hzero
    omega

theorem Weighted.pickBackend_eq (hw : Weighted rule) (turn : Turn) : rule.pickBackend turn =
      WeightedSlots.owner share rule.backends (turn.rule % WeightedSlots.total share rule.backends) := by
  have htotal := hw.total.trans (total_share hw.positive).symm
  unfold RuleTable.pickBackend pickBucket
  split_ifs with hzero
  · rw [hw.nil_of_total_le hzero]
    rfl
  · rw [htotal, ← Int.natCast_mod, pickSlot_eq_owner hw.positive]

theorem Weighted.card_pickBackend (hw : Weighted rule) (kind : BackendTable → Bool) (start backend : ℕ) :
    ((Finset.Ico start (start + (weights rule.backends).toNat)).filter fun n =>
      (rule.pickBackend ⟨n, backend⟩).any kind = true).card =
        (weights (rule.backends.filter kind)).toNat := by
  have htotal := total_share hw.positive
  have hkind := total_share fun b hb => hw.positive b (List.mem_of_mem_filter (p := kind) hb)
  rw [← htotal, ← hkind, Int.toNat_natCast, Int.toNat_natCast]
  simp only [hw.pickBackend_eq]
  exact WeightedSlots.card_window share kind rule.backends start

end Krouter.Routing
