import Krouter.Proxy.ClientIP
import Krouter.Proxy.Outbound

/-! Two gateways in a row: the first one writes the `X-Forwarded-For` header that the second one
reads, and the second one trusts the first. -/

namespace Krouter.Proxy
open Http GoString NetIP ClientIP

/-! ## Reading the header that was written -/

theorem trimSpace_space (l : List Char) :
    trimSpace (String.ofList (' ' :: l)) = trimSpace (String.ofList l) := by
  rw [trimSpace, trimChars, trimChars, String.toList_ofList, String.toList_ofList,
    List.dropWhile_cons_of_pos (by decide)]

theorem trimSpace_of_plain {s : String} (h : ∀ c ∈ s.toList, isSpace c = false) : trimSpace s = s := by
  have hkeep : ∀ l : List Char, (∀ c ∈ l, isSpace c = false) → l.dropWhile isSpace = l := by
    intro l hl
    cases l with
    | nil => rfl
    | cons c cs => rw [List.dropWhile_cons_of_neg (by rw [hl c (.head _)]; exact Bool.false_ne_true)]
  rw [trimSpace, trimChars, hkeep _ h, hkeep _ (by simpa using h), List.reverse_reverse, String.ofList_toList]

theorem entries_space (s : String) : entries [" " ++ s] = entries [s] := by
  have hsplit : (' ' :: s.toList).splitOn ',' = (s.toList.splitOn ',').modifyHead (' ' :: ·) := by
    rw [List.splitOn, List.splitOnP_cons_eq_if_modifyHead]
    rfl
  have htext : (" " ++ s).toList = ' ' :: s.toList := by
    rw [String.toList_append]
    rfl
  rw [entries, entries, List.flatMap_singleton, List.flatMap_singleton, splitChar, splitChar, htext, hsplit]
  cases s.toList.splitOn ',' with
  | nil => rfl
  | cons l ls => rw [List.modifyHead_cons, List.map_cons, List.map_cons, List.map_cons, List.map_cons, trimSpace_space]

theorem entries_join (s t : String) : entries [s ++ ", " ++ t] = entries [s] ++ entries [t] := by
  have htext : s ++ ", " ++ t = s ++ String.singleton ',' ++ (" " ++ t) := by
    rw [← String.toList_inj]
    simp
  rw [htext, ← entries_space t]
  rw [entries, entries, entries, List.flatMap_singleton, List.flatMap_singleton, List.flatMap_singleton,
    splitChar_append, List.map_append]

theorem entries_intercalate {values : List String} (h : values ≠ []) :
    entries [", ".intercalate values] = entries values := by
  induction values with
  | nil => exact absurd rfl h
  | cons v values ih =>
    cases values with
    | nil => rw [String.intercalate_singleton]
    | cons v' values =>
      rw [String.intercalate_cons_cons, entries_join, ih (List.cons_ne_nil _ _), ← entries_append]
      rfl

def forwardedFor (r : Request) (trustedPeer : Bool) : String :=
  let received := ", ".intercalate (r.header.values "X-Forwarded-For")
  (if trustedPeer ∧ received ≠ "" then received ++ ", " else "") ++ hostOf r.remoteAddr

theorem values_forwardedFor (r : Request) (withTLS trustedPeer : Bool) (out : Header) :
    (rewriteForwardingHeaders r withTLS trustedPeer out).values "X-Forwarded-For" =
      [forwardedFor r trustedPeer] := by
  have hne : ∀ name ∈ ["Forwarded", "X-Forwarded-Host", "X-Forwarded-Proto"],
      canonicalKey name ≠ canonicalKey "X-Forwarded-For" := by decide
  rw [rewriteForwardingHeaders, values_setIfMissing (hne _ (by decide)), values_setIfMissing (hne _ (by decide)),
    values_setIfMissing (hne _ (by decide)), Header.values_set _ _ _ rfl]
  rfl

section
variable {r : Request}

def PlainPeer (r : Request) : Prop := ∀ c ∈ (hostOf r.remoteAddr).toList, c ≠ ',' ∧ isSpace c = false

theorem PlainPeer.entries (h : PlainPeer r) : entries [hostOf r.remoteAddr] = [hostOf r.remoteAddr] := by
  rw [ClientIP.entries, List.flatMap_singleton, splitChar_of_notMem fun hc => (h ',' hc).1 rfl, List.map_singleton,
    trimSpace_of_plain fun c hc => (h c hc).2]

theorem chain_untrusted (h : PlainPeer r) (withTLS : Bool) (out : Header) :
    chain (rewriteForwardingHeaders r withTLS false out) = [hostOf r.remoteAddr] := by
  have hvalue : forwardedFor r false = hostOf r.remoteAddr := by
    rw [forwardedFor, if_neg (by simp)]
    exact String.empty_append
  rw [chain, values_forwardedFor, hvalue, h.entries, List.reverse_singleton]

/-- Behind a trusted peer the chain grows by the peer. A chain of just an empty line is lost, and breaks
off the walk where it is not. -/
theorem chain_trusted (h : PlainPeer r) (withTLS : Bool) (out : Header) :
    chain (rewriteForwardingHeaders r withTLS true out) = hostOf r.remoteAddr :: chain r.header ∨
      chain (rewriteForwardingHeaders r withTLS true out) = [hostOf r.remoteAddr] ∧ chain r.header = [""] := by
  rw [chain, values_forwardedFor, chain, forwardedFor]
  by_cases hreceived : ", ".intercalate (r.header.values "X-Forwarded-For") = ""
  · rw [if_neg (by simp [hreceived]), String.empty_append, h.entries]
    by_cases hnone : r.header.values "X-Forwarded-For" = []
    · rw [hnone]
      exact .inl rfl
    · rw [← entries_intercalate hnone, hreceived]
      exact .inr ⟨rfl, rfl⟩
  · have hsome : r.header.values "X-Forwarded-For" ≠ [] := by
      intro hnone
      rw [hnone] at hreceived
      exact hreceived rfl
    rw [if_pos ⟨rfl, hreceived⟩, entries_join, entries_intercalate hsome, h.entries, List.reverse_append]
    exact .inl rfl

end

/-! ## The walk at the second gateway -/

theorem walk_congr {t t' : Trust} {n m : Nat} {entries : List String} (peer : Addr)
    (hn : entries.length ≤ n) (hm : entries.length ≤ m)
    (h : ∀ entry ∈ entries, ∀ addr, parseAddr entry = some addr →
      t.contains (normal addr) = t'.contains (normal addr)) :
    walk t n peer entries = walk t' m peer entries := by
  induction entries generalizing n m peer with
  | nil => cases n <;> cases m <;> rfl
  | cons entry rest ih =>
    obtain ⟨n, rfl⟩ : ∃ k, n = k + 1 := ⟨n - 1, by simp at hn; omega⟩
    obtain ⟨m, rfl⟩ : ∃ k, m = k + 1 := ⟨m - 1, by simp at hm; omega⟩
    rw [walk, walk]
    cases hparse : parseAddr entry with
    | none => rfl
    | some addr =>
      dsimp only
      rw [h entry (.head _) addr hparse]
      split_ifs
      · exact ih (normal addr) (Nat.le_of_succ_le_succ hn) (Nat.le_of_succ_le_succ hm)
          fun e he => h e (List.mem_cons_of_mem entry he)
      · rfl

theorem walk_malformed (t : Trust) (n : Nat) (peer : Addr) : walk t n peer [""] = peer := by
  cases n with
  | zero => rfl
  | succ n =>
    rw [walk, show parseAddr "" = none by decide]

theorem walk_trusted {t : Trust} {n : Nat} {peer addr : Addr} {entry : String} {rest : List String}
    (hparse : parseAddr entry = some addr) (hc : t.contains (normal addr) = true) :
    walk t (n + 1) peer (entry :: rest) = walk t n (normal addr) rest := by
  rw [walk, hparse]
  dsimp only
  rw [if_pos hc]

/-- The second gateway finds the client that the first one found, as long as the peer's address reads as
one entry and the first gateway, unless both trust it, is no entry of the chain. -/
theorem chained_gateways_agree (t t' : Trust) (r : Request) (withTLS : Bool) (out : Header)
    (peer gateway : Addr) (gatewayAddr : String)
    (hpeer : parseAddr (hostOf r.remoteAddr) = some peer) (hplain : PlainPeer r)
    (hgateway : parseAddr (hostOf gatewayAddr) = some gateway)
    (htrust : ∀ addr, t'.contains addr = (t.contains addr || decide (addr = normal gateway)))
    (hlength : (chain r.header).length < maxHops)
    (hown : t.contains (normal gateway) = true ∨
      ∀ entry ∈ chain r.header, (parseAddr entry).map normal ≠ some (normal gateway)) :
    (resolve t' gatewayAddr (rewriteForwardingHeaders r withTLS
        (resolve t r.remoteAddr r.header).2 out)).1 = (resolve t r.remoteAddr r.header).1 := by
  have hsecond : ∀ header, (resolve t' gatewayAddr header).1 =
      (walk t' maxHops (normal gateway) (chain header)).toText := by
    intro header
    rw [resolve, hgateway]
    dsimp only
    rw [if_pos (by rw [htrust, decide_eq_true rfl, Bool.or_true])]
  have hagree : ∀ entry ∈ chain r.header, ∀ addr, parseAddr entry = some addr →
      t.contains (normal addr) = t'.contains (normal addr) := by
    intro entry hentry addr hparse
    rw [htrust]
    by_cases he : normal addr = normal gateway
    · rcases hown with hown | hown
      · rw [he, hown, Bool.true_or]
      · exact absurd (by rw [hparse, Option.map_some, he]) (hown entry hentry)
    · rw [decide_eq_false he, Bool.or_false]
  rw [hsecond]
  by_cases hc : t.contains (normal peer) = true
  · have hfirst : resolve t r.remoteAddr r.header =
        ((walk t maxHops (normal peer) (chain r.header)).toText, true) := by
      rw [resolve, hpeer]
      dsimp only
      rw [if_pos hc]
    have hpeerTrusted : t'.contains (normal peer) = true := by rw [htrust, hc, Bool.true_or]
    rw [hfirst]
    rcases chain_trusted hplain withTLS out with hchain | ⟨hchain, hempty⟩
    · rw [hchain, maxHops, walk_trusted hpeer hpeerTrusted]
      rw [maxHops] at hlength
      exact congrArg Addr.toText (walk_congr _ (by omega) (by omega) fun e he addr ha =>
        (hagree e he addr ha).symm)
    · rw [hchain, hempty, maxHops, walk_trusted hpeer hpeerTrusted, walk_malformed]
      rfl
  · have hfirst := resolve_untrusted hpeer (Bool.not_eq_true _ ▸ hc) r.header
    rw [hfirst, chain_untrusted hplain, maxHops, walk, hpeer]
    dsimp only
    split_ifs <;> rfl

/-! ## A chain through 198.51.100.1 -/

theorem contains_single (bits : BitVec 32) (addr : Addr) :
    (⟨.v4 bits, 32⟩ : Prefix).contains addr = decide (addr = .v4 bits) := by
  cases addr with
  | v4 b =>
    have hxor : (bits ^^^ b = 0#32) ↔ b = bits := by
      rw [BitVec.xor_eq_zero_iff, eq_comm]
    simp [Prefix.contains, hxor]
  | v6 b zone => simp [Prefix.contains]

def privateNetworks : Trust := [⟨.v4 0x0A000000#32, 8⟩]

def withGateway : Trust := privateNetworks ++ [⟨.v4 0xC6336401#32, 32⟩]

def chainedRequest (remoteAddr forwarded : String) : Request :=
  ⟨"GET", "shop.example.com", "/", "/", ∅, Header.set ∅ "X-Forwarded-For" forwarded, [], remoteAddr, none⟩

def secondClient (r : Request) : String :=
  (resolve withGateway "198.51.100.1:443" (rewriteForwardingHeaders r true
    (resolve privateNetworks r.remoteAddr r.header).2 (rewriteInput r.header))).1

theorem chain_through_proxy_agrees :
    secondClient (chainedRequest "10.0.0.2:5000" "203.0.113.9") =
      (resolve privateNetworks "10.0.0.2:5000" (Header.set ∅ "X-Forwarded-For" "203.0.113.9")).1 := by
  refine chained_gateways_agree privateNetworks withGateway (chainedRequest "10.0.0.2:5000" "203.0.113.9") true
    _ (.v4 0x0A000002#32) (.v4 0xC6336401#32) "198.51.100.1:443" (by decide) ?_ (by decide)
    (fun addr => ?_) (by decide) (Or.inr (by decide))
  · have hplain : (hostOf "10.0.0.2:5000").toList.all (fun c => c ≠ ',' && !isSpace c) = true := by decide
    simpa [PlainPeer, chainedRequest] using hplain
  · rw [withGateway, Trust.contains, List.any_append, List.any_cons, List.any_nil, contains_single, Bool.or_false]
    rfl

theorem chained_gateways_differ :
    (resolve privateNetworks "10.0.0.2:5000"
        (Header.set ∅ "X-Forwarded-For" "203.0.113.9, 198.51.100.1")).1 = "198.51.100.1" ∧
      secondClient (chainedRequest "10.0.0.2:5000" "203.0.113.9, 198.51.100.1") = "203.0.113.9" ∧
      (resolve privateNetworks "[fe80::1%a,b]:5000" (Header.set ∅ "X-Forwarded-For" "")).1 = "fe80::1" ∧
      secondClient (chainedRequest "[fe80::1%a,b]:5000" "") = "198.51.100.1" := by
  refine ⟨?_, ?_, ?_, ?_⟩ <;> decide

end Krouter.Proxy
