import Krouter.Http.Forwarded
import Krouter.Lib.NetIPText
import Krouter.Proxy.ForwardingHeaders

/-! The `Forwarded` header generated for an untrusted peer. Its values are written without quotes, so only
tokens come out as they went in. -/

namespace Krouter.Proxy
open Compiled Http GoString Routing NetIP

/-- `httpguts.ValidHostHeader`: what the server accepts as the value of `Host`. -/
def validHostHeader (host : String) : Bool :=
  host.toList.all fun c => (48 ≤ c.toNat && c.toNat ≤ 57) || (65 ≤ c.toNat && c.toNat ≤ 90) ||
    (97 ≤ c.toNat && c.toNat ≤ 122) || "!$%&'()*+,-.:;=[]_~".toList.contains c

/-- An address as RFC 7239 writes it in the `for` parameter. -/
def node : Addr → String
  | .v4 bits => (Addr.v4 bits).toText
  | .v6 bits zone => "[" ++ (Addr.v6 bits zone).toText ++ "]"

def scheme (withTLS : Bool) : String := if withTLS then "https" else "http"

def generated (peer host : String) (withTLS : Bool) : String :=
  "for=" ++ peer ++ ";host=" ++ host ++ ";proto=" ++ scheme withTLS

theorem values_forwarded (r : Request) (withTLS : Bool) :
    (rewriteForwardingHeaders r withTLS false (rewriteInput r.header)).values "Forwarded" =
      [generated (GoNet.hostOnly r.remoteAddr) (GoNet.hostOnly r.host) withTLS] := by
  have hinput : (rewriteInput r.header)[canonicalKey "Forwarded"]? = none :=
    rewriteInput_forwarding (by decide) r.header
  have hne : ∀ name ∈ ["X-Forwarded-For", "X-Forwarded-Host", "X-Forwarded-Proto"],
      canonicalKey name ≠ canonicalKey "Forwarded" := by decide
  rw [rewriteForwardingHeaders, setIfMissing, if_pos]
  · rw [Header.values_set _ _ _ rfl]
    rfl
  · have hmissing : Header.values (rewriteInput r.header) "Forwarded" = [] := by
      rw [Header.values, GoMap.read, hinput]
      rfl
    rw [Header.get, values_setIfMissing (hne _ (by decide)), values_setIfMissing (hne _ (by decide)),
      Header.values_set_of_ne (hne _ (by decide)), if_neg Bool.false_ne_true, hmissing]
    rfl

/-! ## Tokens -/

theorem isToken_v4 (bits : BitVec 32) : Forwarded.isToken (Addr.v4 bits).toText = true := by
  rw [Forwarded.isToken_iff]
  refine ⟨List.ne_nil_of_mem (dot_mem_ipv4Text bits), fun c hc => ?_⟩
  rcases ipv4Text_chars bits c hc with rfl | hdigit
  · decide
  · rw [Decimal.isDigit] at hdigit
    rw [isTokenChar, hdigit, Bool.true_or, Bool.true_or, Bool.true_or]

theorem isToken_scheme (withTLS : Bool) : Forwarded.isToken (scheme withTLS) = true := by
  cases withTLS <;> decide

theorem v6_colon (bits : BitVec 128) (zone : String) :
    ∃ before rest, (Addr.v6 bits zone).toText.toList = before ++ ':' :: rest ∧ '"' ∉ before := by
  obtain ⟨body, htext, hbody⟩ : ∃ body : String,
      (Addr.v6 bits zone).toText = (if zone = "" then body else body ++ "%" ++ zone) ∧
      ∃ before rest, body.toList = before ++ ':' :: rest ∧ '"' ∉ before := by
    by_cases hmapped : Addr.isMapped bits = true
    · refine ⟨"::ffff:" ++ Addr.ipv4Text (bits.setWidth 32), by rw [Addr.toText, if_pos hmapped], [],
        ":ffff:".toList ++ (Addr.ipv4Text (bits.setWidth 32)).toList, ?_, List.not_mem_nil⟩
      rw [String.toList_append]
      rfl
    · obtain ⟨before, rest, heq⟩ := List.append_of_mem (colon_mem_ipv6Text (groups_length bits))
      refine ⟨Addr.ipv6Text (Addr.groups bits), by rw [Addr.toText, if_neg hmapped], before, rest, heq,
        fun hquote => ?_⟩
      have hgroup := ipv6Text_chars (Addr.groups bits) '"' (heq ▸ List.mem_append_left _ hquote)
      exact absurd hgroup (by decide)
  obtain ⟨before, rest, heq, hquote⟩ := hbody
  rw [htext]
  by_cases hzone : zone = ""
  · rw [if_pos hzone]
    exact ⟨before, rest, heq, hquote⟩
  · rw [if_neg hzone]
    refine ⟨before, rest ++ ("%" ++ zone).toList, ?_, hquote⟩
    rw [String.append_assoc, String.toList_append, heq, List.append_assoc, List.cons_append]

theorem notMem_quote_of_valid {host : String} (h : validHostHeader host = true) :
    '"' ∉ (GoNet.hostOnly host).toList := by
  intro hquote
  have hvalid := List.all_eq_true.mp h '"' (GoNet.hostOnly_subset host _ hquote)
  exact absurd hvalid (by decide)

/-! ## The parsed header -/

theorem generated_eq (peer host : String) (withTLS : Bool) :
    generated peer host withTLS =
      "for" ++ "=" ++ peer ++ ";" ++ "host" ++ "=" ++ host ++ ";" ++ "proto" ++ "=" ++ scheme withTLS := by
  rw [← String.toList_inj]
  simp [generated]

theorem parse_generated_v6 (bits : BitVec 128) (zone host : String) (withTLS : Bool) :
    Forwarded.parse (generated (Addr.v6 bits zone).toText host withTLS) = none := by
  obtain ⟨before, rest, heq, hquote⟩ := v6_colon bits zone
  have htext : (generated (Addr.v6 bits zone).toText host withTLS).toList =
      ("for=".toList ++ before) ++ ':' :: (rest ++ (";host=" ++ host ++ ";proto=" ++ scheme withTLS).toList) := by
    simp [generated, heq]
  have hbefore : '"' ∉ "for=".toList ++ before := by
    rw [List.mem_append, not_or]
    exact ⟨by decide, hquote⟩
  rw [Forwarded.parse, htext, Forwarded.lex_none hbefore (by decide) (by decide) (by decide), Option.bind_none]

/-- The generated header comes to one element with the peer, the host and the scheme exactly
when the peer has an IPv4 address and the host without its port is a token. -/
theorem generated_forwarded_iff (t : ClientIP.Trust) (r : Request) (withTLS : Bool) (peer : Addr)
    (hpeer : GoNet.hostOnly r.remoteAddr = peer.toText)
    (huntrusted : (ClientIP.resolve t r.remoteAddr r.header).2 = false)
    (hhost : validHostHeader r.host = true) :
    (∃ value, (rewriteForwardingHeaders r withTLS (ClientIP.resolve t r.remoteAddr r.header).2
        (rewriteInput r.header)).values "Forwarded" = [value] ∧
      Forwarded.parse value =
        some [[("for", node peer), ("host", GoNet.hostOnly r.host), ("proto", scheme withTLS)]]) ↔
      (∃ bits, peer = .v4 bits) ∧ Forwarded.isToken (GoNet.hostOnly r.host) = true := by
  rw [huntrusted, values_forwarded, hpeer]
  constructor
  · rintro ⟨value, hvalue, hparse⟩
    obtain rfl := (List.cons.inj hvalue).1
    cases peer with
    | v6 bits zone =>
      rw [parse_generated_v6] at hparse
      cases hparse
    | v4 bits =>
      have hquote : '"' ∉ (generated (Addr.v4 bits).toText (GoNet.hostOnly r.host) withTLS).toList := by
        have hpeerQuote : '"' ∉ (Addr.v4 bits).toText.toList := fun h => by
          rcases ipv4Text_chars bits '"' h with h | h <;> exact absurd h (by decide)
        have hschemeQuote : '"' ∉ (scheme withTLS).toList := by cases withTLS <;> decide
        simp [generated, hpeerQuote, hschemeQuote, notMem_quote_of_valid hhost]
      exact ⟨⟨bits, rfl⟩, Forwarded.isToken_of_parse hquote hparse List.mem_cons_self
        (List.mem_cons_of_mem _ List.mem_cons_self)⟩
  · rintro ⟨⟨bits, rfl⟩, htoken⟩
    refine ⟨_, rfl, ?_⟩
    rw [generated_eq]
    exact Forwarded.parse_three (by decide) (by decide) (by decide) (isToken_v4 bits) htoken
      (isToken_scheme withTLS)

/-! ## Peers and hosts -/

def forwardedRequest (remoteAddr host : String) : Request :=
  ⟨"GET", host, "/", "/", ∅, ∅, [], remoteAddr, none⟩

theorem generated_for_ipv4_peer :
    ∃ value, (rewriteForwardingHeaders (forwardedRequest "192.0.2.1:4000" "shop.example.com:8080") true
        (ClientIP.resolve [] "192.0.2.1:4000" ∅).2 (rewriteInput ∅)).values "Forwarded" = [value] ∧
      Forwarded.parse value =
        some [[("for", "192.0.2.1"), ("host", "shop.example.com"), ("proto", "https")]] := by
  have hnode : node (.v4 0xC0000201#32) = "192.0.2.1" := by decide
  have hhost : GoNet.hostOnly "shop.example.com:8080" = "shop.example.com" := by decide
  have hiff := generated_forwarded_iff [] (forwardedRequest "192.0.2.1:4000" "shop.example.com:8080") true
    (.v4 0xC0000201#32) (by decide) (by decide) (by decide)
  have hparsed := hiff.mpr ⟨⟨_, rfl⟩, by decide⟩
  rw [hnode] at hparsed
  simp only [forwardedRequest, hhost] at hparsed
  exact hparsed

theorem generated_malformed :
    validHostHeader "a,for=10.0.0.1" = true ∧
      (rewriteForwardingHeaders (forwardedRequest "192.0.2.1:4000" "a,for=10.0.0.1") false
        (ClientIP.resolve [] "192.0.2.1:4000" ∅).2 (rewriteInput ∅)).values "Forwarded" =
          ["for=192.0.2.1;host=a,for=10.0.0.1;proto=http"] ∧
      Forwarded.parse "for=192.0.2.1;host=a,for=10.0.0.1;proto=http" =
        some [[("for", "192.0.2.1"), ("host", "a")], [("for", "10.0.0.1"), ("proto", "http")]] ∧
      (rewriteForwardingHeaders (forwardedRequest "[2001:db8::1]:4000" "shop.example.com") false
        (ClientIP.resolve [] "[2001:db8::1]:4000" ∅).2 (rewriteInput ∅)).values "Forwarded" =
          ["for=2001:db8::1;host=shop.example.com;proto=http"] ∧
      Forwarded.parse "for=2001:db8::1;host=shop.example.com;proto=http" = none := by
  refine ⟨?_, ?_, ?_, ?_, ?_⟩ <;> decide

end Krouter.Proxy
