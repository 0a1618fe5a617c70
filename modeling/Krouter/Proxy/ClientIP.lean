import Krouter.Lib.NetIP
import Krouter.Proxy.AuthGate

/-! The client address of a request: the peer, or for a trusted peer what the chain in
`X-Forwarded-For` says, walked from the right. -/

namespace Krouter.ClientIP
open Http GoString NetIP

def maxHops : Nat := 32

abbrev Trust := List Prefix

def Trust.contains (t : Trust) (addr : Addr) : Bool := t.any fun network => network.contains addr

def entries (values : List String) : List String :=
  values.flatMap fun value => (splitChar value ',').map trimSpace

def chain (header : Header) : List String := (entries (header.values "X-Forwarded-For")).reverse

def hostOf (remoteAddr : String) : String := GoNet.hostOnly remoteAddr

def normal (addr : Addr) : Addr := addr.unmap.withoutZone

@[grind =] def walk (t : Trust) : Nat → Addr → List String → Addr
  | 0, resolved, _ => resolved
  | _, resolved, [] => resolved
  | hops + 1, resolved, entry :: rest =>
    match parseAddr entry with
    | none => resolved
    | some addr =>
      if t.contains (normal addr) then walk t hops (normal addr) rest else normal addr

def resolve (t : Trust) (remoteAddr : String) (header : Header) : String × Bool :=
  match parseAddr (hostOf remoteAddr) with
  | none => (hostOf remoteAddr, false)
  | some peer =>
    if t.contains (normal peer) then ((walk t maxHops (normal peer) (chain header)).toText, true)
    else ((normal peer).toText, false)

/-! ## The walk -/

/-- The entries nearest to the gateway are these addresses, all of them trusted. -/
def Vouched (t : Trust) (chain : List String) (hops : List Addr) : Prop :=
  List.Forall₂ (fun entry addr => (parseAddr entry).map normal = some addr ∧ t.contains addr = true)
    (chain.take hops.length) hops

def lastTrusted (peer : Addr) (hops : List Addr) : Addr := (hops.getLast?).getD peer

/-- Where a walk of at most `limit` hops ends past the trusted addresses. -/
inductive Ends (t : Trust) (limit : Nat) (chain : List String) (peer : Addr) (hops : List Addr) :
    Addr → Prop where
  | untrusted {entry : String} {addr : Addr} : hops.length < limit →
      chain[hops.length]? = some entry → parseAddr entry = some addr →
      t.contains (normal addr) = false → Ends t limit chain peer hops (normal addr)
  | malformed {entry : String} : hops.length < limit → chain[hops.length]? = some entry →
      parseAddr entry = none → Ends t limit chain peer hops (lastTrusted peer hops)
  | hopLimit : hops.length = limit → Ends t limit chain peer hops (lastTrusted peer hops)
  | endOfChain : hops.length ≤ limit → chain.length = hops.length →
      Ends t limit chain peer hops (lastTrusted peer hops)

section
variable {t : Trust} {limit : Nat} {peer addr client : Addr} {hops : List Addr} {entry : String}
  {chain : List String}

theorem lastTrusted_cons (peer addr : Addr) (hops : List Addr) :
    lastTrusted peer (addr :: hops) = lastTrusted addr hops := by
  rw [lastTrusted, lastTrusted, List.getLast?_cons, Option.getD_some]

theorem vouched_cons : Vouched t (entry :: chain) (addr :: hops) ↔
    ((parseAddr entry).map normal = some addr ∧ t.contains addr = true) ∧ Vouched t chain hops := by
  rw [Vouched, List.length_cons, List.take_succ_cons, List.forall₂_cons]
  rfl

theorem Ends.cons (h : Ends t limit chain addr hops client) :
    Ends t (limit + 1) (entry :: chain) peer (addr :: hops) client := by
  cases h with
  | untrusted hlt hentry hparse hc =>
    exact .untrusted (Nat.succ_lt_succ hlt) (by simpa using hentry) hparse hc
  | malformed hlt hentry hparse =>
    rw [← lastTrusted_cons peer]
    exact .malformed (Nat.succ_lt_succ hlt) (by simpa using hentry) hparse
  | hopLimit hlt =>
    rw [← lastTrusted_cons peer]
    exact .hopLimit (congrArg (· + 1) hlt)
  | endOfChain hle hlength =>
    rw [← lastTrusted_cons peer]
    exact .endOfChain (Nat.succ_le_succ hle) (congrArg (· + 1) hlength)

theorem walk_ends (t : Trust) (limit : Nat) (peer : Addr) (chain : List String) :
    ∃ hops, Vouched t chain hops ∧ Ends t limit chain peer hops (walk t limit peer chain) := by
  induction limit generalizing peer chain with
  | zero => exact ⟨[], .nil, by rw [walk]; exact .hopLimit rfl⟩
  | succ limit ih =>
    cases chain with
    | nil => exact ⟨[], .nil, .endOfChain (Nat.zero_le _) rfl⟩
    | cons entry rest =>
      rw [walk]
      cases hparse : parseAddr entry with
      | none => exact ⟨[], .nil, .malformed (Nat.succ_pos _) rfl hparse⟩
      | some addr =>
        dsimp only
        split_ifs with htrusted
        · obtain ⟨hops, hvouched, hends⟩ := ih (normal addr) rest
          refine ⟨normal addr :: hops, vouched_cons.mpr ⟨⟨?_, htrusted⟩, hvouched⟩, hends.cons⟩
          rw [hparse, Option.map_some]
        · exact ⟨[], .nil, .untrusted (Nat.succ_pos _) rfl hparse (Bool.not_eq_true _ ▸ htrusted)⟩

theorem Ends.of_cons
    (h : Ends t (limit + 1) (entry :: chain) peer (addr :: hops) client) :
    Ends t limit chain addr hops client := by
  cases h with
  | untrusted hlt hentry hparse hc =>
    exact .untrusted (Nat.lt_of_succ_lt_succ hlt) (by simpa using hentry) hparse hc
  | malformed hlt hentry hparse =>
    rw [lastTrusted_cons]
    exact .malformed (Nat.lt_of_succ_lt_succ hlt) (by simpa using hentry) hparse
  | hopLimit hlt =>
    rw [lastTrusted_cons]
    exact .hopLimit (Nat.succ.inj hlt)
  | endOfChain hle hlength =>
    rw [lastTrusted_cons]
    exact .endOfChain (Nat.le_of_succ_le_succ hle) (Nat.succ.inj hlength)

theorem Ends.length_le (h : Ends t limit chain peer hops client) : hops.length ≤ limit := by
  cases h with
  | untrusted hlt => exact hlt.le
  | malformed hlt => exact hlt.le
  | hopLimit he => exact he.le
  | endOfChain hle => exact hle

theorem walk_of_ends_nil (h : Ends t limit chain peer [] client) : walk t limit peer chain = client := by
  cases h with
  | untrusted hlt hentry hparse hc =>
    obtain ⟨n, rfl⟩ := Nat.exists_eq_succ_of_ne_zero (Nat.pos_iff_ne_zero.mp hlt)
    cases chain with
    | nil => cases hentry
    | cons entry rest =>
      cases hentry
      rw [walk, hparse]
      dsimp only
      rw [hc, if_neg Bool.false_ne_true]
  | malformed hlt hentry hparse =>
    obtain ⟨n, rfl⟩ := Nat.exists_eq_succ_of_ne_zero (Nat.pos_iff_ne_zero.mp hlt)
    cases chain with
    | nil => cases hentry
    | cons entry rest =>
      cases hentry
      rw [walk, hparse]
      rfl
  | hopLimit he =>
    rw [← he]
    rfl
  | endOfChain _ hlength =>
    rw [List.length_eq_zero_iff.mp hlength]
    cases limit <;> rfl

theorem walk_of_ends (hvouched : Vouched t chain hops) (hends : Ends t limit chain peer hops client) :
    walk t limit peer chain = client := by
  induction hops generalizing limit peer chain with
  | nil => exact walk_of_ends_nil hends
  | cons addr hops ih =>
    obtain ⟨n, rfl⟩ := Nat.exists_eq_succ_of_ne_zero
      (Nat.pos_iff_ne_zero.mp (Nat.lt_of_lt_of_le (Nat.succ_pos _) hends.length_le))
    cases chain with
    | nil => cases hvouched
    | cons entry rest =>
      obtain ⟨⟨hparse, htrusted⟩, hrest⟩ := vouched_cons.mp hvouched
      obtain ⟨raw, hraw, rfl⟩ := Option.map_eq_some_iff.mp hparse
      rw [walk, hraw]
      dsimp only
      rw [if_pos htrusted]
      exact ih hrest hends.of_cons

variable {chain' : List String}

theorem walk_eq_of_take_eq (hvouched : Vouched t chain hops)
    (hends : Ends t limit chain peer hops client)
    (h : chain'.take (hops.length + 1) = chain.take (hops.length + 1)) :
    walk t limit peer chain' = client := by
  have hprefix : chain'.take hops.length = chain.take hops.length := by
    have := congrArg (List.take hops.length) h
    rwa [List.take_take, List.take_take, Nat.min_eq_left (Nat.le_succ _)] at this
  have hstop : chain'[hops.length]? = chain[hops.length]? := by
    have := congrArg (fun l : List String => l[hops.length]?) h
    simpa using this
  refine walk_of_ends (by rwa [Vouched, hprefix]) ?_
  cases hends with
  | untrusted hlt hentry hparse hc => exact .untrusted hlt (hstop.trans hentry) hparse hc
  | malformed hlt hentry hparse => exact .malformed hlt (hstop.trans hentry) hparse
  | hopLimit he => exact .hopLimit he
  | endOfChain hle hlength =>
    refine .endOfChain hle ?_
    have hlen := congrArg List.length h
    rw [List.length_take, List.length_take] at hlen
    omega

end

/-! ## The text of the header -/

/-- The header ends in this line and the lines after it; of what is left of it in the line,
a comma separates it. -/
inductive EndsIn (line : String) (right : List String) : List String → Prop where
  | lineStart (left : List String) : EndsIn line right (left ++ line :: right)
  | afterComma (left : List String) (text : String) :
      EndsIn line right (left ++ (text ++ "," ++ line) :: right)

theorem entries_append (a b : List String) : entries (a ++ b) = entries a ++ entries b :=
  List.flatMap_append

theorem EndsIn.entries {line : String} {right values : List String} (h : EndsIn line right values) :
    ∃ more, entries values = more ++ entries (line :: right) := by
  cases h with
  | lineStart left => exact ⟨_, entries_append left _⟩
  | afterComma left text =>
    refine ⟨ClientIP.entries left ++ (splitChar text ',').map trimSpace, ?_⟩
    have hline : ClientIP.entries ((text ++ "," ++ line) :: right) =
        (splitChar text ',').map trimSpace ++ ClientIP.entries (line :: right) := by
      rw [ClientIP.entries, List.flatMap_cons, show "," = String.singleton ',' from rfl,
        splitChar_append, List.map_append, List.append_assoc]
      rfl
    rw [entries_append, hline, List.append_assoc]

theorem EndsIn.take_chain {line : String} {right : List String} {header : Header} {n : Nat}
    (h : EndsIn line right (header.values "X-Forwarded-For"))
    (hn : n ≤ (ClientIP.entries (line :: right)).length) :
    (chain header).take n = (ClientIP.entries (line :: right)).reverse.take n := by
  obtain ⟨more, hmore⟩ := h.entries
  rw [chain, hmore, List.reverse_append, List.take_append_of_le_length (by simpa using hn)]

theorem resolve_untrusted {t : Trust} {remoteAddr : String} {peer : Addr}
    (hparse : parseAddr (hostOf remoteAddr) = some peer) (hc : t.contains (normal peer) = false)
    (header : Header) : resolve t remoteAddr header = ((normal peer).toText, false) := by
  rw [resolve, hparse]
  dsimp only
  rw [hc, if_neg Bool.false_ne_true]

/-- The address of a request cannot be chosen from the left of the chain. Behind a trusted peer the client
is the first untrusted address from the right within the hop limit, or the last trusted one where the
chain breaks off; and headers that share the part in which the walk stops resolve alike. -/
theorem client_address_resolved (t : Trust) (remoteAddr : String) (header : Header) :
    (parseAddr (hostOf remoteAddr) = none →
      ∀ header', resolve t remoteAddr header' = (hostOf remoteAddr, false)) ∧
    ∀ peer, parseAddr (hostOf remoteAddr) = some peer →
      (t.contains (normal peer) = false →
        ∀ header', resolve t remoteAddr header' = ((normal peer).toText, false)) ∧
      (t.contains (normal peer) = true → ∃ hops client,
        Vouched t (chain header) hops ∧ Ends t maxHops (chain header) (normal peer) hops client ∧
        resolve t remoteAddr header = (client.toText, true) ∧
        (∀ header', (chain header').take (hops.length + 1) = (chain header).take (hops.length + 1) →
          resolve t remoteAddr header' = (client.toText, true)) ∧
        ∀ line right, EndsIn line right (header.values "X-Forwarded-For") →
          hops.length < (entries (line :: right)).length →
          ∀ header', EndsIn line right (Header.values header' "X-Forwarded-For") →
            resolve t remoteAddr header' = (client.toText, true)) := by
  refine ⟨fun hparse header' => by rw [resolve, hparse], fun peer hparse => ⟨fun hc header' => ?_, fun hc => ?_⟩⟩
  · exact resolve_untrusted hparse hc header'
  · have hresolve : ∀ header', resolve t remoteAddr header' =
        ((walk t maxHops (normal peer) (chain header')).toText, true) := by
      intro header'
      rw [resolve, hparse]
      dsimp only
      rw [if_pos hc]
    obtain ⟨hops, hvouched, hends⟩ := walk_ends t maxHops (normal peer) (chain header)
    have hsame : ∀ header',
        (chain header').take (hops.length + 1) = (chain header).take (hops.length + 1) →
        resolve t remoteAddr header' = ((walk t maxHops (normal peer) (chain header)).toText, true) := by
      intro header' htake
      rw [hresolve, walk_eq_of_take_eq hvouched hends htake]
    refine ⟨hops, _, hvouched, hends, hresolve header, hsame, fun line right hheader hstop header' hheader' => ?_⟩
    refine hsame header' ?_
    rw [hheader'.take_chain hstop, hheader.take_chain hstop]

end Krouter.ClientIP
