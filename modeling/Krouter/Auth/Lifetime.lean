import Krouter.Auth.Oidc
import Krouter.Auth.SessionIsolation
import Krouter.Lib.Runs

/-! How long sessions are accepted while their configuration is edited. A session carries its expiry,
sealed under the lifetime of the day; nothing looks at the lifetime again. -/

namespace Krouter.Auth.Lifetime
open Compiled Http

/-- A sealed session, with the time its login minted it and the lifetime it was given then,
both in nanoseconds. -/
structure Minted where
  session : Session
  mintedAt : Int
  lifetime : Int

/-- An extension over time: its configuration, everything that was ever sealed, and where the
sealed sessions come from. -/
structure Extension where
  clock : Int
  cfg : Auth
  log : List SealRecord
  minted : List Minted

def lifetimeOf (cfg : Auth) : Int :=
  (cfg.session.map fun session => (session.lifetimeMillis * 1000000).toInt).getD 0

inductive Event where
  | edit (now : Int) (cfg : Auth)
  | mint (now : Int) (provider : String) (identity : Identity) (extra : Option Session) (r : Request)
      (nonce box : List UInt8)
  /-- A request with whatever cookies; its session may be renewed. -/
  | visit (now : Int) (client : OIDCClient) (r : Request) (nonce box : List UInt8)
  /-- A state cookie, or anything under another key. -/
  | elsewhere (record : SealRecord)

section
variable (sum256 : String → String)

def Extension.start (cfg : Auth) : Extension := ⟨0, cfg, [], []⟩

def Extension.enforcer (s : Extension) : Enforcer :=
  ⟨s.cfg, s.cfg.session.map (newCodec sum256 s.cfg.identity)⟩

def Extension.providers (s : Extension) (now : Int) (client : OIDCClient) (nonce box : List UInt8) :
    Providers where
  now := now
  log := s.log
  nonce := nonce
  box := box
  basicAuth := fun _ => none
  jwtValidate := fun _ _ => .error .rejected
  ldapAuthenticate := fun _ _ _ => .error .rejected
  oidcRefresh := client.refresh (Int64.ofInt (now / 1000000000))

def Extension.reads (s : Extension) (now : Int) : Prop := s.clock ≤ now ∧ now < 2 ^ 62 * 1000000000

instance (s : Extension) (now : Int) : Decidable (s.reads now) := inferInstanceAs (Decidable (_ ∧ _))

def Extension.sealing (s : Extension) (now : Int) (codec : Codec) (r : Request) (session : Session)
    (nonce box : List UInt8) (origins : List Minted) : Extension :=
  { s with
    clock := now
    log := s.log ++ [(codec.sealSession r session nonce box).1]
    minted := s.minted ++ origins }

def Extension.mint (s : Extension) (now : Int) (provider : String) (identity : Identity)
    (extra : Option Session) (r : Request) (nonce box : List UInt8) : Option Extension :=
  (s.enforcer sum256).codec.bind fun codec =>
    ((s.enforcer sum256).mintExtended (s.providers now ⟨fun _ _ => .error .unavailable,
      fun _ _ => .error .unavailable⟩ nonce box) provider identity extra).map fun session =>
        s.sealing now codec r session nonce box [⟨session, now, lifetimeOf s.cfg⟩]

def Extension.origins (s : Extension) (session next : Session) : List Minted :=
  (s.minted.filter fun m => m.session = session).map fun m => { m with session := next }

def Extension.visit (s : Extension) (now : Int) (client : OIDCClient) (r : Request)
    (nonce box : List UInt8) : Extension :=
  let p := s.providers now client nonce box
  match (s.enforcer sum256).codec with
  | none => { s with clock := now }
  | some codec =>
    match codec.openSession s.log p.unix r with
    | none => { s with clock := now }
    | some session =>
      match (s.enforcer sum256).renewed p session with
      | none => { s with clock := now }
      | some next => s.sealing now codec r next nonce box (s.origins session next)

def Extension.foreign (s : Extension) (record : SealRecord) : Prop :=
  ∀ session ∈ s.cfg.session, record.key = sum256 session.secret → record.context ≠ "session"

instance (s : Extension) (record : SealRecord) : Decidable (s.foreign sum256 record) :=
  inferInstanceAs (Decidable (∀ session ∈ s.cfg.session, _))

def Extension.step (s : Extension) : Event → Option Extension
  | .edit now cfg =>
    -- the secret stays, whatever else changes
    if s.reads now ∧ cfg.session.map AuthSession.secret = s.cfg.session.map AuthSession.secret then
      some { s with clock := now, cfg := cfg }
    else none
  | .mint now provider identity extra r nonce box =>
    if s.reads now then s.mint sum256 now provider identity extra r nonce box else none
  | .visit now client r nonce box =>
    if s.reads now then some (s.visit sum256 now client r nonce box) else none
  | .elsewhere record =>
    if s.foreign sum256 record then some { s with log := s.log ++ [record] } else none

end

/-- An edit does not take the lifetime below that of a session that has not run out yet. -/
def LifetimeKept (s : Extension) : Event → Prop
  | .edit now cfg => ∀ m ∈ s.minted, m.lifetime ≤ lifetimeOf cfg ∨ m.mintedAt + m.lifetime ≤ now
  | _ => True

/-! ## The sessions of an extension -/

def unix (now : Int) : Int64 := Int64.ofInt (now / 1000000000)

structure Minted.Genuine (clock : Int) (m : Minted) : Prop where
  issued : m.session.issuedAt = unix m.mintedAt
  expires : m.session.expiresAt = unix (m.mintedAt + m.lifetime)
  past : 0 ≤ m.mintedAt ∧ m.mintedAt ≤ clock
  lifetime : -2 ^ 63 ≤ m.lifetime ∧ m.lifetime < 2 ^ 63

structure Genuine (sum256 : String → String) (s : Extension) : Prop where
  clock : 0 ≤ s.clock ∧ s.clock < 2 ^ 62 * 1000000000
  minted : ∀ m ∈ s.minted, m.Genuine s.clock
  /-- A minted session has run out, or its lifetime is within the configured one. -/
  within : ∀ m ∈ s.minted, m.lifetime ≤ lifetimeOf s.cfg ∨ m.mintedAt + m.lifetime ≤ s.clock
  /-- What opens as a session is a minted one. -/
  sealed : ∀ record ∈ s.log, ∀ session ∈ s.cfg.session, record.key = sum256 session.secret →
    record.context = "session" → ∃ m ∈ s.minted, sessionCodec.unmarshal record.plain = some m.session

theorem lt_of_not_unix_le {a b : Int} (ha : 0 ≤ a ∧ a < 2 ^ 62 * 1000000000)
    (hb : -2 ^ 63 ≤ b ∧ b < 2 ^ 62 * 1000000000 + 2 ^ 63) (h : ¬ unix b ≤ unix a) : a < b := by
  rw [Int64.le_iff_toInt_le, unix, unix, Int64.toInt_ofInt_of_le (by omega) (by omega),
    Int64.toInt_ofInt_of_le (by omega) (by omega)] at h
  omega

section
variable {sum256 : String → String} {s : Extension} {now : Int}

theorem Minted.Genuine.mono {clock later : Int} {m : Minted} (h : m.Genuine clock)
    (hl : clock ≤ later) : m.Genuine later := ⟨h.issued, h.expires, ⟨h.past.1, Int.le_trans h.past.2 hl⟩,
    h.lifetime⟩

theorem Genuine.start (cfg : Auth) : Genuine sum256 (Extension.start cfg) where
  clock := ⟨Int.le_refl 0, (by decide : (0 : Int) < 2 ^ 62 * 1000000000)⟩
  minted := fun m hm => by cases hm
  within := fun m hm => by cases hm
  sealed := fun record hr => by cases hr

theorem Genuine.tick (h : Genuine sum256 s) (hnow : s.reads now) :
    Genuine sum256 { s with clock := now } where
  clock := ⟨Int.le_trans h.clock.1 hnow.1, hnow.2⟩
  minted := fun m hm => (h.minted m hm).mono hnow.1
  within := fun m hm => (h.within m hm).imp_right fun hout => Int.le_trans hout hnow.1
  sealed := h.sealed

theorem Genuine.edit (h : Genuine sum256 s) (hnow : s.reads now) {cfg : Auth}
    (hsecret : cfg.session.map AuthSession.secret = s.cfg.session.map AuthSession.secret)
    (hkept : ∀ m ∈ s.minted, m.lifetime ≤ lifetimeOf cfg ∨ m.mintedAt + m.lifetime ≤ now) :
    Genuine sum256 { s with clock := now, cfg := cfg } where
  clock := (h.tick hnow).clock
  minted := (h.tick hnow).minted
  within := hkept
  sealed := fun record hr session hs hkey hcontext => by
    have hold : s.cfg.session.map AuthSession.secret = some session.secret := by
      rw [← hsecret, Option.mem_def.mp hs]
      rfl
    obtain ⟨old, hmem, hsame⟩ := Option.map_eq_some_iff.mp hold
    exact h.sealed record hr old hmem (by rw [hkey, hsame]) hcontext

variable {codec : Codec} {r : Request} {session : Session} {nonce box : List UInt8}

theorem Genuine.sealing (h : Genuine sum256 s) (hnow : s.reads now) {origins : List Minted} (hne : origins ≠ [])
    (hsession : ∀ m ∈ origins, m.session = session) (hgenuine : ∀ m ∈ origins, m.Genuine now)
    (hwithin : ∀ m ∈ origins, m.lifetime ≤ lifetimeOf s.cfg ∨ m.mintedAt + m.lifetime ≤ now) :
    Genuine sum256 (s.sealing now codec r session nonce box origins) where
  clock := (h.tick hnow).clock
  minted := fun m hm => (List.mem_append.mp hm).elim ((h.tick hnow).minted m) (hgenuine m)
  within := fun m hm => (List.mem_append.mp hm).elim ((h.tick hnow).within m) (hwithin m)
  sealed := fun record hr key hk hkey hcontext => by
    rcases List.mem_append.mp hr with hr | hr
    · obtain ⟨m, hm, hplain⟩ := h.sealed record hr key hk hkey hcontext
      exact ⟨m, List.mem_append_left _ hm, hplain⟩
    · obtain ⟨m, hm⟩ := List.exists_mem_of_ne_nil origins hne
      refine ⟨m, List.mem_append_right _ hm, ?_⟩
      rw [List.mem_singleton.mp hr, Codec.sealSession_record, hsession m hm,
        sessionCodec.unmarshal_marshal]

theorem Genuine.opened (h : Genuine sum256 s) (hcodec : (s.enforcer sum256).codec = some codec) {t : Int64}
    (hopen : codec.openSession s.log t r = some session) : ∃ m ∈ s.minted, m.session = session := by
  obtain ⟨cfg, hcfg, rfl⟩ := Option.map_eq_some_iff.mp hcodec
  obtain ⟨record, hr, hkey, hcontext, hplain, -⟩ := Codec.openSession_some hopen
  obtain ⟨m, hm, hm'⟩ := h.sealed record hr cfg hcfg hkey hcontext
  exact ⟨m, hm, Option.some.inj (hm'.symm.trans hplain)⟩

theorem mintExtended_times {p : Providers} {provider : String} {identity : Identity} {extra : Option Session}
    {e : Enforcer} (hcodec : e.codec = some codec) (h : e.mintExtended p provider identity extra = some session) :
    session.issuedAt = unix p.now ∧ session.expiresAt = unix (p.now + codec.lifetime.toInt) := by
  obtain ⟨minted, hm, rfl⟩ := Option.map_eq_some_iff.mp h
  rw [Enforcer.mintSession, hcodec] at hm
  cases hm
  cases extra <;> exact ⟨rfl, rfl⟩

theorem lifetime_of_codec (h : (s.enforcer sum256).codec = some codec) :
    codec.lifetime.toInt = lifetimeOf s.cfg := by
  obtain ⟨cfg, hcfg, rfl⟩ := Option.map_eq_some_iff.mp h
  rw [lifetimeOf, hcfg, Option.map_some, Option.getD_some, newCodec]

theorem Genuine.mint (h : Genuine sum256 s) (hnow : s.reads now) {provider : String} {identity : Identity}
    {extra : Option Session} {s' : Extension}
    (hmint : s.mint sum256 now provider identity extra r nonce box = some s') : Genuine sum256 s' := by
  obtain ⟨codec, hcodec, hmint⟩ := Option.bind_eq_some_iff.mp hmint
  obtain ⟨session, hsession, rfl⟩ := Option.map_eq_some_iff.mp hmint
  obtain ⟨hissued, hexpires⟩ := mintExtended_times hcodec hsession
  have hlifetime := lifetime_of_codec hcodec
  have hlow := codec.lifetime.le_toInt
  have hhigh := codec.lifetime.toInt_lt
  refine h.sealing hnow (List.cons_ne_nil _ _) ?_ ?_ ?_ <;> intro m hm <;>
    rw [List.mem_singleton.mp hm]
  · refine ⟨hissued, ?_, ⟨Int.le_trans h.clock.1 hnow.1, Int.le_refl now⟩, ?_⟩
    · rw [← hlifetime]
      exact hexpires
    · rw [← hlifetime]
      exact ⟨hlow, hhigh⟩
  · exact .inl (Int.le_refl _)

theorem renewed_times {e : Enforcer} {p : Providers} {client : OIDCClient} {t : Int64}
    (hp : p.oidcRefresh = client.refresh t) {next : Session}
    (h : e.renewed p session = some next) :
    next.issuedAt = session.issuedAt ∧ next.expiresAt = session.expiresAt := by
  obtain ⟨-, oidc, -, -, hrefresh⟩ := Enforcer.renewed_some h
  rw [hp] at hrefresh
  exact OIDCClient.refresh_times hrefresh

theorem Genuine.renew (h : Genuine sum256 s) (hnow : s.reads now) {client : OIDCClient} {next : Session}
    (hmem : ∃ m ∈ s.minted, m.session = session)
    (hnext : (s.enforcer sum256).renewed (s.providers now client nonce box) session = some next) :
    Genuine sum256 (s.sealing now codec r next nonce box (s.origins session next)) := by
  obtain ⟨hissued, hexpires⟩ := renewed_times rfl hnext
  have horigin : ∀ m ∈ s.origins session next, ∃ old ∈ s.minted, old.session = session ∧
      m = { old with session := next } := by
    intro m hm
    obtain ⟨old, hold, rfl⟩ := List.mem_map.mp hm
    obtain ⟨hmem, hsame⟩ := List.mem_filter.mp hold
    exact ⟨old, hmem, of_decide_eq_true hsame, rfl⟩
  refine h.sealing hnow ?_ ?_ ?_ ?_
  · obtain ⟨m, hm, hsame⟩ := hmem
    exact List.ne_nil_of_mem (List.mem_map_of_mem (List.mem_filter.mpr ⟨hm, decide_eq_true hsame⟩))
  · intro m hm
    obtain ⟨old, -, -, rfl⟩ := horigin m hm
    rfl
  · intro m hm
    obtain ⟨old, hold, rfl, rfl⟩ := horigin m hm
    have hg := (h.tick hnow).minted old hold
    exact ⟨hissued.trans hg.issued, hexpires.trans hg.expires, hg.past, hg.lifetime⟩
  · intro m hm
    obtain ⟨old, hold, -, rfl⟩ := horigin m hm
    exact (h.tick hnow).within old hold

theorem Genuine.visit (h : Genuine sum256 s) (hnow : s.reads now) (client : OIDCClient)
    (r : Request) (nonce box : List UInt8) :
    Genuine sum256 (s.visit sum256 now client r nonce box) := by
  unfold Extension.visit
  cases hcodec : (s.enforcer sum256).codec with
  | none => exact h.tick hnow
  | some codec =>
    dsimp only
    split
    · exact h.tick hnow
    · rename_i session hopen
      split
      · exact h.tick hnow
      · rename_i next hnext
        exact h.renew hnow (h.opened hcodec hopen) hnext

theorem Genuine.elsewhere (h : Genuine sum256 s) {record : SealRecord}
    (hforeign : s.foreign sum256 record) :
    Genuine sum256 { s with log := s.log ++ [record] } where
  clock := h.clock
  minted := h.minted
  within := h.within
  sealed := fun other hr session hs hkey hcontext => by
    rcases List.mem_append.mp hr with hr | hr
    · exact h.sealed other hr session hs hkey hcontext
    · rw [List.mem_singleton.mp hr] at hkey hcontext
      exact absurd hcontext (hforeign session hs hkey)

theorem Genuine.step {e : Event} {s' : Extension} (h : Genuine sum256 s) (hkept : LifetimeKept s e)
    (hstep : s.step sum256 e = some s') : Genuine sum256 s' := by
  cases e with
  | edit now cfg =>
    simp only [Extension.step] at hstep
    split_ifs at hstep with hok
    cases hstep
    exact h.edit hok.1 hok.2 hkept
  | mint now provider identity extra r nonce box =>
    simp only [Extension.step] at hstep
    split_ifs at hstep with hnow
    exact h.mint hnow hstep
  | visit now client r nonce box =>
    simp only [Extension.step] at hstep
    split_ifs at hstep with hnow
    cases hstep
    exact h.visit hnow client r nonce box
  | elsewhere record =>
    simp only [Extension.step] at hstep
    split_ifs at hstep with hforeign
    cases hstep
    exact h.elsewhere hforeign

end

/-- In every run of logins, renewals and edits that keep the secret and the lifetime of running
sessions, an accepted session was minted by a login, carries its time, and is within the lifetime. -/
theorem accepted_within_lifetime (sum256 : String → String) (cfg : Auth) (events : List Event)
    (s : Extension)
    (hrun : Runs (Extension.step sum256) LifetimeKept (Extension.start cfg) events s) (now : Int)
    (hnow : s.reads now) (codec : Codec) (hcodec : (s.enforcer sum256).codec = some codec)
    (r : Request) (session : Session)
    (haccepted : codec.openSession s.log (unix now) r = some session) :
    (∃ m ∈ s.minted, m.session = session) ∧ ∀ m ∈ s.minted, m.session = session →
      session.issuedAt = unix m.mintedAt ∧ now < m.mintedAt + lifetimeOf s.cfg := by
  have hgenuine : Genuine sum256 s :=
    hrun.invariant (Genuine sum256) (fun _ _ _ h hkept hstep => h.step hkept hstep) (Genuine.start cfg)
  refine ⟨hgenuine.opened hcodec haccepted, fun m hm hsame => ?_⟩
  obtain ⟨-, -, -, -, -, hrunning⟩ := Codec.openSession_some haccepted
  have hg := hgenuine.minted m hm
  have hclock := hgenuine.clock
  have hpast := hg.past
  have hlifetime := hg.lifetime
  rw [← hsame, hg.expires] at hrunning
  have hlt : now < m.mintedAt + m.lifetime := by
    refine lt_of_not_unix_le ⟨Int.le_trans hclock.1 hnow.1, hnow.2⟩ ?_ hrunning
    omega
  refine ⟨hsame ▸ hg.issued, ?_⟩
  have hstarted := hnow.1
  rcases hgenuine.within m hm with hle | hout <;> omega

/-! ## A shortened lifetime -/

def sessionConfig (lifetimeMillis : Int64) : Auth :=
  ⟨"aaaaaaaaaaaa", "/_auth", some ⟨"secret", lifetimeMillis⟩, none, none, none, none, []⟩

def loginThenEdit (lifetimeMillis : Int64) : List Event :=
  [.mint 0 "oidc" ⟨"alice", "", [], ∅⟩ none (plainRequest []) sampleNonce sampleBox,
    .edit 1000000000 (sessionConfig lifetimeMillis)]

def hourCodec : Codec := newCodec id "aaaaaaaaaaaa" ⟨"secret", 3600000⟩

def afterEdit (lifetimeMillis : Int64) : Extension :=
  ⟨1000000000, sessionConfig lifetimeMillis, [aliceSealing.record hourCodec],
    [⟨aliceSession, 0, 3600000000000⟩]⟩

theorem loginThenEdit_runs {meets : Extension → Event → Prop} (lifetimeMillis : Int64)
    (hmint : ∀ s now provider identity extra r nonce box,
      meets s (.mint now provider identity extra r nonce box))
    (hedit : meets ⟨0, sessionConfig 3600000, [aliceSealing.record hourCodec],
      [⟨aliceSession, 0, 3600000000000⟩]⟩ (.edit 1000000000 (sessionConfig lifetimeMillis))) :
    Runs (Extension.step id) meets (Extension.start (sessionConfig 3600000))
      (loginThenEdit lifetimeMillis) (afterEdit lifetimeMillis) :=
  .cons (hmint ..) rfl (.cons hedit rfl (.nil _))

def editedCodec (lifetimeMillis : Int64) : Codec :=
  newCodec id "aaaaaaaaaaaa" ⟨"secret", lifetimeMillis⟩

theorem afterEdit_opens (lifetimeMillis : Int64) :
    (editedCodec lifetimeMillis).openSession (afterEdit lifetimeMillis).log (unix 1800000000000)
      (renamedRequest (editedCodec lifetimeMillis)) = some aliceSession := by
  have hkey : hourCodec.key = (editedCodec lifetimeMillis).key := rfl
  have hnow : ¬ aliceSession.expiresAt ≤ unix 1800000000000 := by decide
  exact renamed_session_opens hkey hnow

theorem prolonged_session_within_lifetime :
    (editedCodec 7200000).openSession (afterEdit 7200000).log (unix 1800000000000)
        (renamedRequest (editedCodec 7200000)) = some aliceSession ∧
      ∀ m ∈ (afterEdit 7200000).minted, m.session = aliceSession →
        aliceSession.issuedAt = unix m.mintedAt ∧
          1800000000000 < m.mintedAt + lifetimeOf (sessionConfig 7200000) :=
  ⟨afterEdit_opens 7200000, (accepted_within_lifetime id (sessionConfig 3600000) (loginThenEdit 7200000)
    (afterEdit 7200000) (loginThenEdit_runs 7200000 (fun _ _ _ _ _ _ _ _ => trivial)
      (by intro m hm; rw [List.mem_singleton.mp hm]; decide))
    1800000000000 (by decide) (editedCodec 7200000) rfl (renamedRequest (editedCodec 7200000))
    aliceSession (afterEdit_opens 7200000)).2⟩

theorem shortened_lifetime_ignored :
    Runs (Extension.step id) (fun _ _ => True) (Extension.start (sessionConfig 3600000))
        (loginThenEdit 600000) (afterEdit 600000) ∧
      ((afterEdit 600000).enforcer id).codec = some (editedCodec 600000) ∧
      (editedCodec 600000).openSession (afterEdit 600000).log (unix 1800000000000)
        (renamedRequest (editedCodec 600000)) = some aliceSession ∧
      (afterEdit 600000).minted = [⟨aliceSession, 0, 3600000000000⟩] ∧
      ¬ (1800000000000 : Int) < 0 + lifetimeOf (afterEdit 600000).cfg :=
  ⟨loginThenEdit_runs 600000 (fun _ _ _ _ _ _ _ _ => trivial) trivial, rfl, afterEdit_opens 600000,
    rfl, by decide⟩

end Krouter.Auth.Lifetime
