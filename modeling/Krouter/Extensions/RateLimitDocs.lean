import Krouter.ControlPlane.RouteExtensions
import Krouter.Extensions.Limiter
import Krouter.Lib.LastSet
import Krouter.Lib.Result

/-! A rate limit from its documents to the limiter: they are checked as parsed, merged attribute by
attribute, and compiled with the window in milliseconds. The arithmetic is exact. -/

namespace Krouter.RateLimiting
open Compiled ControlPlane GoString

/-! ## Parsing -/

structure HclRateLimit where
  requests : Option Int64
  window : Option String
  burst : Option Int64
  key : Option String
  status : Option Int32

structure HclDocument where
  version : Int64
  rateLimit : Option HclRateLimit

def validKey (key : String) : Bool :=
  key = "client_ip" || (hasPrefix key "header:" && "header:".length < key.utf8ByteSize)

section
variable (decode : String → Except String HclDocument) (parseDuration : String → Option Int64)

def parseWindow : Option String → Except String (Option Int64)
  | none => .ok none
  | some text =>
    match parseDuration text with
    | none => .error ("invalid window " ++ quote text)
    | some window => if window ≤ 0 then .error ("invalid window " ++ quote text) else .ok (some window)

def parseBlock (block : HclRateLimit) : Except String RateLimitDocument :=
  if ∃ requests ∈ block.requests, requests ≤ 0 then .error "requests must be > 0"
  else do
    let window ← parseWindow parseDuration block.window
    if ∃ burst ∈ block.burst, burst ≤ 0 then .error "burst must be > 0"
    else if ∃ key ∈ block.key, !validKey key then .error ("invalid key " ++ quote (block.key.getD ""))
    else if ∃ status ∈ block.status, status < 400 ∨ 599 < status then
      .error "status must be in 400-599"
    else .ok ⟨block.requests, window, block.burst, block.key, block.status⟩

def parse (src : String) : Except String RateLimitDocument := do
  let raw ← decode src
  if raw.version ≠ 1 then .error ("unsupported version " ++ toString raw.version)
  else
    match raw.rateLimit with
    | none => .error "missing rate_limit block"
    | some block => parseBlock parseDuration block

variable {decode parseDuration}

theorem parseWindow_ok {text : Option String} {window : Option Int64}
    (h : parseWindow parseDuration text = .ok window) : ∀ ns ∈ window, 0 < ns := by
  cases text with
  | none =>
    cases h
    exact fun ns hns => by cases hns
  | some text =>
    rw [parseWindow] at h
    split at h
    · cases h
    · next ns hd =>
      split at h
      · cases h
      · cases h
        rename_i hpos
        intro ns' hns
        rw [← Option.some.inj hns]
        exact Int64.not_le.mp hpos

theorem parseBlock_ok {block : HclRateLimit} {doc : RateLimitDocument}
    (h : parseBlock parseDuration block = .ok doc) :
    (∀ n ∈ doc.requests, 0 < n) ∧ ∀ ns ∈ doc.window, 0 < ns := by
  unfold parseBlock at h
  split at h
  · cases h
  · rename_i hrequests
    obtain ⟨window, hwindow, h⟩ := Result.bind_eq_ok.mp h
    -- the later checks only reject
    have hdoc : (⟨block.requests, window, block.burst, block.key, block.status⟩ : RateLimitDocument) = doc := by
      split_ifs at h
      exact Except.ok.inj h
    subst hdoc
    refine ⟨fun n hn => ?_, parseWindow_ok hwindow⟩
    exact Int64.not_le.mp fun hle => hrequests ⟨n, hn, hle⟩

theorem parse_ok {src : String} {doc : RateLimitDocument} (h : parse decode parseDuration src = .ok doc) :
    (∀ n ∈ doc.requests, 0 < n) ∧ ∀ ns ∈ doc.window, 0 < ns := by
  obtain ⟨raw, -, h⟩ := Result.bind_eq_ok.mp h
  split at h
  · cases h
  · split at h
    · cases h
    · next block hblock =>
      exact parseBlock_ok h

end

/-! ## Milliseconds -/

theorem toInt_window_of_millis {ns : Int64} (h : 0 < ns) :
    (ns / 1000000 * 1000000).toInt = ns.toInt / 1000000 * 1000000 := by
  have hpos : 0 < ns.toInt := by simpa using Int64.lt_iff_toInt_lt.mp h
  have hlt := ns.toInt_lt
  have hdiv : (ns / 1000000).toInt = ns.toInt / 1000000 := by
    rw [Int64.toInt_div_of_ne_right _ _ (by decide)]
    exact Int.tdiv_eq_ediv_of_nonneg hpos.le
  rw [Int64.toInt_mul, hdiv]
  have hmillion : (1000000 : Int64).toInt = 1000000 := by decide
  rw [hmillion]
  exact Int.bmod_eq_of_le (by norm_num; omega) (by norm_num; omega)

section
variable {docs : List RateLimitDocument} {config : RateLimit}

theorem merge_ok (h : mergeRateLimits docs = .ok config) :
    ∃ requests window, lastSet RateLimitDocument.requests docs = some requests ∧
      lastSet RateLimitDocument.window docs = some window ∧ config.requests = requests ∧
        config.windowMillis = window / 1000000 := by
  have hrequests := foldl_eq_lastSet RateLimitDocument.override RateLimitDocument.requests
    RateLimitDocument.requests (fun _ _ => rfl) docs ⟨none, none, none, none, none⟩
  have hwindow := foldl_eq_lastSet RateLimitDocument.override RateLimitDocument.window
    RateLimitDocument.window (fun _ _ => rfl) docs ⟨none, none, none, none, none⟩
  rw [Option.or_none] at hrequests hwindow
  rw [mergeRateLimits, hrequests, hwindow] at h
  cases hr : lastSet RateLimitDocument.requests docs with
  | none =>
    rw [hr] at h
    cases h
  | some requests =>
    cases hw : lastSet RateLimitDocument.window docs with
    | none =>
      rw [hr, hw] at h
      cases h
    | some window =>
      rw [hr, hw] at h
      cases h
      exact ⟨requests, window, rfl, rfl, rfl, rfl⟩

end

/-! ## The limiter -/

def oneRequest (window : String) : HclDocument :=
  ⟨1, some ⟨some 1, some window, none, none, none⟩⟩

def twoDurations (text : String) : Option Int64 :=
  if text = "1s" then some 1000000000 else if text = "500us" then some 500000 else none

def parseOne : String → Except String RateLimitDocument :=
  parse (fun window => .ok (oneRequest window)) twoDurations

end Krouter.RateLimiting
