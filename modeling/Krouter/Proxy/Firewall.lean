import Krouter.Proxy.Forward
import Krouter.Proxy.AuthGate
import Krouter.Routing.Passthrough

/-! The web application firewall and the bodies of requests. What the rule engine answers is a
parameter. -/

namespace Krouter.Proxy
open Compiled Auth Http GoString Routing

/-- What follows the header of a request: the announced length, `-1` for an unknown one, and
the bytes that will come, `none` for a nil body. -/
structure Body where
  contentLength : Int
  bytes : Option (List UInt8)

/-- A transaction of the rule engine, by the answers of its calls on one request. -/
structure Transaction where
  processRequestHeaders : Option Interruption
  isRequestBodyAccessible : Bool
  /-- On the reader of a body: an interruption, and how many bytes went to the buffer before
  the limit. -/
  readRequestBodyFrom : List UInt8 → Except String (Option Interruption × Nat)
  /-- The rules on the buffer. -/
  processRequestBody : List UInt8 → Except String (Option Interruption)
  /-- Whether the buffer can be opened, and read to its end. -/
  requestBodyReader : List UInt8 → Except String Unit
  readAll : List UInt8 → Except String Unit

structure Engine where
  newTransaction : Request → String → Transaction

/-- How an evaluation ended, which body the request-body phase was given, and the body that
the request carries on. -/
structure Evaluation where
  outcome : Except String (Option Interruption)
  offered : Option (List UInt8)
  body : Option (List UInt8)

namespace Transaction

def bodyPhase (tx : Transaction) (buffered : List UInt8) : Except String (Option Interruption) :=
  (tx.processRequestBody buffered).mapError fun err => "processing request body: " ++ err

/-- The phase on a body given to the engine: the buffered bytes are replayed before the rest. -/
def evaluateBody (tx : Transaction) (bytes : List UInt8) : Evaluation :=
  match tx.readRequestBodyFrom bytes with
  | .error err => ⟨.error ("reading request body: " ++ err), some bytes, some bytes⟩
  | .ok (some interruption, _) => ⟨.ok (some interruption), some bytes, some bytes⟩
  | .ok (none, n) =>
    match tx.bodyPhase (bytes.take n) with
    | .error err => ⟨.error err, some bytes, some bytes⟩
    | .ok (some interruption) => ⟨.ok (some interruption), some bytes, some bytes⟩
    | .ok none =>
      match tx.requestBodyReader (bytes.take n), tx.readAll (bytes.take n) with
      | .error err, _ => ⟨.error ("replaying request body: " ++ err), some bytes, some bytes⟩
      | .ok (), .error err => ⟨.error ("buffering request body: " ++ err), some bytes, some bytes⟩
      | .ok (), .ok () => ⟨.ok none, some bytes, some (bytes.take n ++ bytes.drop n)⟩

def evaluate (tx : Transaction) (body : Option (List UInt8)) (headersOnly : Bool) : Evaluation :=
  match tx.processRequestHeaders with
  | some interruption => ⟨.ok (some interruption), none, body⟩
  | none =>
    match body with
    | some bytes =>
      if !headersOnly && tx.isRequestBodyAccessible then tx.evaluateBody bytes
      else ⟨tx.bodyPhase [], none, body⟩
    | none => ⟨tx.bodyPhase [], none, body⟩

variable {tx : Transaction} {body : Option (List UInt8)} {headersOnly : Bool}

theorem evaluateBody_spec (tx : Transaction) (bytes : List UInt8) :
    (tx.evaluateBody bytes).offered = some bytes ∧ (tx.evaluateBody bytes).body = some bytes := by
  unfold evaluateBody
  split
  · exact ⟨rfl, rfl⟩
  · exact ⟨rfl, rfl⟩
  · split
    · exact ⟨rfl, rfl⟩
    · exact ⟨rfl, rfl⟩
    · split
      · exact ⟨rfl, rfl⟩
      · exact ⟨rfl, rfl⟩
      · exact ⟨rfl, congrArg some (List.take_append_drop ..)⟩

theorem evaluate_body (tx : Transaction) (body : Option (List UInt8)) (headersOnly : Bool) :
    (tx.evaluate body headersOnly).body = body := by
  unfold evaluate
  cases tx.processRequestHeaders with
  | some interruption => rfl
  | none =>
    cases body with
    | none => rfl
    | some bytes =>
      split_ifs
      · exact (evaluateBody_spec tx bytes).2
      · rfl

theorem evaluate_offered_headersOnly (tx : Transaction) (body : Option (List UInt8)) :
    (tx.evaluate body true).offered = none := by
  unfold evaluate
  cases tx.processRequestHeaders with
  | some interruption => rfl
  | none => cases body <;> rfl

theorem evaluate_offered (haccess : tx.isRequestBodyAccessible = true)
    (hpass : (tx.evaluate body false).outcome = .ok none) :
    (tx.evaluate body false).offered = body := by
  unfold evaluate at hpass ⊢
  cases hheaders : tx.processRequestHeaders with
  | some interruption =>
    rw [hheaders] at hpass
    cases hpass
  | none =>
    cases body with
    | none => rfl
    | some bytes =>
      rw [haccess]
      exact (evaluateBody_spec tx bytes).1

end Transaction

/-- The environment of a request with this body, with these engines for the programs. -/
def Environment.withEngines (env : Environment) (engines : String → Engine) (body : Body) :
    Environment :=
  { env with
    inspect := fun program r clientIP headersOnly =>
      (((engines program).newTransaction r clientIP).evaluate body.bytes headersOnly).outcome }

def screened (env : Environment) (engines : String → Engine) (tables : Tables) (port : Int32)
    (r r' : Request) (program : String) (body : Body) : Evaluation :=
  ((engines program).newTransaction r' (clientAddress env tables port r)).evaluate body.bytes
    (isUpgrade r')

/-- The reverse proxy drops the body of a request that announces none. -/
def Body.carried (body : Body) : List UInt8 :=
  if body.contentLength = 0 then [] else body.bytes.getD []

def Forwarded.sentBody (body : Body) : Forwarded → List UInt8
  | .answered _ _ => []
  | .proxied _ _ => body.carried

section
variable {env : Environment} {engines : String → Engine} {tables : Tables} {port : Int32}
  {withTLS withTLS' trusted : Bool} {r r' : Request} {body : Body} {w : Writer} {rule : RuleTable}
  {program : String} {x : Exchange}

theorem sentBody_screened {upstream : Connection} {mirrors : List Connection}
    (hproxied : forward w rule x = .proxied upstream mirrors) :
    (forward w rule x).sentBody
      ⟨body.contentLength, (screened env engines tables port r r' program body).body⟩ =
        body.carried := by
  rw [hproxied, screened, Transaction.evaluate_body]
  rfl

theorem screened_offered
    (hinspects : ∀ r clientIP,
      ((engines program).newTransaction r clientIP).isRequestBodyAccessible = true)
    (hwaf : rule.wafEngine = some program)
    (hserve : serve (env.withEngines engines body) tables port withTLS r =
      some (.forward w r' rule withTLS' trusted)) :
    (screened env engines tables port r r' program body).offered =
      if isUpgrade r then none else body.bytes := by
  obtain ⟨hpassed, hinspect⟩ := serve_passed hserve
  have hok := hinspect program hwaf
  rw [screened, hpassed.isUpgrade]
  rw [hpassed.isUpgrade] at hok
  cases hup : isUpgrade r with
  | true => exact Transaction.evaluate_offered_headersOnly _ _
  | false =>
    rw [hup] at hok
    exact Transaction.evaluate_offered (hinspects _ _) hok

theorem carried_offered_iff
    (hoffered : (screened env engines tables port r r' program body).offered =
      if isUpgrade r then none else body.bytes) :
    body.carried <+: (screened env engines tables port r r' program body).offered.getD [] ↔
      isUpgrade r = false ∨ body.contentLength = 0 ∨ body.bytes.getD [] = [] := by
  rw [hoffered, Body.carried]
  cases isUpgrade r with
  | false =>
    refine iff_of_true ?_ (.inl rfl)
    rw [if_neg Bool.false_ne_true]
    split_ifs
    · exact List.nil_prefix
    · exact List.prefix_rfl
  | true =>
    rw [if_pos rfl, Option.getD_none, List.prefix_nil]
    split_ifs with hlength
    · exact iff_of_true rfl (.inr (.inl hlength))
    · exact ⟨fun h => .inr (.inr h), fun h =>
        (h.resolve_left (by decide)).resolve_left hlength⟩

end

/-- Of a request that a rule with a body-inspecting firewall forwards, every byte of the body was given to
the body phase first, exactly when it does not look like an upgrade or has no body to send. -/
theorem sent_body_screened_iff (env : Environment) (engines : String → Engine) (tables : Tables)
    (port : Int32) (withTLS : Bool) (r : Request) (body : Body) (w : Writer) (r' : Request)
    (rule : RuleTable) (withTLS' trusted : Bool) (program : String) (x : Exchange)
    (upstream : Connection) (mirrors : List Connection)
    (hserve : serve (env.withEngines engines body) tables port withTLS r =
      some (.forward w r' rule withTLS' trusted))
    (hwaf : rule.wafEngine = some program)
    (hinspects : ∀ r clientIP,
      ((engines program).newTransaction r clientIP).isRequestBodyAccessible = true)
    (hproxied : forward w rule x = .proxied upstream mirrors) :
    (forward w rule x).sentBody
        ⟨body.contentLength, (screened env engines tables port r r' program body).body⟩ <+:
          (screened env engines tables port r r' program body).offered.getD [] ↔
      isUpgrade r = false ∨ body.contentLength = 0 ∨ body.bytes.getD [] = [] := by
  rw [sentBody_screened hproxied]
  exact carried_offered_iff (screened_offered hinspects hwaf hserve)

/-! ## A request made to look like an upgrade -/

def calmEngine : Engine where
  newTransaction := fun _ _ => ⟨none, true, fun bytes => .ok (none, bytes.length), fun _ => .ok none,
    fun _ => .ok (), fun _ => .ok ()⟩

def shopBackend : BackendTable := ⟨"shop", "web", 80, 1, true, false, [], "", none, false⟩

def guardedRule : RuleTable :=
  ⟨[⟨"PathPrefix", "/", "", [], []⟩], [], [shopBackend], [], none, false, 0, 0, 1, none,
    some "SecRequestBodyAccess On", none, false⟩

def guardedTables : Tables :=
  ⟨(∅ : GoMap Int32 PortTable).insert 10000 ⟨"uid", "shop/gw", false, false, false, false, false,
    [⟨"web", "", none, false, none, .noClientCert, [⟨"shop", "route", [], 0, [guardedRule]⟩]⟩], []⟩, ∅⟩

def formPost (header : Header) : Request :=
  ⟨"POST", "shop.example.com", "/cart", "/cart", ∅, header, [], "192.0.2.1:4000", none⟩

def openEnvironment : Environment :=
  { strictEnvironment with inspect := fun _ _ _ _ => .ok none }

def firstExchange (backend : BackendTable) : Exchange :=
  ⟨servingIndex backend, ⟨0, 0⟩, true, false, servingIndex backend, fun _ => ⟨fun _ => false, 0⟩⟩

theorem forward_guarded (w : Writer) :
    forward w guardedRule (firstExchange shopBackend) =
      .proxied ⟨⟨shopBackend, ⟨"10.0.0.1", 8080⟩⟩, .http⟩ [] := by
  rfl

def dressedPost : Request :=
  formPost (Header.set (Header.set ∅ "Upgrade" "x") "Connection" "no-upgrade")

def formBody : Body := ⟨4, some [113, 61, 49, 50]⟩

theorem plain_post_screened :
    (forward ⟨∅, []⟩ guardedRule (firstExchange shopBackend)).sentBody
        ⟨4, (screened openEnvironment (fun _ => calmEngine) guardedTables 10000 (formPost ∅)
          (formPost ∅) "SecRequestBodyAccess On" formBody).body⟩ <+:
      (screened openEnvironment (fun _ => calmEngine) guardedTables 10000 (formPost ∅)
        (formPost ∅) "SecRequestBodyAccess On" formBody).offered.getD [] :=
  (sent_body_screened_iff openEnvironment (fun _ => calmEngine) guardedTables 10000 false
    (formPost ∅) formBody ⟨∅, []⟩ (formPost ∅) guardedRule false false "SecRequestBodyAccess On"
    (firstExchange shopBackend) _ _ rfl rfl (fun _ _ => rfl) (forward_guarded _)).mpr (Or.inl rfl)

theorem dressed_post_escapes :
    serve (openEnvironment.withEngines (fun _ => calmEngine) formBody) guardedTables 10000 false
        dressedPost = some (.forward ⟨∅, []⟩ dressedPost guardedRule false false) ∧
      guardedRule.wafEngine = some "SecRequestBodyAccess On" ∧
      (∀ r clientIP, (calmEngine.newTransaction r clientIP).isRequestBodyAccessible = true) ∧
      (forward ⟨∅, []⟩ guardedRule (firstExchange shopBackend)).sentBody
        ⟨4, (screened openEnvironment (fun _ => calmEngine) guardedTables 10000 dressedPost
          dressedPost "SecRequestBodyAccess On" formBody).body⟩ = [113, 61, 49, 50] ∧
      (screened openEnvironment (fun _ => calmEngine) guardedTables 10000 dressedPost
        dressedPost "SecRequestBodyAccess On" formBody).offered = none :=
  ⟨rfl, rfl, fun _ _ => rfl, rfl, rfl⟩

end Krouter.Proxy
