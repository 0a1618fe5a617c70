import Krouter.Lib.Joined
import Krouter.Routing.Backends

/-! The key under which transports are shared. It joins texts of the policy without escaping them, so it
tells policies apart as long as these are free of its separators. -/

namespace Krouter.Routing
open Compiled

/-- `ChecksumBytes` writes the 32 bytes of a sum as hexadecimal digits. -/
structure HexSums (sum256 : String → String) : Prop where
  digits : ∀ s, ∀ c ∈ (sum256 s).toList, c ∈ "0123456789abcdef".toList
  length : ∀ s, (sum256 s).toList.length = 64

/-- The texts of a policy that stand between the separators of the key are free of them. -/
structure Delimited (policy : BackendTLS) : Prop where
  hostname : '|' ∉ policy.hostname.toList
  types : ∀ san ∈ policy.subjectAltNames, '|' ∉ san.type.toList ∧ ':' ∉ san.type.toList
  values : ∀ san ∈ policy.subjectAltNames, '|' ∉ san.value.toList

def caSource (policy : BackendTLS) : Option String := if policy.systemCAs then none else some policy.caPem

def certText (cert : Certificate) : String := cert.certPEM ++ cert.keyPEM

def summed (policy : BackendTLS) (cert : Option Certificate) : Set String :=
  {text | caSource policy = some text ∨ cert.map certText = some text}

variable {p : Platform}

variable (p) in
def clientSum (cert : Option Certificate) : String :=
  match cert with
  | none => ""
  | some cert => checksumBytes p.sum256 (certText cert)

variable (p) in
def ClientCert.of (cert : Option Certificate) : ClientCert := ⟨cert, clientSum p cert⟩

theorem backendClientCert_eq_of {gateway : GatewayConfig} {secret : Option SecretData} {client : ClientCert}
    (h : backendClientCert p gateway secret = .ok client) : client = .of p client.cert := by
  unfold backendClientCert at h
  split at h
  · cases h
    rfl
  · split at h
    · dsimp only at h
      split at h
      · cases h
      · cases h
        rfl
    · cases h
      rfl

variable (p) in
def keyFields (policy : BackendTLS) (sum : String) : List (List Char) :=
  policy.hostname.toList :: sum.toList ::
    (if policy.systemCAs then "system" else checksumBytes p.sum256 policy.caPem).toList ::
    policy.subjectAltNames.map fun san => (san.type ++ ":" ++ san.value).toList

theorem toList_fingerprint (policy : BackendTLS) (sum : String) :
    (backendTLSFingerprint p policy sum).toList = ['|'].intercalate (keyFields p policy sum) := by
  have hstep : (fun (key : String) (san : SubjectAltName) => key ++ "|" ++ san.type ++ ":" ++ san.value) =
      fun key san => key ++ String.singleton '|' ++ (san.type ++ ":" ++ san.value) := by
    funext key san
    rw [show "|" = String.singleton '|' from rfl]
    simp only [String.append_assoc]
  have hbar : "|".toList = ['|'] := rfl
  rw [backendTLSFingerprint, hstep, Joined.toList_foldl_join, keyFields]
  simp only [String.toList_append, hbar]
  rw [List.append_assoc, List.append_assoc, List.append_assoc, List.singleton_append,
    Joined.intercalate_append_cons, List.intercalate_cons_cons, List.singleton_append,
    Joined.intercalate_append_cons, ← List.intercalate_cons_cons]

/-! ## The sums -/

theorem HexSums.bar_notMem (h : HexSums p.sum256) (s : String) : '|' ∉ (checksumBytes p.sum256 s).toList :=
  fun hmem => absurd (h.digits s '|' hmem) (by decide)

theorem HexSums.ne_of_length (h : HexSums p.sum256) (s : String) {t : List Char} (ht : t.length ≠ 64) :
    (checksumBytes p.sum256 s).toList ≠ t :=
  fun heq => ht (by rw [← heq]; exact h.length s)

theorem bar_notMem_clientSum (h : HexSums p.sum256) (cert : Option Certificate) : '|' ∉ (clientSum p cert).toList := by
  cases cert with
  | none => exact List.not_mem_nil
  | some cert => exact h.bar_notMem _

variable {S : Set String} {policy policy' : BackendTLS} {cert cert' : Option Certificate}

theorem certText_of_clientSum (hhex : HexSums p.sum256) (hS : Set.InjOn p.sum256 S) (hin : summed policy cert ⊆ S)
    (hin' : summed policy' cert' ⊆ S) (h : (clientSum p cert).toList = (clientSum p cert').toList) :
    cert.map certText = cert'.map certText := by
  cases cert with
  | none =>
    cases cert' with
    | none => rfl
    | some cert' => exact absurd h.symm (hhex.ne_of_length (certText cert') (Nat.ne_of_lt (Nat.zero_lt_succ 63)))
  | some cert =>
    cases cert' with
    | none => exact absurd h (hhex.ne_of_length (certText cert) (Nat.ne_of_lt (Nat.zero_lt_succ 63)))
    | some cert' => exact congrArg some (hS (hin (.inr rfl)) (hin' (.inr rfl)) (String.toList_inj.mp h))

theorem caSource_of_field (hhex : HexSums p.sum256) (hS : Set.InjOn p.sum256 S) (hin : summed policy cert ⊆ S)
    (hin' : summed policy' cert' ⊆ S)
    (h : (if policy.systemCAs then "system" else checksumBytes p.sum256 policy.caPem).toList =
      (if policy'.systemCAs then "system" else checksumBytes p.sum256 policy'.caPem).toList) :
    caSource policy = caSource policy' := by
  unfold summed caSource at hin hin'
  unfold caSource
  cases hs : policy.systemCAs <;> cases hs' : policy'.systemCAs
  all_goals simp only [hs, hs', Bool.false_eq_true, if_false, if_true] at h hin hin' ⊢
  · exact congrArg some (hS (hin (.inl rfl)) (hin' (.inl rfl)) (String.toList_inj.mp h))
  · exact absurd h (hhex.ne_of_length _ (by decide))
  · exact absurd h.symm (hhex.ne_of_length _ (by decide))

theorem subjectAltNames_of_fields (hd : Delimited policy) (hd' : Delimited policy')
    (h : policy.subjectAltNames.map (fun san => (san.type ++ ":" ++ san.value).toList) =
      policy'.subjectAltNames.map fun san => (san.type ++ ":" ++ san.value).toList) :
    policy.subjectAltNames = policy'.subjectAltNames := by
  have htypes : ∀ san ∈ policy.subjectAltNames, ':' ∉ san.type.toList := fun san hsan => (hd.types san hsan).2
  have htypes' : ∀ san ∈ policy'.subjectAltNames, ':' ∉ san.type.toList := fun san hsan => (hd'.types san hsan).2
  generalize policy.subjectAltNames = sans at h htypes
  generalize policy'.subjectAltNames = sans' at h htypes'
  induction sans generalizing sans' with
  | nil => exact (List.map_eq_nil_iff.mp h.symm).symm
  | cons san sans ih =>
    cases sans' with
    | nil => cases h
    | cons san' sans' =>
      rw [List.map_cons, List.map_cons, List.cons.injEq] at h
      obtain ⟨hhead, hrest⟩ := h
      obtain ⟨hhere, hthere⟩ := List.forall_mem_cons.mp htypes
      obtain ⟨hhere', hthere'⟩ := List.forall_mem_cons.mp htypes'
      simp only [String.toList_append, show ":".toList = [':'] from rfl, List.append_assoc, List.singleton_append] at hhead
      obtain ⟨htype, hvalue⟩ := GoString.append_cons_inj hhere hhere' hhead
      have hsan : san = san' := by
        cases san
        cases san'
        exact congrArg₂ SubjectAltName.mk (String.toList_inj.mp htype) (String.toList_inj.mp hvalue)
      rw [hsan, ih hthere sans' hrest hthere']

theorem bar_notMem_keyFields (hhex : HexSums p.sum256) (hd : Delimited policy) (cert : Option Certificate) :
    ∀ field ∈ keyFields p policy (clientSum p cert), '|' ∉ field := by
  refine List.forall_mem_cons.mpr ⟨hd.hostname, List.forall_mem_cons.mpr ⟨bar_notMem_clientSum hhex cert,
    List.forall_mem_cons.mpr ⟨?_, List.forall_mem_map.mpr fun san hsan => ?_⟩⟩⟩
  · split
    · decide
    · exact hhex.bar_notMem policy.caPem
  · have htype := (hd.types san hsan).1
    have hvalue := hd.values san hsan
    have hcolon : '|' ∉ ":".toList := by decide
    rw [String.toList_append, String.toList_append, List.mem_append, List.mem_append]
    exact not_or.mpr ⟨not_or.mpr ⟨htype, hcolon⟩, hvalue⟩

/-- The key determines all that a transport is made from, the split of the client certificate's text
into certificate and key apart. -/
theorem fingerprint_inj (hhex : HexSums p.sum256) (hS : Set.InjOn p.sum256 S) (hd : Delimited policy)
    (hd' : Delimited policy') (hin : summed policy cert ⊆ S) (hin' : summed policy' cert' ⊆ S)
    (h : backendTLSFingerprint p policy (clientSum p cert) = backendTLSFingerprint p policy' (clientSum p cert')) :
    policy.hostname = policy'.hostname ∧ caSource policy = caSource policy' ∧
      cert.map certText = cert'.map certText ∧ policy.subjectAltNames = policy'.subjectAltNames := by
  have hjoined := congrArg String.toList h
  rw [toList_fingerprint, toList_fingerprint] at hjoined
  have hfields := Joined.intercalate_inj (bar_notMem_keyFields hhex hd cert) (bar_notMem_keyFields hhex hd' cert')
    (List.cons_ne_nil _ _) (List.cons_ne_nil _ _) hjoined
  obtain ⟨hhost, hfields⟩ := List.cons.inj hfields
  obtain ⟨hsum, hfields⟩ := List.cons.inj hfields
  obtain ⟨hca, hsans⟩ := List.cons.inj hfields
  exact ⟨String.toList_inj.mp hhost, caSource_of_field hhex hS hin hin' hca,
    certText_of_clientSum hhex hS hin hin' hsum, subjectAltNames_of_fields hd hd' hsans⟩

/-! ## The cache -/

variable (p S) in
/-- Every cached transport is that of some policy and client certificate with the key, which is not the text
of the present one cut in another place. -/
def Cached (cert : Option Certificate) (transports : Transports) : Prop :=
  ∀ key transport, transports[key]? = some transport → ∃ policy old,
    Delimited policy ∧ summed policy old ⊆ S ∧ (caSource policy).all p.appendCertsFromPEM = true ∧
    (old.map certText = cert.map certText → old = cert) ∧
    key = backendTLSFingerprint p policy (clientSum p old) ∧
    transport = policyTransport (.of p old) policy

theorem cached_empty (cert : Option Certificate) : Cached p S cert ∅ := by
  intro key transport h
  rw [GoMap.get_empty] at h
  cases h

theorem Cached.lookup {transports : Transports} (hc : Cached p S cert transports) (hhex : HexSums p.sum256)
    (hS : Set.InjOn p.sum256 S) (hd : Delimited policy) (hin : summed policy cert ⊆ S) {transport : TLSTransport}
    (h : transports[backendTLSFingerprint p policy (clientSum p cert)]? = some transport) :
    transport = policyTransport (.of p cert) policy ∧
      (caSource policy).all p.appendCertsFromPEM = true := by
  obtain ⟨policy', old, hd', hin', husable, hsplit, hkey, rfl⟩ := hc _ _ h
  obtain ⟨hhost, hca, htext, hsans⟩ := fingerprint_inj hhex hS hd hd' hin hin' hkey
  obtain rfl := hsplit htext.symm
  unfold policyTransport
  rw [hca]
  refine ⟨?_, husable⟩
  rw [hhost, hsans]
  exact congrArg (TLSTransport.mk _ _ · _) hca.symm

theorem Cached.insert {transports : Transports} (hc : Cached p S cert transports) (hd : Delimited policy)
    (hin : summed policy cert ⊆ S) (husable : (caSource policy).all p.appendCertsFromPEM = true) :
    Cached p S cert (transports.insert (backendTLSFingerprint p policy (clientSum p cert))
      (policyTransport (.of p cert) policy)) := by
  intro key transport h
  rw [GoMap.get_insert] at h
  split at h
  · next hkey =>
    exact ⟨policy, cert, hd, hin, husable, fun _ => rfl, hkey.symm, (Option.some.inj h).symm⟩
  · exact hc key transport h

end Krouter.Routing
