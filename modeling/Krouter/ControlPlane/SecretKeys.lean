import Krouter.ControlPlane.Compile
import Krouter.ControlPlane.Validated
import Krouter.Lib.Folds

/-! The keys of the generated Secret: which entries a listener's material has there, and
which listener an entry is from. -/

namespace Krouter.ControlPlane
open Compiled Ports Routing

inductive Material where
  | certificate
  | privateKey
  | clientCA
  deriving DecidableEq

def Material.suffix : Material → String
  | .certificate => ".tls.crt"
  | .privateKey => ".tls.key"
  | .clientCA => ".client-ca.crt"

theorem materialKey_inj {n n' : String} {a b : Material} (h : n ++ a.suffix = n' ++ b.suffix) :
    n = n' ∧ a = b := by
  have hl := congrArg (fun s => s.toList.reverse) h
  rw [← String.toList_inj]
  cases a <;> cases b <;> simp [Material.suffix] at hl ⊢
  all_goals exact hl

theorem materialKey_ne_authSecretKey (n identity : String) (a : Material) :
    n ++ a.suffix ≠ authSecretKey identity := by
  intro h
  have hl := congrArg (fun s => s.toList.reverse) h
  simp only [authSecretKey, String.toList_append, List.reverse_append] at hl
  cases a <;> simp [Material.suffix] at hl

namespace OwnMaterial

def entry (m : OwnMaterial) : Material → Option String
  | .certificate => m.cert.map Certificate.certPEM
  | .privateKey => m.cert.map Certificate.keyPEM
  | .clientCA => m.clientCA.map Prod.snd

def entries (m : OwnMaterial) (name : String) : List (String × String) :=
  [Material.certificate, .privateKey, .clientCA].filterMap fun a => (m.entry a).map (name ++ a.suffix, ·)

theorem mem_entries {m : OwnMaterial} {name k v : String} :
    (k, v) ∈ m.entries name ↔ ∃ a : Material, k = name ++ a.suffix ∧ m.entry a = some v := by
  rw [entries, List.mem_filterMap]
  constructor
  · rintro ⟨a, -, ha⟩
    obtain ⟨v', hv, he⟩ := Option.map_eq_some_iff.mp ha
    cases he
    exact ⟨a, rfl, hv⟩
  · rintro ⟨a, rfl, hv⟩
    exact ⟨a, by cases a <;> simp, by rw [hv]; rfl⟩

theorem data_eq (m : OwnMaterial) (name : String) : m.data name = GoMap.setAll ∅ (m.entries name) := by
  obtain ⟨cert, clientCA⟩ := m
  cases cert <;> cases clientCA <;> rfl

theorem data_get_iff {m : OwnMaterial} {name k v : String} :
    (m.data name)[k]? = some v ↔ ∃ a : Material, k = name ++ a.suffix ∧ m.entry a = some v := by
  rw [data_eq, GoMap.get_setAll_empty, mem_entries]
  intro v' hv hv'
  obtain ⟨a, rfl, ha⟩ := mem_entries.mp hv
  obtain ⟨b, hk, hb⟩ := mem_entries.mp hv'
  rw [(materialKey_inj hk).2, hb] at ha
  exact Option.some.inj ha

theorem data_get (m : OwnMaterial) (name : String) (a : Material) :
    (m.data name)[name ++ a.suffix]? = m.entry a := by
  apply Option.ext
  intro v
  rw [data_get_iff]
  constructor
  · rintro ⟨b, hk, hb⟩
    rwa [(materialKey_inj hk).2]
  · exact fun h => ⟨a, rfl, h⟩

end OwnMaterial

/-! ## The generated Secret -/

theorem addOutcome_get_material (acc : Attachments) (outcome : RouteOutcome) (n : String) (a : Material) :
    (addOutcome acc outcome).secretData[n ++ a.suffix]? = acc.secretData[n ++ a.suffix]? := by
  have hdocs : (GoMap.setAll acc.secretData
      (outcome.authDocs.toList.map fun doc => (authSecretKey doc.1, doc.2)))[n ++ a.suffix]? =
        acc.secretData[n ++ a.suffix]? := by
    apply GoMap.get_setAll_of_notMem
    rw [List.map_map]
    intro hmem
    obtain ⟨doc, -, hdoc⟩ := List.mem_map.mp hmem
    exact materialKey_ne_authSecretKey n doc.1 a hdoc.symm
  unfold addOutcome
  split
  · rfl
  · split_ifs
    · rfl
    · dsimp only
      split <;> exact hdocs

theorem compileAttachments_get_material (clientCert : BackendClientCert) (listeners : List ListenerState)
    (outcomes : List RouteOutcome) (n : String) (a : Material) :
    (compileAttachments clientCert listeners outcomes).secretData[n ++ a.suffix]? =
      (tlsSecretData clientCert listeners)[n ++ a.suffix]? :=
  List.foldl_kept (fun acc => acc.secretData[n ++ a.suffix]?)
    (fun acc outcome _ => addOutcome_get_material acc outcome n a) _

theorem tlsSecretData_get (clientCert : BackendClientCert) (listeners : List ListenerState) (k : String) :
    (tlsSecretData clientCert listeners)[k]? =
      ((validOnes listeners).filterMap fun l => l.certData[k]?).getLast?.or (clientCertData clientCert)[k]? :=
  GoMap.get_foldl_setAll ListenerState.certData (validOnes listeners) (clientCertData clientCert) k

variable {p : Platform} {w : World} {gw : Gateway} {sets : List ListenerSetState} {a : PortAllocator}

theorem certData_get_iff {l : ListenerState} {m : OwnMaterial} (hm : Carries m l) {k v : String} :
    l.certData[k]? = some v ↔ ∃ a : Material, k = l.effectiveName ++ a.suffix ∧ m.entry a = some v := by
  rw [hm.certData]
  exact OwnMaterial.data_get_iff

variable (p w gw) in
def lastMaterial (listeners : List ListenerState) (name : String) (part : Material) : Option String :=
  ((validOnes listeners).filterMap fun l =>
    if l.effectiveName = name then (ownMaterial p w gw l.spec l.set).bind fun m => m.entry part
    else none).getLast?

theorem published_material (clientCert : BackendClientCert) (outcomes : List RouteOutcome) (name : String)
    (part : Material) :
    (compileAttachments clientCert (validateListeners p w gw sets a).1 outcomes).secretData[
        name ++ part.suffix]? =
      (lastMaterial p w gw (validateListeners p w gw sets a).1 name part).or
        (clientCertData clientCert)[name ++ part.suffix]? := by
  rw [compileAttachments_get_material, tlsSecretData_get, lastMaterial]
  congr 2
  refine List.filterMap_congr fun l hl => ?_
  obtain ⟨m, hown, hm⟩ := validateListeners_material hl
  rw [hown, hm.certData, Option.bind_some]
  split_ifs with hname
  · rw [← hname]
    exact OwnMaterial.data_get m l.effectiveName part
  · by_contra hsome
    obtain ⟨v, hv⟩ := Option.ne_none_iff_exists'.mp hsome
    obtain ⟨b, hk, -⟩ := OwnMaterial.data_get_iff.mp hv
    exact hname (materialKey_inj hk).1.symm

theorem tlsSecretData_keeps {clientCert : BackendClientCert} {listeners : List ListenerState}
    (hcarries : ∀ l ∈ validOnes listeners, ∃ m, Carries m l)
    (hnames : ((validOnes listeners).map ListenerState.effectiveName).Nodup) {l : ListenerState}
    (hl : l ∈ validOnes listeners) {k v : String} (hv : l.certData[k]? = some v) :
    (tlsSecretData clientCert listeners)[k]? = some v := by
  obtain ⟨m, hm⟩ := hcarries l hl
  obtain ⟨a, rfl, -⟩ := (certData_get_iff hm).mp hv
  have hother : ∀ o ∈ validOnes listeners, o.effectiveName ≠ l.effectiveName →
      o.certData[l.effectiveName ++ a.suffix]? = none := by
    intro o ho hne
    obtain ⟨m', hm'⟩ := hcarries o ho
    by_contra hsome
    obtain ⟨v', hv'⟩ := Option.ne_none_iff_exists'.mp hsome
    obtain ⟨b, hk, -⟩ := (certData_get_iff hm').mp hv'
    exact hne (materialKey_inj hk).1.symm
  obtain ⟨before, after, hsplit⟩ := List.append_of_mem hl
  rw [hsplit, List.map_append, List.map_cons, List.nodup_middle] at hnames
  have hnot := (List.nodup_cons.mp hnames).1
  have hnone : ∀ o ∈ before ++ after, o.certData[l.effectiveName ++ a.suffix]? = none := by
    intro o ho
    refine hother o ?_ fun he => hnot ?_
    · rw [hsplit]
      simp only [List.mem_append, List.mem_cons] at ho ⊢
      tauto
    · rw [← he, ← List.map_append]
      exact List.mem_map_of_mem ho
  have hbefore := List.filterMap_eq_nil_iff.mpr fun o ho => hnone o (List.mem_append_left _ ho)
  have hafter := List.filterMap_eq_nil_iff.mpr fun o ho => hnone o (List.mem_append_right _ ho)
  rw [tlsSecretData_get, hsplit, List.filterMap_append, List.filterMap_cons, hv, hbefore]
  rw [hafter]
  rfl

end Krouter.ControlPlane
