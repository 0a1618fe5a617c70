import Krouter.ControlPlane.Publish
import Krouter.Routing.TransportReuse

/-! What the hash inputs of `GenerationID` and `ChecksumSecret` say of their content. Both are texts
joined by a separator that no part contains. -/

namespace Krouter.Publish
open Compiled Routing

def NulFree (text : String) : Prop := '\x00' ∉ text.toList

def SecretKey (key : String) : Prop :=
  ∀ c ∈ key.toList, c.isAlphanum = true ∨ c = '-' ∨ c = '_' ∨ c = '.'

theorem SecretKey.notMem {key : String} (h : SecretKey key) {c : Char} (halnum : c.isAlphanum = false)
    (hdash : c ≠ '-') (hunderscore : c ≠ '_') (hdot : c ≠ '.') : c ∉ key.toList := by
  intro hc
  rcases h c hc with ha | hd | hu | hp
  · rw [halnum] at ha
    cases ha
  · exact hdash hd
  · exact hunderscore hu
  · exact hdot hp

/-! ## The input of `GenerationID` -/

def generationFields (gatewayPayload : String) (entries : List (String × String)) (secretChecksum : String) :
    List (List Char) :=
  gatewayPayload.toList ::
    ((entries.flatMap fun entry => [entry.1.toList, entry.2.toList]) ++ [secretChecksum.toList])

theorem toList_generationText (gateway : String) (attachments : GoMap String String) (checksum : String) :
    (generationText gateway attachments checksum).toList =
      ['\x00'].intercalate (generationFields gateway attachments.toList checksum) := by
  have hnul : "\x00".toList = ['\x00'] := rfl
  have hentries : ∀ entries : List (String × String),
      (entries.flatMap fun entry => [entry.1.toList, entry.2.toList]).flatMap ('\x00' :: ·) =
        (String.join (entries.map fun entry => "\x00" ++ entry.1 ++ "\x00" ++ entry.2)).toList := by
    intro entries
    induction entries with
    | nil => rfl
    | cons entry entries ih =>
      rw [List.flatMap_cons, List.flatMap_append, ih, List.map_cons, String.join_cons]
      simp only [String.toList_append, hnul, List.flatMap_cons, List.flatMap_nil, List.append_nil,
        List.cons_append, List.nil_append, List.append_assoc]
  rw [generationFields, ← Joined.append_flatMap_cons, List.flatMap_append, hentries, generationText]
  simp only [String.toList_append, hnul, List.flatMap_cons, List.flatMap_nil, List.append_nil,
    List.cons_append, List.nil_append, List.append_assoc]

theorem entries_inj {l l' : List (String × String)}
    (h : (l.flatMap fun entry => [entry.1.toList, entry.2.toList]) =
      l'.flatMap fun entry => [entry.1.toList, entry.2.toList]) : l = l' := by
  induction l generalizing l' with
  | nil =>
    cases l' with
    | nil => rfl
    | cons entry' l' => cases h
  | cons entry l ih =>
    cases l' with
    | nil => cases h
    | cons entry' l' =>
      simp only [List.flatMap_cons, List.cons_append, List.nil_append, List.cons.injEq, String.toList_inj] at h
      obtain ⟨huid, hpayload, hrest⟩ := h
      rw [ih hrest, Prod.ext huid hpayload]

theorem generationFields_inj {gateway gateway' checksum checksum' : String} {l l' : List (String × String)}
    (h : generationFields gateway l checksum = generationFields gateway' l' checksum') :
    gateway = gateway' ∧ l = l' ∧ checksum = checksum' := by
  obtain ⟨hgateway, hrest⟩ := List.cons.inj h
  obtain ⟨hentries, hchecksum⟩ := List.append_inj' hrest rfl
  exact ⟨String.toList_inj.mp hgateway, entries_inj hentries, String.toList_inj.mp (List.cons.inj hchecksum).1⟩

/-- No payload and no route UID of the publication contains the separator. -/
structure Publication.NulFree (p : Publication) : Prop where
  gateway : Publish.NulFree p.gatewayPayload
  attachments : ∀ uid payload, p.attachments[uid]? = some payload → Publish.NulFree uid ∧ Publish.NulFree payload

section
variable {sum256 : String → String}

theorem nulFree_sum (hhex : HexSums sum256) (text : String) : NulFree (sum256 text) :=
  fun hmem => absurd (hhex.digits text _ hmem) (by decide)

theorem nulFree_secretChecksum (hhex : HexSums sum256) (p : Publication) :
    NulFree (p.secretChecksum sum256) := by
  rw [Publication.secretChecksum]
  split_ifs
  · exact List.not_mem_nil
  · exact nulFree_sum hhex _

theorem Publication.NulFree.fields (hhex : HexSums sum256) {p : Publication} (h : p.NulFree) :
    ∀ field ∈ generationFields p.gatewayPayload p.attachments.toList (p.secretChecksum sum256),
      '\x00' ∉ field := by
  intro field hfield
  rcases List.mem_cons.mp hfield with rfl | hfield
  · exact h.gateway
  rcases List.mem_append.mp hfield with hentry | hchecksum
  · obtain ⟨⟨uid, payload⟩, hmem, hpart⟩ := List.mem_flatMap.mp hentry
    obtain ⟨huid, hpayload⟩ := h.attachments uid payload (GoMap.mem_toList.mp hmem)
    rcases List.mem_pair.mp hpart with rfl | rfl
    · exact huid
    · exact hpayload
  · rw [List.mem_singleton.mp hchecksum]
    exact nulFree_secretChecksum hhex p

def Publication.hashed (sum256 : String → String) (p : Publication) : String :=
  generationText p.gatewayPayload p.attachments (p.secretChecksum sum256)

theorem hashed_inj (hhex : HexSums sum256) {p q : Publication} (hp : p.NulFree) (hq : q.NulFree)
    (h : p.hashed sum256 = q.hashed sum256) :
    p.gatewayPayload = q.gatewayPayload ∧ p.attachments = q.attachments ∧
      p.secretChecksum sum256 = q.secretChecksum sum256 := by
  have hlists := congrArg String.toList h
  simp only [Publication.hashed, toList_generationText] at hlists
  have hfields := Joined.intercalate_inj (hp.fields hhex) (hq.fields hhex) (List.cons_ne_nil _ _)
    (List.cons_ne_nil _ _) hlists
  obtain ⟨hgateway, hentries, hchecksum⟩ := generationFields_inj hfields
  exact ⟨hgateway, Std.ExtTreeMap.toList_inj.mp hentries, hchecksum⟩

/-! ## The input of `ChecksumSecret` -/

def secretLine (sum256 : String → String) (entry : String × String) : List Char :=
  entry.1.toList ++ '=' :: (sum256 entry.2).toList

theorem toList_secretText (data : GoMap String String) :
    (secretText sum256 data).toList = ['\n'].intercalate (data.toList.map (secretLine sum256) ++ [[]]) := by
  have heq : "=".toList = ['='] := rfl
  have hend : "\n".toList = ['\n'] := rfl
  rw [secretText, String.toList_join, List.flatMap_map, ← Joined.flatMap_append_singleton, List.flatMap_map]
  simp only [secretLine, String.toList_append, heq, hend, List.append_assoc, List.cons_append, List.nil_append]

theorem newline_notMem_secretLine (hhex : HexSums sum256) {entry : String × String} (hkey : SecretKey entry.1) :
    '\n' ∉ secretLine sum256 entry := by
  rw [secretLine, List.mem_append, List.mem_cons]
  rintro (hmem | hmem | hmem)
  · exact hkey.notMem (by decide) (by decide) (by decide) (by decide) hmem
  · exact absurd hmem (by decide)
  · exact absurd (hhex.digits _ _ hmem) (by decide)

theorem secretLines_inj {l l' : List (String × String)} (hl : ∀ entry ∈ l, SecretKey entry.1)
    (hl' : ∀ entry ∈ l', SecretKey entry.1) (h : l.map (secretLine sum256) = l'.map (secretLine sum256)) :
    (l.map fun entry => (entry.1, sum256 entry.2)) = l'.map fun entry => (entry.1, sum256 entry.2) := by
  induction l generalizing l' with
  | nil =>
    cases l' with
    | nil => rfl
    | cons entry' l' => cases h
  | cons entry l ih =>
    cases l' with
    | nil => cases h
    | cons entry' l' =>
      obtain ⟨hline, hrest⟩ := List.cons.inj h
      have hfree : ∀ {key : String}, SecretKey key → '=' ∉ key.toList := fun hkey =>
        hkey.notMem (by decide) (by decide) (by decide) (by decide)
      obtain ⟨hkey, hsum⟩ := GoString.append_cons_inj (hfree (hl entry (.head _)))
        (hfree (hl' entry' (.head _))) hline
      rw [List.map_cons, List.map_cons, String.toList_inj.mp hkey, String.toList_inj.mp hsum,
        ih (fun e he => hl e (.tail _ he)) (fun e he => hl' e (.tail _ he)) hrest]

def SecretKeys (data : GoMap String String) : Prop := ∀ key value, data[key]? = some value → SecretKey key

theorem secretText_inj (hhex : HexSums sum256) {data data' : GoMap String String} (hdata : SecretKeys data)
    (hdata' : SecretKeys data') (h : secretText sum256 data = secretText sum256 data') :
    data.keys = data'.keys ∧ ∀ key : String, data[key]?.map sum256 = data'[key]?.map sum256 := by
  have hkeys : ∀ {data : GoMap String String}, SecretKeys data → ∀ entry ∈ data.toList, SecretKey entry.1 :=
    fun hd entry he => hd entry.1 entry.2 (GoMap.mem_toList.mp he)
  have hfree : ∀ {data : GoMap String String}, SecretKeys data →
      ∀ line ∈ data.toList.map (secretLine sum256) ++ [[]], '\n' ∉ line := by
    intro data hd line hline
    rcases List.mem_append.mp hline with hmem | hmem
    · obtain ⟨entry, he, rfl⟩ := List.mem_map.mp hmem
      exact newline_notMem_secretLine hhex (hkeys hd entry he)
    · rw [List.mem_singleton.mp hmem]
      exact List.not_mem_nil
  have hlists := congrArg String.toList h
  rw [toList_secretText, toList_secretText] at hlists
  have hne : ∀ l : List (List Char), l ++ [[]] ≠ [] := fun l =>
    List.append_ne_nil_of_right_ne_nil l (List.cons_ne_nil _ _)
  have hlines := Joined.intercalate_inj (hfree hdata) (hfree hdata') (hne _) (hne _) hlists
  have hmaps : data.map (fun _ value => sum256 value) = data'.map fun _ value => sum256 value := by
    refine Std.ExtTreeMap.toList_inj.mp ?_
    rw [Std.ExtTreeMap.toList_map, Std.ExtTreeMap.toList_map]
    exact secretLines_inj (hkeys hdata) (hkeys hdata') (List.append_cancel_right hlines)
  have hget : ∀ (m : GoMap String String) (key : String),
      m[key]?.map sum256 = (m.map fun _ value => sum256 value)[key]? := fun m key =>
    (GoMap.get_map m (fun _ value => sum256 value) key).symm
  refine ⟨?_, fun key => by rw [hget, hget, hmaps]⟩
  have hkeysEq := congrArg Std.ExtTreeMap.keys hmaps
  rwa [Std.ExtTreeMap.keys_map, Std.ExtTreeMap.keys_map] at hkeysEq

/-! ## Content addresses -/

def Collision (sum256 : String → String) : Prop :=
  ∃ text text', text ≠ text' ∧ (sum256 text).toList.take 12 = (sum256 text').toList.take 12

theorem eq_of_take {text text' : String} (hfree : ¬ Collision sum256)
    (h : (sum256 text).toList.take 12 = (sum256 text').toList.take 12) : text = text' := by
  by_contra hne
  exact hfree ⟨text, text', hne, h⟩

theorem secretData_eq (hhex : HexSums sum256) (hfree : ¬ Collision sum256) {p q : Publication}
    (hp : SecretKeys p.secretData) (hq : SecretKeys q.secretData)
    (h : p.secretChecksum sum256 = q.secretChecksum sum256) : p.secretData = q.secretData := by
  have hsum : ∀ {text text' : String}, sum256 text = sum256 text' → text = text' := fun heq =>
    eq_of_take hfree (by rw [heq])
  have hne : ∀ text, sum256 text ≠ "" := by
    intro text heq
    have hlength := hhex.length text
    rw [heq] at hlength
    cases hlength
  unfold Publication.secretChecksum at h
  split_ifs at h with hpe hqe hqe
  · rw [Std.ExtTreeMap.isEmpty_iff.mp hpe, Std.ExtTreeMap.isEmpty_iff.mp hqe]
  · exact absurd h.symm (hne _)
  · exact absurd h (hne _)
  · have hdigests := (secretText_inj hhex hp hq (hsum h)).2
    exact Std.ExtTreeMap.ext_getElem? fun key => Option.map_injective (fun _ _ => hsum) (hdigests key)

end

def twoRoutes : GoMap String String := GoMap.setAll ∅ [("r1", "[]"), ("r2", "[]")]

def twoRoutesPublication (backwards : Bool) : Publication where
  uid := .sample
  gatewayPayload := "[]"
  attachments := twoRoutes
  secretData := ∅
  visit := if backwards then twoRoutes.toList.reverse else twoRoutes.toList
  visit_perm := by
    split
    · exact List.reverse_perm _
    · exact List.Perm.refl _

theorem nulFree_twoRoutesPublication (backwards : Bool) : (twoRoutesPublication backwards).NulFree := by
  have hroutes : ∀ entry ∈ twoRoutes.toList, '\x00' ∉ entry.1.toList ∧ '\x00' ∉ entry.2.toList := by decide
  have hgateway : '\x00' ∉ "[]".toList := by decide
  exact ⟨hgateway, fun uid payload h => hroutes (uid, payload) (GoMap.mem_toList.mpr h)⟩

end Krouter.Publish
