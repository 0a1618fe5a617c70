import Krouter.ControlPlane.Acknowledgements

/-! When `Programmed` means programmed: runs in which the manifest is not switched to a generation still
being acknowledged, and one in which it is. -/

namespace Krouter.Programmed
open Calls Compiled Kube Publish Sync ControlPlane

/-! ## Programmed means reported -/

/-- In every run of the system in which the manifest is switched to a generation only while no
acknowledgement of it is in flight, a status `Programmed` is right when written. -/
theorem programmed_is_reported (p : Routing.Platform) (store : Store) (pods : GoMap String Pod)
    (events : List Event) (s : System)
    (hrun : Runs (fun s e => s.step p e) FreshSwitch (System.start store pods) events s) :
    ∀ w ∈ s.written, w.Right s.reports :=
  (hrun.invariant Sound (fun _ _ _ h hfresh hstep => h.step hfresh hstep) (sound_start store pods)).written

/-! ## Two versions of a Gateway -/

def demoUID : UID := .sample

def demoConfig (port : Int32) : GatewayConfig where
  uid := demoUID.value
  ns := "shop"
  name := "gw"
  listeners := [⟨"web", port, 10000, "HTTP", "", false, "", false⟩]
  backendClientCert := false
  trustedProxies := []

def version (port : Int32) : Publication where
  uid := demoUID
  gatewayPayload := gatewayConfigCodec.marshal (demoConfig port)
  attachments := ∅
  secretData := ∅
  visit := []
  visit_perm := Publication.visit_perm_nil

def marking (mark : String) : Digest where
  sum256 text := String.ofList (List.replicate 64 (if text = mark then '1' else '0'))
  length text := by rw [String.toList_ofList, List.length_replicate]

def demoDigest : Digest := marking (generationText (version 80).gatewayPayload ∅ "")

def demo : Routing.Platform := { Routing.Platform.trusting with sum256 := demoDigest.sum256 }

def versionPass (port : Int32) (calls : Nat) : List Event :=
  [.beginPass, .gateway ⟨demoUID, some (version port), fun _ h => Option.some.inj h ▸ rfl, none⟩ (fun _ => false) 1
    ⟨false, [], []⟩ 1 0] ++ List.replicate calls .call ++ [.status, .endPass]

def acknowledged : List Event :=
  versionPass 80 2 ++ [.runPod "krouter-0" true, .load "krouter-0" 0 0 ⟨id, fun _ => .refl _⟩,
    .listPods, .fetch "krouter-0" true, .publishAcks]

def Event.isCall : Event → Bool
  | .call => true
  | _ => false

theorem freshSwitch_iff {s : System} {e : Event} : FreshSwitch s e ↔ (e.isCall = true →
    ∀ t ∈ s.nextStore, ∀ acks ∈ s.inFlight, ∀ pod ∈ acks.pods.toList, pod.2.healthy = true →
      ∀ gateway ∈ pod.2.gateways.toList, ¬ Switches s.store t gateway.1 gateway.2.appliedGeneration) := by
  have hcall : e.isCall = true ↔ e = .call := by cases e <;> simp [Event.isCall]
  rw [hcall, FreshSwitch]
  refine forall₃_congr fun _ t _ => ⟨fun h acks hacks pod hpod hhealthy gateway hgateway hswitch => ?_,
    fun h uid generation hswitch acks hacks pod hreported => ?_⟩
  · refine h _ _ hswitch acks hacks pod.1 ⟨pod.2, GoMap.mem_toList.mp hpod, hhealthy, ?_⟩
    rw [ReportsOf, GoMap.mem_toList.mp hgateway, Option.map_some]
  · obtain ⟨ack, hack, hhealthy, hreports⟩ := hreported
    obtain ⟨gateway, hgateway, rfl⟩ := Option.map_eq_some_iff.mp hreports
    exact h acks hacks (pod, ack) (GoMap.mem_toList.mpr hack) hhealthy (uid, gateway)
      (GoMap.mem_toList.mpr hgateway) hswitch

instance (s : System) (e : Event) : Decidable (FreshSwitch s e) := decidable_of_iff _ freshSwitch_iff.symm

theorem reported_generation_programmed : ∃ events s,
    Runs (fun s e => System.step demo s e) FreshSwitch (System.start Store.empty ∅) events s ∧
      (∃ w ∈ s.written, w.programmed = .isTrue) ∧ ∀ w ∈ s.written, w.Right s.reports := by
  have hends : (Runs.exec (fun s e => System.step demo s e) FreshSwitch (System.start Store.empty ∅)
      (acknowledged ++ versionPass 80 0)).any (fun s => s.written.any fun w => w.programmed = .isTrue) = true := by
    decide +kernel
  obtain ⟨s, hrun, hwritten⟩ := Runs.exists_of_exec hends
  obtain ⟨w, hw, hprogrammed⟩ := List.any_eq_true.mp hwritten
  exact ⟨_, s, hrun, ⟨w, hw, of_decide_eq_true hprogrammed⟩, programmed_is_reported demo Store.empty ∅ _ s hrun⟩

def released (calls : Nat) : List Event :=
  [.beginPass, .collect [] (fun _ => false)] ++ List.replicate calls .call ++ [.endPass]

/-- The Gateway is handed over and comes back between two polls: the status says `Programmed` on the
word of a report from before. -/
theorem stale_acknowledgement_programmed : ∃ events s,
    Runs (fun s e => System.step demo s e) (fun _ _ => True) (System.start Store.empty ∅) events s ∧
      ∃ w ∈ s.written, ¬ w.Right s.reports := by
  have hends : (Runs.exec (fun s e => System.step demo s e) (fun _ _ => True) (System.start Store.empty ∅)
      (acknowledged ++ released 2 ++ versionPass 80 2)).any (fun s => s.written.any fun w =>
        w.programmed = .isTrue ∧ (∃ pod ∈ w.acks.pods.toList, pod.2.healthy = true) ∧
          ∀ r ∈ s.reports, r.time ≤ w.switched) = true := by
    decide +kernel
  obtain ⟨s, hrun, hwritten⟩ := Runs.exists_of_exec hends
  obtain ⟨w, hw, hstale⟩ := List.any_eq_true.mp hwritten
  obtain ⟨hprogrammed, ⟨pod, hpod, hhealthy⟩, hreports⟩ := of_decide_eq_true hstale
  refine ⟨_, s, hrun, w, hw, fun hright => ?_⟩
  obtain ⟨r, hr, -, -, hlater⟩ := hright hprogrammed pod.1 pod.2 (GoMap.mem_toList.mp hpod) hhealthy
  exact absurd hlater (Nat.not_lt.mpr (hreports r hr))

end Krouter.Programmed
