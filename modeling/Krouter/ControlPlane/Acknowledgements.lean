import Krouter.ControlPlane.Conditions
import Krouter.ControlPlane.Protocol
import Krouter.ControlPlane.Sync
import Krouter.Lib.Runs
import Krouter.Loader.Worker

/-! The control plane, the acknowledgement poller and the pods, one API call, one answer and one load
at a time. A pod that reports a generation may have applied it before the manifest was switched. -/

namespace Krouter.Programmed
open Calls Compiled Kube Publish Sync ControlPlane

/-! ## Parties -/

structure Pod where
  ready : Bool
  loader : Loader.Worker

def Pod.readyz (pod : Pod) : GoMap String GatewayAck :=
  pod.loader.statuses.map fun _ status => ⟨status.appliedGeneration⟩

structure Poll where
  waiting : GoMap String Bool
  acks : GoMap String PodAck

structure Report where
  time : Nat
  pod : String
  gateways : GoMap String GatewayAck

structure Turn where
  uid : String
  published : Option String
  observedGeneration : Int
  addresses : GatewayAddresses
  validListeners : Nat
  invalidOwnListeners : Nat

/-- A pass under way, with the acknowledgements it was given and the stores that the calls of
the current turn still lead to. -/
structure Pass where
  acks : AckState
  listed : Listing
  pending : List Store
  turn : Option Turn

/-- A written status: `Programmed` for a generation, from which acknowledgements, and when the
manifest had last been switched to it. -/
structure Written where
  uid : String
  generation : String
  programmed : ConditionStatus
  acks : AckState
  switched : Nat

structure System where
  store : Store
  /-- Every store so far, the newest first: what a pod lists may be behind. -/
  seen : List Store
  pods : GoMap String Pod
  poll : Option Poll
  published : AckState
  pass : Option Pass
  now : Nat
  reports : List Report
  /-- When the manifest of a Gateway was last switched to a generation. -/
  switched : String → String → Nat
  written : List Written

def System.start (store : Store) (pods : GoMap String Pod) : System :=
  ⟨store, [store], pods, none, ⟨∅⟩, none, 0, [], fun _ _ => 0, []⟩

/-! ## Steps -/

/-- The order in which the loader happens to visit the ConfigMaps. -/
structure ConfigMapOrder where
  visit : List ConfigMap → List ConfigMap
  perm : ∀ cms, (visit cms).Perm cms

def listedConfig (configMaps : GoMap String ConfigMap) (secrets : GoMap String Secret) : Loader.RawConfig where
  configMaps := configMaps.filter fun _ cm => managed cm.labels
  secrets := secrets.filter fun _ secret => managed secret.labels

def snapshot (order : ConfigMapOrder) (raw : Loader.RawConfig) : Loader.Snapshot :=
  ⟨raw, order.visit (raw.configMaps.toList.map Prod.snd), order.perm _⟩

/-- What users edit is behind the payloads of a turn: any of them may follow any other. -/
inductive Event where
  | beginPass
  | gateway (work : Work) (fails : Call → Bool) (observedGeneration : Int) (addresses : GatewayAddresses)
      (validListeners invalidOwnListeners : Nat)
  | call
  | status
  | collect (ownedUIDs : List String) (fails : Call → Bool)
  | endPass
  | listPods
  | fetch (pod : String) (answers : Bool)
  | publishAcks
  | runPod (pod : String) (ready : Bool)
  | stopPod (pod : String)
  | load (pod : String) (configMapsOf secretsOf : Nat) (order : ConfigMapOrder)

section
variable (p : Routing.Platform)

def Pod.load (pod : Pod) (s : Loader.Snapshot) : Pod := { pod with loader := Loader.rebuild p pod.loader s }

def gatewayTurn (acks : AckState) (listed : Listing) (work : Work) : Api (Option String) :=
  match work.publication with
  | none => pure none
  | some publication => do
    match ← (publishGeneration p.sum256 acks listed publication).attempt with
    | .error _ => pure none
    | .ok generation => do
      (match work.frontend with
        | none => pure ()
        | some request => do
          let _ ← (Frontend.ensureFrontend request).attempt
          pure ())
      pure (some generation)

def desiredGeneration (store : Store) (uid : String) : Option String :=
  (storedManifest store uid).map Manifest.generation

def Switches (s t : Store) (uid generation : String) : Prop :=
  desiredGeneration t uid = some generation ∧ desiredGeneration s uid ≠ some generation

instance (s t : Store) (uid generation : String) : Decidable (Switches s t uid generation) :=
  inferInstanceAs (Decidable (_ ∧ _))

def System.advance (s : System) (pass : Pass) (t : Store) (rest : List Store) : System :=
  { s with
    store := t
    seen := t :: s.seen
    pass := some { pass with pending := rest }
    switched := fun uid generation =>
      if Switches s.store t uid generation then s.now + 1 else s.switched uid generation }

def Turn.write (turn : Turn) (acks : AckState) (switched : String → String → Nat) : List Written :=
  match turn.published with
  | none => []
  | some generation =>
    let acked := decide (0 < turn.validListeners) && acks.allAcked turn.uid generation
    let programmed := (gatewayConditions turn.observedGeneration none turn.addresses acked
      turn.validListeners turn.invalidOwnListeners).2
    [⟨turn.uid, generation, programmed.status, acks, switched turn.uid generation⟩]

def System.answer (s : System) (pod : String) (ready answers : Bool) : Option (GoMap String GatewayAck) :=
  if ready && answers then s.pods[pod]?.map Pod.readyz else none

def ackOf : Option (GoMap String GatewayAck) → PodAck
  | none => ⟨false, ∅⟩
  | some gateways => ⟨true, gateways⟩

/-- What one event does, before the time moves on. -/
def System.act (s : System) : Event → Option System
  | .beginPass =>
    match s.pass with
    | none => some { s with pass := some ⟨s.published, listing s.store, [], none⟩ }
    | some _ => none
  | .gateway work fails observedGeneration addresses validListeners invalidOwnListeners =>
    match s.pass with
    | some ⟨acks, listed, [], none⟩ =>
      let r := gatewayTurn p acks listed work fails s.store
      some { s with pass := some ⟨acks, listed, r.visited, some ⟨work.uid.value,
        r.result.toOption.join, observedGeneration, addresses, validListeners, invalidOwnListeners⟩⟩ }
    | _ => none
  | .call =>
    match s.pass with
    | some ⟨acks, listed, t :: rest, turn⟩ => some (s.advance ⟨acks, listed, t :: rest, turn⟩ t rest)
    | _ => none
  | .status =>
    match s.pass with
    | some ⟨acks, listed, [], some turn⟩ =>
      some { s with pass := some ⟨acks, listed, [], none⟩, written := s.written ++ turn.write acks s.switched }
    | _ => none
  | .collect ownedUIDs fails =>
    match s.pass with
    | some ⟨acks, listed, [], none⟩ =>
      some { s with pass := some ⟨acks, listed, (gcOrphans listed ownedUIDs fails s.store).visited, none⟩ }
    | _ => none
  | .endPass =>
    match s.pass with
    | some ⟨_, _, [], none⟩ => some { s with pass := none }
    | _ => none
  | .listPods =>
    match s.poll with
    | none => some { s with poll := some ⟨s.pods.map fun _ pod => pod.ready, ∅⟩ }
    | some _ => none
  | .fetch pod answers =>
    s.poll.bind fun poll => poll.waiting[pod]?.map fun ready =>
      let answer := s.answer pod ready answers
      { s with
        poll := some ⟨poll.waiting.erase pod, poll.acks.insert pod (ackOf answer)⟩
        reports := s.reports ++ answer.toList.map fun gateways => ⟨s.now + 1, pod, gateways⟩ }
  | .publishAcks =>
    s.poll.bind fun poll =>
      if poll.waiting.isEmpty then some { s with poll := none, published := ⟨poll.acks⟩ } else none
  | .runPod pod ready =>
    some { s with pods := s.pods.insert pod ⟨ready, (s.pods[pod]?.map Pod.loader).getD Loader.newWorker⟩ }
  | .stopPod pod => some { s with pods := s.pods.erase pod }
  | .load pod configMapsOf secretsOf order =>
    s.pods[pod]?.bind fun running => s.seen[configMapsOf]?.bind fun older =>
      s.seen[secretsOf]?.map fun newer =>
        let loaded := running.load p (snapshot order (listedConfig older.configMaps newer.secrets))
        { s with pods := s.pods.insert pod loaded }

def System.step (s : System) (e : Event) : Option System :=
  (s.act p e).map fun s' => { s' with now := s.now + 1 }

end

/-! ## Acknowledgements in flight -/

def ReportsOf (gateways : GoMap String GatewayAck) (uid generation : String) : Prop :=
  (gateways[uid]?).map GatewayAck.appliedGeneration = some generation

def Reported (acks : AckState) (pod uid generation : String) : Prop :=
  ∃ ack, acks.pods[pod]? = some ack ∧ ack.healthy = true ∧ ReportsOf ack.gateways uid generation

def System.inFlight (s : System) : List AckState :=
  s.published :: (s.pass.map Pass.acks).toList ++ (s.poll.map fun poll => ⟨poll.acks⟩).toList

def System.nextStore (s : System) : Option Store := s.pass.bind fun pass => pass.pending.head?

/-- The manifest is switched to a generation only while no acknowledgement of it is in flight. -/
def FreshSwitch (s : System) (e : Event) : Prop :=
  e = .call → ∀ t, s.nextStore = some t → ∀ uid generation, Switches s.store t uid generation →
    ∀ acks ∈ s.inFlight, ∀ pod, ¬ Reported acks pod uid generation

def ReportedSince (reports : List Report) (time : Nat) (pod uid generation : String) : Prop :=
  ∃ r ∈ reports, r.pod = pod ∧ ReportsOf r.gateways uid generation ∧ time < r.time

/-- If the status says `Programmed`, every healthy pod of its snapshot has reported the generation
since the manifest was last switched to it. -/
def Written.Right (w : Written) (reports : List Report) : Prop :=
  w.programmed = .isTrue → ∀ pod ack, w.acks.pods[pod]? = some ack → ack.healthy = true →
    ReportedSince reports w.switched pod w.uid w.generation

def Backed (reports : List Report) (switched : String → String → Nat) (acks : AckState) : Prop :=
  ∀ pod uid generation, Reported acks pod uid generation →
    ReportedSince reports (switched uid generation) pod uid generation

structure Sound (s : System) : Prop where
  inFlight : ∀ acks ∈ s.inFlight, Backed s.reports s.switched acks
  written : ∀ w ∈ s.written, w.Right s.reports
  switched : ∀ uid generation, s.switched uid generation ≤ s.now

variable {reports more : List Report} {uid generation : String} {switched : String → String → Nat} {acks : AckState}

theorem ReportedSince.mono {time : Nat} {pod : String} (h : ReportedSince reports time pod uid generation) :
    ReportedSince (reports ++ more) time pod uid generation := by
  obtain ⟨r, hr, hrest⟩ := h
  exact ⟨r, List.mem_append_left _ hr, hrest⟩

theorem Backed.mono (h : Backed reports switched acks) : Backed (reports ++ more) switched acks :=
  fun pod uid generation hreported => (h pod uid generation hreported).mono

theorem Written.Right.mono {w : Written} (h : w.Right reports) : w.Right (reports ++ more) :=
  fun hprogrammed pod ack hack hhealthy => (h hprogrammed pod ack hack hhealthy).mono

theorem allAckedLoop_reports {pods : List PodAck} {healthy : Nat}
    (h : AckState.allAckedLoop uid generation pods healthy = true) :
    ∀ ack ∈ pods, ack.healthy = true → ReportsOf ack.gateways uid generation := by
  induction pods generalizing healthy with
  | nil => exact fun _ hack => (nomatch hack)
  | cons pod pods ih =>
    intro ack hack hhealthy
    rw [AckState.allAckedLoop] at h
    split_ifs at h with hpod
    · have hunhealthy : pod.healthy = false := by simpa using hpod
      rcases List.mem_cons.mp hack with rfl | hack
      · rw [hhealthy] at hunhealthy
        cases hunhealthy
      · exact ih h ack hack hhealthy
    · split at h
      · cases h
      · next reported hget =>
        split_ifs at h with hother
        rcases List.mem_cons.mp hack with rfl | hack
        · rw [ReportsOf, hget]
          exact congrArg some (not_not.mp hother)
        · exact ih h ack hack hhealthy

theorem reported_of_allAcked
    (h : acks.allAcked uid generation = true) {pod : String} {ack : PodAck} (hack : acks.pods[pod]? = some ack)
    (hhealthy : ack.healthy = true) : Reported acks pod uid generation := by
  have hmem : ack ∈ acks.pods.toList.map Prod.snd := List.mem_map_of_mem (GoMap.mem_toList.mpr hack)
  exact ⟨ack, hack, hhealthy, allAckedLoop_reports h ack hmem hhealthy⟩

theorem Turn.write_right {turn : Turn} (h : Backed reports switched acks) :
    ∀ w ∈ turn.write acks switched, w.Right reports := by
  intro w hw hprogrammed pod ack hack hhealthy
  unfold Turn.write at hw
  split at hw
  · cases hw
  · next generation hpublished =>
    obtain rfl := List.mem_singleton.mp hw
    obtain ⟨-, hacked⟩ := Bool.and_eq_true_iff.mp (acked_of_programmed hprogrammed)
    exact h pod turn.uid generation (reported_of_allAcked hacked hack hhealthy)

variable {p : Routing.Platform} {s s' : System} {e : Event}

theorem backed_empty (reports : List Report) (switched : String → String → Nat) : Backed reports switched ⟨∅⟩ := by
  rintro pod uid generation ⟨ack, hack, -⟩
  rw [GoMap.get_empty] at hack
  cases hack

theorem mem_inFlight : acks ∈ s.inFlight ↔ acks = s.published ∨
    (∃ pass, s.pass = some pass ∧ pass.acks = acks) ∨ ∃ poll, s.poll = some poll ∧ ⟨poll.acks⟩ = acks := by
  simp [System.inFlight]

/-- A pass that goes on with its acknowledgements brings none into flight. -/
theorem mem_inFlight_of_pass {pass pass' : Pass} (h : acks ∈ s'.inFlight) (hpass : s.pass = some pass)
    (hpass' : s'.pass = some pass') (hpublished : s'.published = s.published) (hpoll : s'.poll = s.poll)
    (hsame : pass'.acks = pass.acks) : acks ∈ s.inFlight := by
  rw [mem_inFlight, hpublished, hpoll] at h
  refine mem_inFlight.mpr (h.imp_right (Or.imp_left ?_))
  rintro ⟨_, hp, rfl⟩
  obtain rfl := Option.some.inj (hp.symm.trans hpass')
  exact ⟨pass, hpass, hsame.symm⟩

theorem Sound.keep (h : Sound s) (hreports : s'.reports = s.reports) (hswitched : s'.switched = s.switched)
    (hwritten : s'.written = s.written) (hnow : s.now ≤ s'.now)
    (hflight : ∀ acks ∈ s'.inFlight, acks ∈ s.inFlight ∨ acks = ⟨∅⟩) : Sound s' where
  inFlight acks hacks := by
    rw [hreports, hswitched]
    rcases hflight acks hacks with hold | rfl
    · exact h.inFlight acks hold
    · exact backed_empty _ _
  written := by
    rw [hwritten, hreports]
    exact h.written
  switched uid generation := by
    rw [hswitched]
    exact (h.switched uid generation).trans hnow

theorem Sound.call (h : Sound s) (hfresh : FreshSwitch s .call) {listed : Listing} {t : Store}
    {rest : List Store} {turn : Option Turn} (hpass : s.pass = some ⟨acks, listed, t :: rest, turn⟩) :
    Sound { s.advance ⟨acks, listed, t :: rest, turn⟩ t rest with now := s.now + 1 } where
  inFlight held hheld pod uid generation hreported := by
    have hold : held ∈ s.inFlight := mem_inFlight_of_pass hheld hpass rfl rfl rfl rfl
    have hnext : s.nextStore = some t := by rw [System.nextStore, hpass]; rfl
    have hsame : (s.advance ⟨acks, listed, t :: rest, turn⟩ t rest).switched uid generation =
        s.switched uid generation :=
      if_neg fun hswitch => hfresh rfl t hnext uid generation hswitch held hold pod hreported
    rw [hsame]
    exact h.inFlight held hold pod uid generation hreported
  written := h.written
  switched uid generation := by
    dsimp only [System.advance]
    have hold := h.switched uid generation
    split_ifs <;> omega

theorem Sound.fetch (h : Sound s) {poll : Poll} (hpoll : s.poll = some poll) (pod : String)
    (waiting : GoMap String Bool) (answer : Option (GoMap String GatewayAck)) :
    Sound { s with
      poll := some ⟨waiting, poll.acks.insert pod (ackOf answer)⟩
      reports := s.reports ++ answer.toList.map fun gateways => ⟨s.now + 1, pod, gateways⟩
      now := s.now + 1 } where
  inFlight acks hacks := by
    rcases mem_inFlight.mp hacks with rfl | ⟨pass, hpass, rfl⟩ | ⟨newer, hnewer, rfl⟩
    · exact (h.inFlight _ (mem_inFlight.mpr (.inl rfl))).mono
    · exact (h.inFlight _ (mem_inFlight.mpr (.inr (.inl ⟨pass, hpass, rfl⟩)))).mono
    · obtain rfl := Option.some.inj hnewer
      rintro name uid generation ⟨ack, hack, hhealthy, hreports⟩
      rw [GoMap.get_insert] at hack
      split_ifs at hack with hname
      · obtain rfl := Option.some.inj hack
        cases answer with
        | none => cases hhealthy
        | some gateways =>
          refine ⟨⟨s.now + 1, pod, gateways⟩, List.mem_append_right _ (.head _), hname,
            hreports, Nat.lt_succ_of_le (h.switched uid generation)⟩
      · have hold : Reported ⟨poll.acks⟩ name uid generation := ⟨ack, hack, hhealthy, hreports⟩
        exact (h.inFlight _ (mem_inFlight.mpr (.inr (.inr ⟨poll, hpoll, rfl⟩))) _ _ _ hold).mono
  written w hw := (h.written w hw).mono
  switched uid generation := (h.switched uid generation).trans (Nat.le_succ _)

theorem Sound.status (h : Sound s) {listed : Listing} {turn : Turn}
    (hpass : s.pass = some ⟨acks, listed, [], some turn⟩) :
    Sound { s with
      pass := some ⟨acks, listed, [], none⟩
      written := s.written ++ turn.write acks s.switched
      now := s.now + 1 } where
  inFlight held hheld := h.inFlight held (mem_inFlight_of_pass hheld hpass rfl rfl rfl rfl)
  written w hw := by
    rcases List.mem_append.mp hw with hw | hw
    · exact h.written w hw
    · have hbacked := h.inFlight acks (mem_inFlight.mpr (.inr (.inl ⟨_, hpass, rfl⟩)))
      exact Turn.write_right hbacked w hw
  switched uid generation := (h.switched uid generation).trans (Nat.le_succ _)

theorem Sound.step (h : Sound s) (hfresh : FreshSwitch s e) (hstep : s.step p e = some s') : Sound s' := by
  obtain ⟨s₁, hact, rfl⟩ := Option.map_eq_some_iff.mp hstep
  have hpassed : ∀ (acks : AckState) (listed listed' : Listing) (pending pending' : List Store)
      (turn turn' : Option Turn), s.pass = some ⟨acks, listed, pending, turn⟩ →
      Sound { s with pass := some ⟨acks, listed', pending', turn'⟩, now := s.now + 1 } := by
    intro acks listed listed' pending pending' turn turn' hpass
    exact h.keep rfl rfl rfl (Nat.le_succ _) fun held hheld =>
      .inl (mem_inFlight_of_pass hheld hpass rfl rfl rfl rfl)
  cases e with
  | beginPass =>
    cases hpass : s.pass with
    | some pass =>
      rw [System.act, hpass] at hact
      cases hact
    | none =>
      rw [System.act, hpass] at hact
      obtain rfl := Option.some.inj hact
      refine h.keep rfl rfl rfl (Nat.le_succ _) fun held hheld => .inl ?_
      rw [mem_inFlight] at hheld ⊢
      rcases hheld with rfl | ⟨pass, hp, rfl⟩ | hpoll
      · exact .inl rfl
      · obtain rfl := Option.some.inj hp
        exact .inl rfl
      · exact .inr (.inr hpoll)
  | gateway work fails observedGeneration addresses validListeners invalidOwnListeners =>
    rw [System.act] at hact
    split at hact
    · next hpass =>
      obtain rfl := Option.some.inj hact
      exact hpassed _ _ _ _ _ _ _ hpass
    · cases hact
  | call =>
    rw [System.act] at hact
    split at hact
    · next hpass =>
      obtain rfl := Option.some.inj hact
      exact h.call hfresh hpass
    · cases hact
  | status =>
    rw [System.act] at hact
    split at hact
    · next hpass =>
      obtain rfl := Option.some.inj hact
      exact h.status hpass
    · cases hact
  | collect ownedUIDs fails =>
    rw [System.act] at hact
    split at hact
    · next hpass =>
      obtain rfl := Option.some.inj hact
      exact hpassed _ _ _ _ _ _ _ hpass
    · cases hact
  | endPass =>
    rw [System.act] at hact
    split at hact
    · obtain rfl := Option.some.inj hact
      refine h.keep rfl rfl rfl (Nat.le_succ _) fun held hheld => .inl ?_
      rw [mem_inFlight] at hheld ⊢
      refine hheld.imp_right fun hrest => hrest.resolve_left ?_ |> .inr
      rintro ⟨pass, hp, -⟩
      cases hp
    · cases hact
  | listPods =>
    rw [System.act] at hact
    split at hact
    · obtain rfl := Option.some.inj hact
      refine h.keep rfl rfl rfl (Nat.le_succ _) fun held hheld => ?_
      rw [mem_inFlight] at hheld ⊢
      rcases hheld with hpublished | hpass | ⟨poll, hp, rfl⟩
      · exact .inl (.inl hpublished)
      · exact .inl (.inr (.inl hpass))
      · obtain rfl := Option.some.inj hp
        exact .inr rfl
    · cases hact
  | fetch pod answers =>
    obtain ⟨poll, hpoll, hact⟩ := Option.bind_eq_some_iff.mp hact
    obtain ⟨ready, -, rfl⟩ := Option.map_eq_some_iff.mp hact
    exact h.fetch hpoll pod _ _
  | publishAcks =>
    obtain ⟨poll, hpoll, hact⟩ := Option.bind_eq_some_iff.mp hact
    split_ifs at hact
    obtain rfl := Option.some.inj hact
    refine h.keep rfl rfl rfl (Nat.le_succ _) fun held hheld => .inl ?_
    rw [mem_inFlight] at hheld ⊢
    rcases hheld with rfl | hpass | ⟨newer, hnewer, rfl⟩
    · exact .inr (.inr ⟨poll, hpoll, rfl⟩)
    · exact .inr (.inl hpass)
    · cases hnewer
  | runPod pod ready =>
    obtain rfl := Option.some.inj hact
    exact h.keep rfl rfl rfl (Nat.le_succ _) fun held hheld => .inl hheld
  | stopPod pod =>
    obtain rfl := Option.some.inj hact
    exact h.keep rfl rfl rfl (Nat.le_succ _) fun held hheld => .inl hheld
  | load pod configMapsOf secretsOf order =>
    obtain ⟨running, -, hact⟩ := Option.bind_eq_some_iff.mp hact
    obtain ⟨older, -, hact⟩ := Option.bind_eq_some_iff.mp hact
    obtain ⟨newer, -, rfl⟩ := Option.map_eq_some_iff.mp hact
    exact h.keep rfl rfl rfl (Nat.le_succ _) fun held hheld => .inl hheld

theorem sound_start (store : Store) (pods : GoMap String Pod) : Sound (System.start store pods) where
  inFlight acks hacks := by
    obtain rfl : acks = ⟨∅⟩ := by simpa [System.start, mem_inFlight] using hacks
    exact backed_empty _ _
  written _ hw := (nomatch hw)
  switched _ _ := Nat.le_refl _

end Krouter.Programmed
