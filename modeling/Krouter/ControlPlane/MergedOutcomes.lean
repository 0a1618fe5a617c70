import Krouter.ControlPlane.Compile
import Mathlib.Data.List.Induction

/-! Outcomes of one route share the configuration of the first: a publication that merges their
listeners changes them, and compiles the same attachments again. -/

namespace Krouter.Idempotence
open Compiled ControlPlane

/-! ## Route outcomes that share their configuration -/

def Attaches (outcome : RouteOutcome) (config : RouteConfig) : Prop :=
  outcome.config = some config ∧ config.listeners ≠ []

def merged (final : GoMap String RouteConfig) : List String → List RouteOutcome → List RouteOutcome
  | _, [] => []
  | seen, outcome :: outcomes =>
    match outcome.config with
    | none => outcome :: merged final seen outcomes
    | some config =>
      if config.listeners = [] ∨ config.uid ∈ seen then outcome :: merged final seen outcomes
      else { outcome with config := final[config.uid]? } :: merged final (config.uid :: seen) outcomes

theorem addListeners_subset (listeners names : List String) :
    (∀ name ∈ listeners, name ∈ addListeners listeners names) ∧ ∀ name ∈ names, name ∈ addListeners listeners names := by
  induction names generalizing listeners with
  | nil => exact ⟨fun _ h => h, fun _ h => (nomatch h)⟩
  | cons first rest ih =>
    rw [addListeners, List.foldl_cons]
    split
    next hin =>
      obtain ⟨hold, hnew⟩ := ih listeners
      refine ⟨hold, fun name hname => ?_⟩
      rcases List.mem_cons.mp hname with rfl | hname
      · exact hold _ (List.contains_iff_mem.mp hin)
      · exact hnew name hname
    next =>
      obtain ⟨hold, hnew⟩ := ih (listeners ++ [first])
      refine ⟨fun name hname => hold name (List.mem_append_left _ hname), fun name hname => ?_⟩
      rcases List.mem_cons.mp hname with rfl | hname
      · exact hold _ (List.mem_append_right _ (.head _))
      · exact hnew name hname

theorem addListeners_of_subset {listeners names : List String} (h : ∀ name ∈ names, name ∈ listeners) :
    addListeners listeners names = listeners := by
  induction names with
  | nil => rfl
  | cons first rest ih =>
    rw [addListeners, List.foldl_cons, if_pos (List.contains_iff_mem.mpr (h first (.head _)))]
    exact ih fun name hname => h name (.tail _ hname)

/-- A later configuration of a route: the same one, with more listeners. -/
def Grows (config later : RouteConfig) : Prop :=
  later = { config with listeners := later.listeners } ∧ ∀ name ∈ config.listeners, name ∈ later.listeners

theorem Grows.refl (config : RouteConfig) : Grows config config := ⟨rfl, fun _ h => h⟩

theorem Grows.trans {a b c : RouteConfig} (h : Grows a b) (h' : Grows b c) : Grows a c := by
  refine ⟨?_, fun name hname => h'.2 name (h.2 name hname)⟩
  rw [h'.1, h.1]

def joined (existing : Option RouteConfig) (config : RouteConfig) : RouteConfig :=
  match existing with
  | none => config
  | some existing => { existing with listeners := addListeners existing.listeners config.listeners }

theorem joined_grows (existing config : RouteConfig) : Grows existing (joined (some existing) config) :=
  ⟨rfl, (addListeners_subset existing.listeners config.listeners).1⟩

theorem mem_joined (existing : Option RouteConfig) (config : RouteConfig) :
    ∀ name ∈ config.listeners, name ∈ (joined existing config).listeners := by
  cases existing with
  | none => exact fun _ h => h
  | some existing => exact (addListeners_subset existing.listeners config.listeners).2

def withDocs (secretData : GoMap String String) (outcome : RouteOutcome) : GoMap String String :=
  GoMap.setAll secretData (outcome.authDocs.toList.map fun doc => (authSecretKey doc.1, doc.2))

variable {acc acc' : Attachments} {outcome : RouteOutcome} {config : RouteConfig}

theorem addOutcome_of_attaches (h : Attaches outcome config) : addOutcome acc outcome =
    ⟨acc.routeConfigs.insert config.uid (joined acc.routeConfigs[config.uid]? config),
      withDocs acc.secretData outcome⟩ := by
  unfold addOutcome
  rw [h.1]
  dsimp only
  rw [if_neg h.2]
  cases acc.routeConfigs[config.uid]? <;> rfl

theorem addOutcome_of_not_attaches (h : ∀ config, ¬ Attaches outcome config) : addOutcome acc outcome = acc := by
  unfold addOutcome
  cases hconfig : outcome.config with
  | none => rfl
  | some config =>
    dsimp only
    rw [if_pos (not_not.mp fun hne => h config ⟨hconfig, hne⟩)]

theorem foldl_addOutcome_grows {uid : String} {existing : RouteConfig} (outcomes : List RouteOutcome)
    (h : acc.routeConfigs[uid]? = some existing) :
    ∃ later, (outcomes.foldl addOutcome acc).routeConfigs[uid]? = some later ∧ Grows existing later := by
  induction outcomes generalizing acc existing with
  | nil => exact ⟨existing, h, .refl _⟩
  | cons outcome outcomes ih =>
    by_cases hattaches : ∃ config, Attaches outcome config
    · obtain ⟨config, hconfig⟩ := hattaches
      rw [List.foldl_cons, addOutcome_of_attaches hconfig]
      by_cases huid : config.uid = uid
      · subst huid
        rw [h]
        obtain ⟨later, hlater, hgrows⟩ := @ih ⟨acc.routeConfigs.insert config.uid (joined (some existing) config),
          withDocs acc.secretData outcome⟩ _ (GoMap.get_insert_self ..)
        exact ⟨later, hlater, (joined_grows existing config).trans hgrows⟩
      · exact ih (by rw [GoMap.get_insert_of_ne _ _ huid, h])
    · rw [List.foldl_cons, addOutcome_of_not_attaches fun config hconfig => hattaches ⟨config, hconfig⟩]
      exact ih h

theorem foldl_merged {final : GoMap String RouteConfig} (outcomes : List RouteOutcome) (seen : List String)
    (hsecret : acc'.secretData = acc.secretData)
    (hunseen : ∀ uid, uid ∉ seen → acc.routeConfigs[uid]? = none ∧ acc'.routeConfigs[uid]? = none)
    (hseen : ∀ uid ∈ seen, (∃ existing, acc.routeConfigs[uid]? = some existing) ∧
      acc'.routeConfigs[uid]? = final[uid]?)
    (hfinal : (outcomes.foldl addOutcome acc).routeConfigs = final) :
    (merged final seen outcomes).foldl addOutcome acc' = outcomes.foldl addOutcome acc := by
  induction outcomes generalizing seen acc acc' with
  | nil =>
    have hconfigs : acc'.routeConfigs = acc.routeConfigs := by
      refine Std.ExtTreeMap.ext_getElem? fun uid => ?_
      by_cases huid : uid ∈ seen
      · rw [(hseen uid huid).2, ← hfinal]
        rfl
      · rw [(hunseen uid huid).1, (hunseen uid huid).2]
    cases acc
    cases acc'
    obtain rfl := hconfigs
    obtain rfl := hsecret
    rfl
  | cons outcome outcomes ih =>
    by_cases hattaches : ∃ config, Attaches outcome config
    · obtain ⟨config, hconfig⟩ := hattaches
      rw [List.foldl_cons] at hfinal
      obtain ⟨later, hlater, hgrows⟩ := @foldl_addOutcome_grows (addOutcome acc outcome) config.uid
        (joined acc.routeConfigs[config.uid]? config) outcomes (by
          rw [addOutcome_of_attaches hconfig]
          exact GoMap.get_insert_self ..)
      rw [hfinal] at hlater
      -- either way the second run has the final configuration of the route from here on
      have hrest : ∀ seen', (∀ uid, uid ∈ seen' ↔ uid = config.uid ∨ uid ∈ seen) →
          (merged final seen' outcomes).foldl addOutcome ⟨acc'.routeConfigs.insert config.uid later,
            withDocs acc'.secretData outcome⟩ = outcomes.foldl addOutcome (addOutcome acc outcome) := by
        intro seen' hseen'
        refine @ih (addOutcome acc outcome) _ seen' ?_ (fun uid huid => ?_) (fun uid huid => ?_) hfinal
        · rw [addOutcome_of_attaches hconfig, hsecret]
        · rw [hseen', not_or] at huid
          rw [addOutcome_of_attaches hconfig, GoMap.get_insert_of_ne _ _ (Ne.symm huid.1),
            GoMap.get_insert_of_ne _ _ (Ne.symm huid.1)]
          exact hunseen uid huid.2
        · rw [addOutcome_of_attaches hconfig]
          by_cases hown : config.uid = uid
          · subst hown
            exact ⟨⟨_, GoMap.get_insert_self ..⟩, by rw [GoMap.get_insert_self, hlater]⟩
          · rw [GoMap.get_insert_of_ne _ _ hown, GoMap.get_insert_of_ne _ _ hown]
            exact hseen uid (((hseen' uid).mp huid).resolve_left (Ne.symm hown))
      have hmerged : merged final seen (outcome :: outcomes) =
          if config.uid ∈ seen then outcome :: merged final seen outcomes
          else { outcome with config := some later } :: merged final (config.uid :: seen) outcomes := by
        rw [merged, hconfig.1]
        simp only [hconfig.2, false_or, hlater]
      have hnames : ∀ name ∈ config.listeners, name ∈ later.listeners := fun name hname =>
        hgrows.2 name (mem_joined _ _ name hname)
      rw [hmerged, List.foldl_cons]
      split_ifs with hin
      · have hagain : joined (some later) config = later := by
          rw [joined, addListeners_of_subset hnames]
        rw [List.foldl_cons, addOutcome_of_attaches hconfig, (hseen _ hin).2, hlater, hagain]
        exact hrest seen fun uid => ⟨.inr, fun h => h.elim (fun heq => heq ▸ hin) id⟩
      · rw [(hunseen _ hin).1] at hgrows
        have huid : later.uid = config.uid := by
          rw [hgrows.1]
          rfl
        have hfirst : Attaches { outcome with config := some later } later := by
          obtain ⟨name, hname⟩ := List.exists_mem_of_ne_nil _ hconfig.2
          exact ⟨rfl, List.ne_nil_of_mem (hnames name hname)⟩
        rw [List.foldl_cons, addOutcome_of_attaches hfirst, huid, (hunseen _ hin).2]
        exact hrest _ fun uid => List.mem_cons
    · have hnone := fun config hconfig => hattaches ⟨config, hconfig⟩
      have hmerged : merged final seen (outcome :: outcomes) = outcome :: merged final seen outcomes := by
        rw [merged]
        cases hconfig : outcome.config with
        | none => rfl
        | some config =>
          dsimp only
          rw [if_pos (.inl (not_not.mp fun hne => hnone config ⟨hconfig, hne⟩))]
      rw [hmerged, List.foldl_cons, List.foldl_cons, addOutcome_of_not_attaches hnone,
        addOutcome_of_not_attaches hnone]
      rw [List.foldl_cons, addOutcome_of_not_attaches hnone] at hfinal
      exact ih seen hsecret hunseen hseen hfinal

theorem mem_compileAttachments {uid : String} (outcomes : List RouteOutcome) :
    (∃ config, (outcomes.foldl addOutcome acc).routeConfigs[uid]? = some config) ↔
      (∃ config, acc.routeConfigs[uid]? = some config) ∨
        ∃ outcome ∈ outcomes, ∃ config, Attaches outcome config ∧ config.uid = uid := by
  induction outcomes generalizing acc with
  | nil => simp
  | cons outcome outcomes ih =>
    rw [List.foldl_cons, ih]
    by_cases hattaches : ∃ config, Attaches outcome config
    · obtain ⟨config, hconfig⟩ := hattaches
      have honly : ∀ config', Attaches outcome config' → config' = config := fun config' h =>
        Option.some.inj (h.1.symm.trans hconfig.1)
      rw [addOutcome_of_attaches hconfig, List.exists_mem_cons_iff]
      by_cases huid : config.uid = uid
      · subst huid
        exact iff_of_true (.inl ⟨_, GoMap.get_insert_self ..⟩) (.inr (.inl ⟨config, hconfig, rfl⟩))
      · rw [GoMap.get_insert_of_ne _ _ huid]
        refine or_congr_right (or_iff_right ?_).symm
        rintro ⟨config', hconfig', rfl⟩
        exact huid (by rw [honly config' hconfig'])
    · rw [addOutcome_of_not_attaches fun config hconfig => hattaches ⟨config, hconfig⟩, List.exists_mem_cons_iff]
      refine or_congr_right (or_iff_right ?_).symm
      rintro ⟨config, hconfig, -⟩
      exact hattaches ⟨config, hconfig⟩

theorem grows_of_compiled {uid : String} {later : RouteConfig} (outcomes : List RouteOutcome)
    (h : (outcomes.foldl addOutcome acc).routeConfigs[uid]? = some later) :
    (∃ existing, acc.routeConfigs[uid]? = some existing ∧ Grows existing later) ∨
      ∃ outcome ∈ outcomes, ∃ source, Attaches outcome source ∧ Grows source later := by
  induction outcomes generalizing acc with
  | nil => exact .inl ⟨later, h, .refl _⟩
  | cons outcome outcomes ih =>
    rw [List.exists_mem_cons_iff]
    rcases ih h with ⟨existing, hexisting, hgrows⟩ | hrest
    · by_cases hattaches : ∃ config, Attaches outcome config
      · obtain ⟨config, hconfig⟩ := hattaches
        rw [addOutcome_of_attaches hconfig, GoMap.get_insert] at hexisting
        split_ifs at hexisting with huid
        · obtain rfl := Option.some.inj hexisting
          cases hacc : acc.routeConfigs[config.uid]? with
          | none =>
            rw [hacc] at hgrows
            exact .inr (.inl ⟨config, hconfig, hgrows⟩)
          | some first =>
            rw [hacc] at hgrows
            exact .inl ⟨first, huid ▸ hacc, (joined_grows first config).trans hgrows⟩
        · exact .inl ⟨existing, hexisting, hgrows⟩
      · rw [addOutcome_of_not_attaches fun config hconfig => hattaches ⟨config, hconfig⟩] at hexisting
        exact .inl ⟨existing, hexisting, hgrows⟩
    · exact .inr (.inr hrest)

theorem authSecretKey_injective : Function.Injective authSecretKey := by
  intro a b h
  have hsame : "auth-" ++ a = "auth-" ++ b := (GoString.append_inj_right rfl h).1
  exact GoString.append_cancel hsame

theorem withDocs_get (secretData : GoMap String String) (outcome : RouteOutcome) (identity : String) :
    (withDocs secretData outcome)[authSecretKey identity]? =
      outcome.authDocs[identity]?.or secretData[authSecretKey identity]? := by
  have hkeys : ((outcome.authDocs.toList.map fun doc => (authSecretKey doc.1, doc.2)).map Prod.fst) =
      (outcome.authDocs.toList.map Prod.fst).map authSecretKey := by
    rw [List.map_map, List.map_map]
    rfl
  cases hdoc : outcome.authDocs[identity]? with
  | none =>
    refine GoMap.get_setAll_of_notMem _ fun hmem => ?_
    rw [hkeys, List.mem_map] at hmem
    obtain ⟨other, hother, hsame⟩ := hmem
    obtain ⟨doc, hmem, rfl⟩ := List.mem_map.mp hother
    rw [← authSecretKey_injective hsame, GoMap.mem_toList.mp hmem] at hdoc
    cases hdoc
  | some payload =>
    refine GoMap.get_setAll_of_mem _ ?_ ?_
    · rw [hkeys]
      exact (GoMap.toList_keys_nodup _).map authSecretKey_injective
    · exact List.mem_map.mpr ⟨(identity, payload), GoMap.mem_toList.mpr hdoc, rfl⟩

theorem secretData_of_attached {identity : String} (outcomes : List RouteOutcome)
    (h : ∃ outcome ∈ outcomes, (∃ config, Attaches outcome config) ∧
      outcome.authDocs[identity]?.isSome = true) :
    ∃ outcome ∈ outcomes, (∃ config, Attaches outcome config) ∧ ∃ payload,
      outcome.authDocs[identity]? = some payload ∧
        (outcomes.foldl addOutcome acc).secretData[authSecretKey identity]? = some payload := by
  induction outcomes using List.reverseRecOn with
  | nil =>
    obtain ⟨outcome, hmem, -⟩ := h
    cases hmem
  | append_singleton outcomes last ih =>
    rw [List.foldl_append, List.foldl_cons, List.foldl_nil]
    by_cases hlast : (∃ config, Attaches last config) ∧ last.authDocs[identity]?.isSome = true
    · obtain ⟨⟨config, hconfig⟩, hsome⟩ := hlast
      obtain ⟨payload, hpayload⟩ := Option.isSome_iff_exists.mp hsome
      refine ⟨last, by simp, ⟨config, hconfig⟩, payload, hpayload, ?_⟩
      rw [addOutcome_of_attaches hconfig, withDocs_get, hpayload]
      rfl
    · obtain ⟨outcome, hmem, hattaches, hsome⟩ := h
      have hbefore : outcome ∈ outcomes := by
        rcases List.mem_append.mp hmem with hmem | hmem
        · exact hmem
        · rw [List.mem_singleton.mp hmem] at hattaches hsome
          exact absurd ⟨hattaches, hsome⟩ hlast
      obtain ⟨found, hfound, hattached, payload, hpayload, hsecret⟩ :=
        ih ⟨outcome, hbefore, hattaches, hsome⟩
      refine ⟨found, List.mem_append_left _ hfound, hattached, payload, hpayload, ?_⟩
      by_cases hconfig : ∃ config, Attaches last config
      · obtain ⟨config, hconfig⟩ := hconfig
        have hnone : last.authDocs[identity]? = none := by
          rw [← Option.not_isSome_iff_eq_none]
          exact fun hsome => hlast ⟨⟨config, hconfig⟩, hsome⟩
        rw [addOutcome_of_attaches hconfig, withDocs_get, hnone]
        exact hsecret
      · rw [addOutcome_of_not_attaches fun config hc => hconfig ⟨config, hc⟩]
        exact hsecret

end Krouter.Idempotence
