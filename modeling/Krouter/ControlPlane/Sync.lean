import Krouter.ControlPlane.Frontend

/-! Passes of the single control plane: every owned Gateway is published and its frontend ensured, then
the orphans are collected. -/

namespace Krouter.Sync
open Calls Compiled Kube Publish

/-- What a pass does for an owned Gateway: nothing when its parameters are rejected, and no frontend when
no listener is valid. -/
structure Work where
  uid : UID
  publication : Option Publication
  owner : ∀ p, publication = some p → p.uid = uid
  frontend : Option Frontend.Request

/-- One pass. `fails` says which of its calls fail, and `released` which Services have been
deleted since the last one. -/
structure Pass where
  work : List Work
  acks : AckState
  fails : Call → Bool
  released : List String

def Pass.ownedUIDs (pass : Pass) : List String := pass.work.map fun w => w.uid.value

def Pass.publications (pass : Pass) : List Publication := pass.work.filterMap Work.publication

section
variable (sum256 : String → String)

def reconcileGateway (acks : AckState) (listed : Listing) (work : Work) : Api Unit :=
  match work.publication with
  | none => pure ()
  | some p => do
    match ← (publishGeneration sum256 acks listed p).attempt with
    | .error _ => pure ()
    | .ok _ =>
      match work.frontend with
      | none => pure ()
      | some request => do
        let _ ← (Frontend.ensureFrontend request).attempt
        pure ()

def sync (acks : AckState) (listed : Listing) (work : List Work) (ownedUIDs : List String) : Api Unit := do
  .forEach work (reconcileGateway sum256 acks listed)
  gcOrphans listed ownedUIDs

def release (s : Store) (released : List String) : Store :=
  { s with services := released.foldl (fun m name => m.erase name) s.services }

def runPass (s : Store) (pass : Pass) : Run Store ApiError Unit :=
  let found := release s pass.released
  sync sum256 pass.acks (listing found) pass.work pass.ownedUIDs pass.fails found

def run (s : Store) : List Pass → Store × List Store
  | [] => (s, [])
  | pass :: passes =>
    let r := runPass sum256 s pass
    ((run r.store passes).1, release s pass.released :: r.visited ++ (run r.store passes).2)

end

end Krouter.Sync
