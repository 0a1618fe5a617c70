import Krouter.Compiled.Objects
import Krouter.Lib.JsonCodec

/-! The internal port allocator. Allocations are kept in an annotation of every generated Service and
read back from whatever the cluster holds. -/

namespace Krouter.Ports
open Std Compiled GoString

structure Service where
  labels : GoMap String String
  annotations : GoMap String String
  deriving DecidableEq

/-- `used` and `assigned` of the source; `assigned` is keyed by `uid|extPort/protocol`. -/
structure PortAllocator where
  min : Int
  max : Int
  used : GoMap Int32 Bool
  assigned : GoMap String Int32
  deriving DecidableEq

def portMapCodec : Json.Codec (GoMap String Int32) := Json.Codec.int32.map

namespace PortAllocator

def record (a : PortAllocator) (key : String) (port : Int32) : PortAllocator :=
  { a with used := a.used.insert port true, assigned := a.assigned.insert key port }

def isUsed (a : PortAllocator) (port : Int32) : Bool := GoMap.read a.used port false

def importService (a : PortAllocator) (svc : Service) : PortAllocator :=
  let uid := GoMap.read svc.labels labelGatewayUID ""
  let raw := GoMap.read svc.annotations portMapAnnotation ""
  if uid = "" ∨ raw = "" then a
  else match portMapCodec.unmarshal raw with
    | none => a
    | some portMap => portMap.toList.foldl (fun a e => a.record (uid ++ "|" ++ e.1) e.2) a

def groupKey (gatewayUID : String) (extPort : Int32) (protocol : String) : String :=
  gatewayUID ++ "|" ++ String.ofList (Decimal.itoa extPort.toInt) ++ "/" ++ protocol

/-- The candidate loop of `Allocate`, with the number of candidates still ahead. -/
def firstFree (a : PortAllocator) : Nat → Int → Option Int32
  | 0, _ => none
  | n + 1, candidate =>
    if a.isUsed (Int32.ofInt candidate) then firstFree a n (candidate + 1)
    else some (Int32.ofInt candidate)

def exhausted (a : PortAllocator) : String :=
  "internal listener port range " ++ toString a.min ++ "-" ++ toString a.max ++ " exhausted"

def allocate (a : PortAllocator) (gatewayUID : String) (extPort : Int32) (protocol : String) :
    Except String Int32 × PortAllocator :=
  let key := groupKey gatewayUID extPort protocol
  match a.assigned[key]? with
  | some port => (.ok port, a)
  | none =>
    match a.firstFree (a.max + 1 - a.min).toNat a.min with
    | some port => (.ok port, a.record key port)
    | none => (.error a.exhausted, a)

def portMapOf (a : PortAllocator) (gatewayUID : String) : GoMap String Int32 :=
  let pre := gatewayUID ++ "|"
  GoMap.setAll ∅ (a.assigned.toList.filterMap fun e =>
    if pre.utf8ByteSize < e.1.utf8ByteSize ∧ hasPrefix e.1 pre then some (dropPrefix e.1 pre, e.2)
    else none)

def portMap (a : PortAllocator) (gatewayUID : String) : String :=
  portMapCodec.marshal (a.portMapOf gatewayUID)

end PortAllocator

open PortAllocator

def newPortAllocator (min max : Int) (existingServices : List Service) : PortAllocator :=
  existingServices.foldl importService ⟨min, max, ∅, ∅⟩

/-! ## Groups and their keys -/

/-- A Kubernetes UID: not empty, and free of the separator of the allocation keys. -/
structure GatewayUID where
  value : String
  nonempty : value ≠ ""
  pipeFree : '|' ∉ value.toList
  deriving DecidableEq

structure Group where
  gateway : GatewayUID
  extPort : Int32
  protocol : String
  deriving DecidableEq

def Group.key (g : Group) : String := groupKey g.gateway.value g.extPort g.protocol

theorem GatewayUID.ext_value {u v : GatewayUID} (h : u.value = v.value) : u = v := by
  cases u
  cases v
  cases h
  rfl

theorem GatewayUID.key_inj {u v : GatewayUID} {x y : String}
    (h : u.value ++ "|" ++ x = v.value ++ "|" ++ y) : u = v ∧ x = y := by
  obtain ⟨huv, hxy⟩ := joined_inj rfl (.inl ⟨u.pipeFree, v.pipeFree⟩) h
  exact ⟨ext_value huv, hxy⟩

theorem slash_notMem_itoa (n : Int) : '/' ∉ Decimal.itoa n := by
  intro h
  rcases Decimal.itoa_chars n _ h with h | h <;> exact absurd h (by decide)

theorem port_slash_inj {port port' : Int32} {x y : String}
    (h : String.ofList (Decimal.itoa port.toInt) ++ "/" ++ x = String.ofList (Decimal.itoa port'.toInt) ++ "/" ++ y) :
    port = port' ∧ x = y := by
  have hfree : ∀ n : Int, '/' ∉ (String.ofList (Decimal.itoa n)).toList := fun n => by
    rw [String.toList_ofList]
    exact slash_notMem_itoa n
  obtain ⟨hdigits, hxy⟩ := joined_inj rfl (.inl ⟨hfree _, hfree _⟩) h
  exact ⟨Int32.toInt_inj.mp (Decimal.itoa_injective (String.ofList_injective hdigits)), hxy⟩

theorem groupKey_eq (uid : String) (extPort : Int32) (protocol : String) :
    groupKey uid extPort protocol =
      uid ++ "|" ++ (String.ofList (Decimal.itoa extPort.toInt) ++ "/" ++ protocol) := by
  simp only [groupKey, String.append_assoc]

theorem Group.key_injective : Function.Injective Group.key := by
  intro g h hk
  rw [key, key, groupKey_eq, groupKey_eq] at hk
  obtain ⟨hu, ht⟩ := GatewayUID.key_inj hk
  cases g
  cases h
  simp only [Group.mk.injEq]
  exact ⟨hu, port_slash_inj ht⟩

/-! ## What the annotations say -/

def persistedEntries (svc : Service) : List (String × Int32) :=
  let uid := GoMap.read svc.labels labelGatewayUID ""
  let raw := GoMap.read svc.annotations portMapAnnotation ""
  if uid = "" ∨ raw = "" then []
  else match portMapCodec.unmarshal raw with
    | none => []
    | some portMap => portMap.toList.map fun e => (uid ++ "|" ++ e.1, e.2)

def Persisted (services : List Service) (key : String) (port : Int32) : Prop :=
  ∃ before after, services.flatMap persistedEntries = before ++ (key, port) :: after ∧
    key ∉ after.map Prod.fst

/-- Some Service mentions the port, under whatever key. -/
def Reserved (services : List Service) (port : Int32) : Prop :=
  ∃ svc ∈ services, ∃ key, (key, port) ∈ persistedEntries svc

namespace PortAllocator

def recordAll (a : PortAllocator) (entries : List (String × Int32)) : PortAllocator :=
  entries.foldl (fun a e => a.record e.1 e.2) a

theorem importService_eq (a : PortAllocator) (svc : Service) :
    a.importService svc = a.recordAll (persistedEntries svc) := by
  simp only [importService, persistedEntries]
  split_ifs
  · rfl
  · cases portMapCodec.unmarshal (GoMap.read svc.annotations portMapAnnotation "") with
    | none => rfl
    | some portMap => simp only [recordAll, List.foldl_map]

theorem record_isUsed (a : PortAllocator) (key : String) (port p : Int32) :
    (a.record key port).isUsed p = true ↔ p = port ∨ a.isUsed p = true := by
  rw [isUsed, record, GoMap.read, GoMap.get_insert]
  by_cases h : port = p
  · simp [h]
  · simp [h, Ne.symm h, isUsed, GoMap.read]

variable (entries : List (String × Int32))

theorem recordAll_range (a : PortAllocator) :
    (a.recordAll entries).min = a.min ∧ (a.recordAll entries).max = a.max := by
  induction entries generalizing a with
  | nil => exact ⟨rfl, rfl⟩
  | cons e entries ih => exact ih (a.record e.1 e.2)

theorem recordAll_assigned (a : PortAllocator) :
    (a.recordAll entries).assigned = GoMap.setAll a.assigned entries := by
  induction entries generalizing a with
  | nil => rfl
  | cons e entries ih => exact ih (a.record e.1 e.2)

theorem recordAll_used (a : PortAllocator) :
    (a.recordAll entries).used = GoMap.setAll a.used (entries.map fun e => (e.2, true)) := by
  induction entries generalizing a with
  | nil => rfl
  | cons e entries ih => exact ih (a.record e.1 e.2)

theorem recordAll_isUsed (a : PortAllocator) (p : Int32) :
    (a.recordAll entries).isUsed p = true ↔ p ∈ entries.map Prod.snd ∨ a.isUsed p = true := by
  induction entries generalizing a with
  | nil => simp [recordAll]
  | cons e entries ih =>
    rw [List.map_cons, List.mem_cons, recordAll, List.foldl_cons, ← recordAll, ih, record_isUsed]
    tauto

end PortAllocator

variable (min max : Int) (services : List Service) {port : Int32}

theorem newPortAllocator_eq : newPortAllocator min max services =
      (PortAllocator.mk min max ∅ ∅).recordAll (services.flatMap persistedEntries) := by
  rw [newPortAllocator]
  generalize PortAllocator.mk min max ∅ ∅ = a
  induction services generalizing a with
  | nil => rfl
  | cons svc services ih =>
    rw [List.foldl_cons, importService_eq, ih, List.flatMap_cons, recordAll, recordAll, recordAll,
      List.foldl_append]

@[simp] theorem newPortAllocator_min : (newPortAllocator min max services).min = min := by
  rw [newPortAllocator_eq, (recordAll_range _ _).1]

@[simp] theorem newPortAllocator_max : (newPortAllocator min max services).max = max := by
  rw [newPortAllocator_eq, (recordAll_range _ _).2]

theorem newPortAllocator_assigned {services : List Service} {key : String} :
    (newPortAllocator min max services).assigned[key]? = some port ↔
      Persisted services key port := by
  rw [newPortAllocator_eq, recordAll_assigned, GoMap.get_setAll_iff, Persisted, GoMap.get_empty]
  simp only [reduceCtorEq, and_false, or_false]

theorem newPortAllocator_isUsed {min max : Int} {services : List Service} :
    (newPortAllocator min max services).isUsed port = true ↔ Reserved services port := by
  rw [newPortAllocator_eq, recordAll_isUsed]
  simp [Reserved, isUsed, GoMap.read]
  grind

/-! ## Port maps -/

theorem mem_portMap_entries {a : PortAllocator} {uid k : String} :
    (k, port) ∈ (a.assigned.toList.filterMap fun e =>
      if (uid ++ "|").utf8ByteSize < e.1.utf8ByteSize ∧ hasPrefix e.1 (uid ++ "|") then
        some (dropPrefix e.1 (uid ++ "|"), e.2) else none) ↔
    k ≠ "" ∧ a.assigned[uid ++ "|" ++ k]? = some port := by
  rw [List.mem_filterMap]
  constructor
  · rintro ⟨⟨key, p⟩, hm, he⟩
    split_ifs at he with hc
    obtain ⟨hsize, hpre⟩ := hc
    obtain ⟨t, rfl⟩ := hasPrefix_iff.mp hpre
    simp only [dropPrefix_append, Option.some.injEq, Prod.mk.injEq] at he
    obtain ⟨rfl, rfl⟩ := he
    refine ⟨?_, GoMap.mem_toList.mp hm⟩
    rintro rfl
    simp at hsize
  · rintro ⟨hk, ha⟩
    refine ⟨(uid ++ "|" ++ k, port), GoMap.mem_toList.mpr ha, ?_⟩
    have hpos : 0 < k.utf8ByteSize := by
      rw [Nat.pos_iff_ne_zero, ne_eq, String.utf8ByteSize_eq_zero_iff]
      exact hk
    rw [if_pos ⟨by rw [String.utf8ByteSize_append (s := uid ++ "|")]; omega, hasPrefix_iff.mpr ⟨k, rfl⟩⟩,
      dropPrefix_append]

theorem portMapOf_get (a : PortAllocator) (uid : String) {k : String} :
    (a.portMapOf uid)[k]? = some port ↔ k ≠ "" ∧ a.assigned[uid ++ "|" ++ k]? = some port := by
  rw [portMapOf, GoMap.get_setAll_empty, mem_portMap_entries]
  intro port' h h'
  exact Option.some.inj ((mem_portMap_entries.mp h').2.symm.trans (mem_portMap_entries.mp h).2)

/-! ## Allocation -/

namespace PortAllocator

/-- The ports `Allocate` can hand out: the candidates of the range, cut to 32 bits. -/
def Candidate (min max : Int) (port : Int32) : Prop := ∃ c, min ≤ c ∧ c ≤ max ∧ port = Int32.ofInt c

def allocateGroup (a : PortAllocator) (g : Group) : Except String Int32 × PortAllocator :=
  a.allocate g.gateway.value g.extPort g.protocol

variable {a : PortAllocator} {port : Int32} {g : Group}

theorem firstFree_some {n : Nat} {c : Int} (h : a.firstFree n c = some port) : a.isUsed port = false ∧
      ∃ d, c ≤ d ∧ d < c + n ∧ port = Int32.ofInt d ∧
        ∀ e, c ≤ e → e < d → a.isUsed (Int32.ofInt e) = true := by
  induction n generalizing c with
  | zero => cases h
  | succ n ih =>
    rw [firstFree] at h
    split_ifs at h with hu
    · obtain ⟨hfree, d, hcd, hdn, rfl, hbelow⟩ := ih h
      refine ⟨hfree, d, by omega, by omega, rfl, fun e hce hed => ?_⟩
      by_cases hec : e = c
      · rw [hec, hu]
      · exact hbelow e (by omega) hed
    · obtain rfl := Option.some.inj h
      exact ⟨by simpa using hu, c, by omega, by omega, rfl, fun e h1 h2 => by omega⟩

theorem firstFree_none {n : Nat} {c : Int} (h : a.firstFree n c = none) :
    ∀ e, c ≤ e → e < c + n → a.isUsed (Int32.ofInt e) = true := by
  induction n generalizing c with
  | zero => intro e h1 h2; omega
  | succ n ih =>
    rw [firstFree] at h
    split_ifs at h with hu
    intro e h1 h2
    by_cases hec : e = c
    · rw [hec, hu]
    · exact ih h e (by omega) (by omega)

/-- All a call can do: hand out the group's port again, take the first free candidate, or
report that there is none and change nothing. -/
theorem allocateGroup_cases (a : PortAllocator) (g : Group) :
    (∃ port, a.assigned[g.key]? = some port ∧ a.allocateGroup g = (.ok port, a)) ∨
    (∃ port, a.assigned[g.key]? = none ∧ a.isUsed port = false ∧
      (∃ c, a.min ≤ c ∧ c ≤ a.max ∧ port = Int32.ofInt c ∧
        ∀ e, a.min ≤ e → e < c → a.isUsed (Int32.ofInt e) = true) ∧
      a.allocateGroup g = (.ok port, a.record g.key port)) ∨
    (a.assigned[g.key]? = none ∧ (∀ port, Candidate a.min a.max port → a.isUsed port = true) ∧
      a.allocateGroup g = (.error a.exhausted, a)) := by
  simp only [allocateGroup, allocate, show groupKey g.gateway.value g.extPort g.protocol = g.key from rfl]
  cases hk : a.assigned[g.key]? with
  | some port => exact .inl ⟨port, rfl, rfl⟩
  | none =>
    cases hf : a.firstFree (a.max + 1 - a.min).toNat a.min with
    | some port =>
      obtain ⟨hfree, c, h1, h2, rfl, hbelow⟩ := firstFree_some hf
      exact .inr (.inl ⟨_, rfl, hfree, ⟨c, h1, by omega, rfl, hbelow⟩, rfl⟩)
    | none =>
      refine .inr (.inr ⟨rfl, ?_, rfl⟩)
      rintro port ⟨c, h1, h2, rfl⟩
      exact firstFree_none hf c h1 (by omega)

theorem allocateGroup_range (a : PortAllocator) (g : Group) :
    (a.allocateGroup g).2.min = a.min ∧ (a.allocateGroup g).2.max = a.max := by
  obtain ⟨port, -, h⟩ | ⟨port, -, -, -, h⟩ | ⟨-, -, h⟩ := a.allocateGroup_cases g <;>
    rw [h] <;> exact ⟨rfl, rfl⟩

theorem allocateGroup_of_assigned (h : a.assigned[g.key]? = some port) : a.allocateGroup g = (.ok port, a) := by
  obtain ⟨p, hp, he⟩ | ⟨_, hn, -⟩ | ⟨hn, -⟩ := a.allocateGroup_cases g
  · rw [he, Option.some.inj (hp.symm.trans h)]
  · rw [h] at hn
    cases hn
  · rw [h] at hn
    cases hn

theorem allocateGroup_ok (h : (a.allocateGroup g).1 = .ok port) :
    (a.allocateGroup g).2.assigned[g.key]? = some port := by
  obtain ⟨p, hp, he⟩ | ⟨p, -, -, -, he⟩ | ⟨-, -, he⟩ := a.allocateGroup_cases g
  · rw [he] at h ⊢
    rw [← Except.ok.inj h, hp]
  · rw [he] at h ⊢
    rw [← Except.ok.inj h, record, GoMap.get_insert_self]
  · rw [he] at h
    cases h

theorem allocateGroup_assigned_mono (g : Group) {key : String} (h : a.assigned[key]? = some port) :
    (a.allocateGroup g).2.assigned[key]? = some port := by
  obtain ⟨p, -, he⟩ | ⟨p, hn, -, -, he⟩ | ⟨-, -, he⟩ := a.allocateGroup_cases g <;> rw [he]
  · exact h
  · rw [record, GoMap.get_insert_of_ne, h]
    intro hk
    rw [hk, h] at hn
    cases hn
  · exact h

theorem allocateGroup_used (h : (a.allocateGroup g).2.isUsed port = true) :
    a.isUsed port = true ∨ (a.allocateGroup g).1 = .ok port := by
  obtain ⟨p, -, he⟩ | ⟨p, -, -, -, he⟩ | ⟨-, -, he⟩ := a.allocateGroup_cases g <;> rw [he] at h ⊢
  · exact .inl h
  · rw [record_isUsed] at h
    rcases h with rfl | h
    · exact .inr rfl
    · exact .inl h
  · exact .inl h

def allocateAll : PortAllocator → List Group → List (Group × Except String Int32) × PortAllocator
  | a, [] => ([], a)
  | a, g :: gs =>
    ((g, (a.allocateGroup g).1) :: (allocateAll (a.allocateGroup g).2 gs).1,
      (allocateAll (a.allocateGroup g).2 gs).2)

theorem allocateAll_range (gs : List Group) (a : PortAllocator) :
    (a.allocateAll gs).2.min = a.min ∧ (a.allocateAll gs).2.max = a.max := by
  induction gs generalizing a with
  | nil => exact ⟨rfl, rfl⟩
  | cons g gs ih =>
    obtain ⟨h1, h2⟩ := a.allocateGroup_range g
    obtain ⟨h3, h4⟩ := ih (a.allocateGroup g).2
    exact ⟨h3.trans h1, h4.trans h2⟩

theorem allocateAll_append (gs hs : List Group) (a : PortAllocator) :
    (a.allocateAll (gs ++ hs)).2 = ((a.allocateAll gs).2.allocateAll hs).2 := by
  induction gs generalizing a with
  | nil => rfl
  | cons g gs ih => exact ih (a.allocateGroup g).2

theorem allocateAll_invariant (inv : PortAllocator → Prop) (hstep : ∀ a g, inv a → inv (a.allocateGroup g).2)
    (gs : List Group) (h : inv a) : inv (a.allocateAll gs).2 := by
  induction gs generalizing a with
  | nil => exact h
  | cons g gs ih => exact ih (hstep a g h)

theorem allocateAll_assigned_mono (gs : List Group) {key : String} (h : a.assigned[key]? = some port) :
    (a.allocateAll gs).2.assigned[key]? = some port :=
  allocateAll_invariant (fun b => b.assigned[key]? = some port)
    (fun _ g hb => allocateGroup_assigned_mono g hb) gs h

theorem allocateAll_ok {gs : List Group} (h : (g, .ok port) ∈ (a.allocateAll gs).1) :
    (a.allocateAll gs).2.assigned[g.key]? = some port := by
  induction gs generalizing a with
  | nil => cases h
  | cons x gs ih =>
    rcases List.mem_cons.mp h with h | h
    · obtain ⟨rfl, hr⟩ := Prod.mk.inj h
      exact allocateAll_assigned_mono gs (allocateGroup_ok hr.symm)
    · exact ih h

theorem allocateAll_used {gs : List Group} (h : (a.allocateAll gs).2.isUsed port = true) :
    a.isUsed port = true ∨ ∃ g, (g, .ok port) ∈ (a.allocateAll gs).1 := by
  induction gs generalizing a with
  | nil => exact .inl h
  | cons x gs ih =>
    rcases ih h with h | ⟨g, hg⟩
    · rcases allocateGroup_used h with h | h
      · exact .inl h
      · exact .inr ⟨x, List.mem_cons.mpr (.inl (by rw [h]))⟩
    · exact .inr ⟨g, .tail _ hg⟩

end PortAllocator

end Krouter.Ports
