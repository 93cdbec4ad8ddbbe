import StreamRtp.Registry.Cursor

/-!
# Requests to a registry

The operations of a registry as data, so that a run of a registry is a list. After each request the
report has the answer and all that can be seen of the registry.
-/

namespace StreamRtp

/-- What a registry is asked to do. A request that hands out a value to be changed comes with the
change. -/
inductive RegistryRequest (κ ν : Type) where
  | add (key : κ) (value : ν)
  | remove (key : κ)
  | contains (key : κ)
  | get (key : κ)
  | modify (key : κ) (change : ν → ν)
  | clear
  | first
  | last
  | next
  | previous
  | goTo (key : κ)
  | current
  | modifyCurrent (change : ν → ν)
  | removeCurrent
  | iterate
  | keys

/-- What a registry answers to a request. -/
inductive RegistryAnswer (κ ν : Type) where
  | done
  | flag (value : Bool)
  | value (value : Option ν)
  | entry (entry : Option (κ × ν))
  | outcome (result : Except RegistryError Unit)
  | removed (result : Except RegistryError ν)
  | taken (result : Except RegistryError (κ × ν))
  | entries (entries : List (κ × ν))
  | keys (keys : List κ)

/-- The answer to a request with what can be seen of the registry afterwards. -/
structure RegistryReport (κ ν : Type) where
  answer : RegistryAnswer κ ν
  size : Nat
  entries : List (κ × ν)
  keys : List κ
  current : Option (κ × ν)

namespace Registry

variable {κ ν : Type} {table : BucketTable κ} [DecidableEq κ]

/-- Carry a request out. A request that fails leaves the registry as it was, except that `goTo`
leaves the cursor empty. -/
def perform (r : Registry κ ν table) :
    RegistryRequest κ ν → RegistryAnswer κ ν × Registry κ ν table
  | .add k v =>
    match r.add k v with
    | .ok r => (.outcome (.ok ()), r)
    | .error e => (.outcome (.error e), r)
  | .remove k =>
    match r.remove k with
    | .ok (v, r) => (.removed (.ok v), r)
    | .error e => (.removed (.error e), r)
  | .contains k => (.flag (r.contains k), r)
  | .get k => (.value (r.get? k), r)
  | .modify k change => (.value ((r.modify k change).get? k), r.modify k change)
  | .clear => (.done, r.clear)
  | .first => (.done, r.first)
  | .last => (.done, r.last)
  | .next => (.done, r.next)
  | .previous => (.done, r.previous)
  | .goTo k => (.outcome (r.goTo k).1, (r.goTo k).2)
  | .current => (.entry r.current?, r)
  | .modifyCurrent change => (.entry (r.modifyCurrent change).current?, r.modifyCurrent change)
  | .removeCurrent =>
    match r.removeCurrent with
    | .ok (e, r) => (.taken (.ok e), r)
    | .error e => (.taken (.error e), r)
  | .iterate => (.entries r.toList, r)
  | .keys => (.keys r.keys, r)

/-- What can be seen of a registry, with an answer. -/
def report (r : Registry κ ν table) (answer : RegistryAnswer κ ν) : RegistryReport κ ν :=
  ⟨answer, r.size, r.toList, r.keys, r.current?⟩

/-- Carry requests out one after the other. -/
def run (r : Registry κ ν table) : List (RegistryRequest κ ν) → List (RegistryReport κ ν)
  | [] => []
  | q :: requests => (r.perform q).2.report (r.perform q).1 :: run (r.perform q).2 requests

end Registry

end StreamRtp
