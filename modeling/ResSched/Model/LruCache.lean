import ResSched.Library.LruMap

/-! # The cache of recent results

A list of the cached pairs, and for each key an iterator into it. An iterator is the address of
its node; a call that follows an iterator of no node, or looks at the back of an empty list, has
no result.
-/

namespace ResSched

/-- A node of `lruList`. -/
structure CacheNode (K V : Type*) where
  address : Nat
  key : K
  value : V

structure ResschedLRUCache (K V : Type*) where
  capacity_ : Nat
  lruList : List (CacheNode K V)
  relationMap : AssocMap K Nat
  allocated : Nat

namespace ResschedLRUCache

variable {K V : Type*}

def created (capacity : Nat) : ResschedLRUCache K V :=
  ⟨capacity, [], ∅, 0⟩

/-! ## Operations of the list -/

/-- `lruList.begin()`; the end of an empty list is no node's address. -/
def first (cache : ResschedLRUCache K V) : Option Nat :=
  cache.lruList.head?.map CacheNode.address

def node? (cache : ResschedLRUCache K V) (iter : Nat) : Option (CacheNode K V) :=
  cache.lruList.find? fun node => node.address = iter

/-- `splice` of one node to the front. -/
def splice (cache : ResschedLRUCache K V) (iter : Nat) : Option (ResschedLRUCache K V) :=
  (cache.node? iter).map fun node =>
    { cache with
      lruList := node :: cache.lruList.filter fun node => node.address ≠ iter }

def erase (cache : ResschedLRUCache K V) (iter : Nat) : Option (ResschedLRUCache K V) :=
  (cache.node? iter).map fun _ =>
    { cache with lruList := cache.lruList.filter fun node => node.address ≠ iter }

/-- `relationMap[key]->second = value`. -/
def assign (cache : ResschedLRUCache K V) (iter : Nat) (value : V) :
    Option (ResschedLRUCache K V) :=
  (cache.node? iter).map fun _ =>
    { cache with
      lruList := cache.lruList.map fun node =>
        if node.address = iter then { node with value := value } else node }

variable [DecidableEq K]

/-- `push_front`, and the new front stored for its key. -/
def push_front (cache : ResschedLRUCache K V) (key : K) (value : V) : ResschedLRUCache K V :=
  { cache with
    lruList := ⟨cache.allocated, key, value⟩ :: cache.lruList
    relationMap := cache.relationMap.insert key cache.allocated
    allocated := cache.allocated + 1 }

/-- Erase the key of the last node and `pop_back`. -/
def pop_back (cache : ResschedLRUCache K V) : Option (ResschedLRUCache K V) :=
  cache.lruList.getLast?.map fun back =>
    { cache with
      lruList := cache.lruList.dropLast
      relationMap := cache.relationMap.erase back.key }

/-- The back goes when a new key comes at full size. -/
def evictIfFull (cache : ResschedLRUCache K V) : Option (ResschedLRUCache K V) :=
  if cache.lruList.length ≥ cache.capacity_ then cache.pop_back else some cache

/-! ## The two calls -/

/-- The cache afterwards, and the value found. -/
def get (cache : ResschedLRUCache K V) (key : K) : Option (ResschedLRUCache K V × Option V) :=
  match cache.relationMap.lookup key with
  | none => some (cache, none)
  | some iter => do
      let cache ← cache.splice iter
      let node ← cache.node? iter
      return (cache, some node.value)

def put (cache : ResschedLRUCache K V) (key : K) (value : V) : Option (ResschedLRUCache K V) :=
  match cache.relationMap.lookup key with
  | some iter =>
      if cache.first ≠ some iter then
        (cache.erase iter).map fun cache => cache.push_front key value
      else cache.assign iter value
  | none => cache.evictIfFull.map fun cache => cache.push_front key value

/-- The cache after a call, and what the call returns. -/
def handle (cache : ResschedLRUCache K V) :
    LruCall K V → Option (ResschedLRUCache K V × Option V)
  | .get key => cache.get key
  | .put key value => (cache.put key value).map fun cache => (cache, none)

/-- The cache after some calls, and what they return. -/
def serve (cache : ResschedLRUCache K V) :
    List (LruCall K V) → Option (ResschedLRUCache K V × List (Option V))
  | [] => some (cache, [])
  | call :: calls => do
      let (after, answer) ← cache.handle call
      let (last, answers) ← after.serve calls
      return (last, answer :: answers)

end ResschedLRUCache

end ResSched
