import ResSched.Model.LruCache

/-! # The cache is a map that gives up the least recently used key

The list and the map of iterators hold the same keys, each iterator is that of its own key's
node, and the list is the map in the order of the last uses.
-/

namespace ResSched.ResschedLRUCache

variable {K V : Type*} [DecidableEq K]

/-- The cached pairs in the order of the list. -/
def entries (cache : ResschedLRUCache K V) : List (K × V) :=
  cache.lruList.map fun node => (node.key, node.value)

/-- `lruList` and `relationMap` hold the same keys, once each, and every iterator stored is that
of the node of its key. -/
structure Synced (cache : ResschedLRUCache K V) : Prop where
  keys : (cache.lruList.map CacheNode.key).Nodup
  addresses : (cache.lruList.map CacheNode.address).Nodup
  own : ∀ key iter, cache.relationMap.lookup key = some iter ↔
    ∃ node ∈ cache.lruList, node.key = key ∧ node.address = iter
  allocated : ∀ node ∈ cache.lruList, node.address < cache.allocated

theorem synced_created (capacity : Nat) : Synced (created capacity : ResschedLRUCache K V) where
  keys := List.nodup_nil
  addresses := List.nodup_nil
  own := fun key iter => by simp [created]
  allocated := fun node hnode => absurd hnode List.not_mem_nil

variable {cache : ResschedLRUCache K V}

/-! ## Following an iterator -/

theorem Synced.node?_eq (h : Synced cache) {node : CacheNode K V} (hmem : node ∈ cache.lruList) :
    cache.node? node.address = some node := by
  cases hfound : cache.node? node.address with
  | none =>
      have hnone := List.find?_eq_none.mp hfound node hmem
      exact absurd (decide_eq_true rfl) hnone
  | some found =>
      have haddress : found.address = node.address := by
        simpa using List.find?_some hfound
      have hsame := List.inj_on_of_nodup_map h.addresses (List.mem_of_find?_eq_some hfound) hmem
        haddress
      rw [hsame]

/-- The nodes of another address are those of another key. -/
theorem Synced.address_eq_iff (h : Synced cache) {node other : CacheNode K V}
    (hnode : node ∈ cache.lruList) (hother : other ∈ cache.lruList) :
    other.address = node.address ↔ other.key = node.key := by
  constructor
  · intro haddress
    rw [List.inj_on_of_nodup_map h.addresses hother hnode haddress]
  · intro hkey
    rw [List.inj_on_of_nodup_map h.keys hother hnode hkey]

/-- The nodes of the other keys. -/
def others (cache : ResschedLRUCache K V) (key : K) : List (CacheNode K V) :=
  cache.lruList.filter fun node => node.key ≠ key

theorem mem_others_iff (key : K) (node : CacheNode K V) :
    node ∈ cache.others key ↔ node ∈ cache.lruList ∧ node.key ≠ key := by
  simp [others]

theorem Synced.filter_address (h : Synced cache) {node : CacheNode K V}
    (hnode : node ∈ cache.lruList) :
    (cache.lruList.filter fun other => other.address ≠ node.address) = cache.others node.key := by
  refine List.filter_congr fun other hother => ?_
  rw [decide_eq_decide]
  exact not_congr (h.address_eq_iff hnode hother)

theorem map_others (key : K) :
    ((cache.others key).map fun node => (node.key, node.value)) =
      LruMap.without key cache.entries := by
  rw [others, LruMap.without, entries, List.filter_map]
  rfl

theorem length_others_lt {node : CacheNode K V} (hnode : node ∈ cache.lruList) :
    (cache.others node.key).length < cache.lruList.length :=
  List.length_filter_lt_length_iff_exists.mpr ⟨node, hnode, by simp⟩

/-! ## What a step does to the list -/

/-- A node of its key is in front, and the nodes of the other keys follow. -/
structure Fronted (cache after : ResschedLRUCache K V) (node : CacheNode K V) : Prop where
  list : after.lruList = node :: cache.others node.key
  map : ∀ key, after.relationMap.lookup key =
    if key = node.key then some node.address else cache.relationMap.lookup key
  capacity : after.capacity_ = cache.capacity_
  allocated : cache.allocated ≤ after.allocated
  address : node.address < after.allocated
  new : node.address < cache.allocated →
    ∃ old ∈ cache.lruList, old.key = node.key ∧ old.address = node.address

theorem Fronted.entries_eq {after : ResschedLRUCache K V} {node : CacheNode K V}
    (h : Fronted cache after node) :
    after.entries = (node.key, node.value) :: LruMap.without node.key cache.entries := by
  rw [entries, h.list, List.map_cons, map_others]

theorem Fronted.synced {after : ResschedLRUCache K V} {node : CacheNode K V}
    (h : Fronted cache after node) (hsynced : Synced cache) : Synced after := by
  have hother : ∀ other ∈ cache.others node.key, other.address ≠ node.address := by
    intro other hmem haddress
    obtain ⟨hlisted, hne⟩ := (mem_others_iff _ _).mp hmem
    obtain ⟨old, hold, hkey, hsame⟩ := h.new (haddress ▸ hsynced.allocated other hlisted)
    exact hne (((hsynced.address_eq_iff hold hlisted).mp (haddress.trans hsame.symm)).trans hkey)
  refine ⟨?_, ?_, ?_, ?_⟩
  · rw [h.list, List.map_cons, List.nodup_cons]
    refine ⟨fun hmem => ?_, hsynced.keys.sublist (List.filter_sublist.map _)⟩
    obtain ⟨other, hother, hkey⟩ := List.mem_map.mp hmem
    exact ((mem_others_iff _ _).mp hother).2 hkey
  · rw [h.list, List.map_cons, List.nodup_cons]
    refine ⟨fun hmem => ?_, hsynced.addresses.sublist (List.filter_sublist.map _)⟩
    obtain ⟨other, hmem, haddress⟩ := List.mem_map.mp hmem
    exact hother other hmem haddress
  · intro key iter
    rw [h.map, h.list]
    split_ifs with hkey
    · constructor
      · intro hiter
        exact ⟨node, List.mem_cons_self, hkey.symm, Option.some.inj hiter⟩
      · rintro ⟨found, hfound, rfl, rfl⟩
        rcases List.mem_cons.mp hfound with rfl | hmem
        · rfl
        · exact absurd hkey ((mem_others_iff _ _).mp hmem).2
    · rw [hsynced.own]
      constructor
      · rintro ⟨found, hfound, rfl, rfl⟩
        exact ⟨found, List.mem_cons_of_mem _ ((mem_others_iff _ _).mpr ⟨hfound, hkey⟩), rfl, rfl⟩
      · rintro ⟨found, hfound, rfl, rfl⟩
        rcases List.mem_cons.mp hfound with rfl | hmem
        · exact absurd rfl hkey
        · exact ⟨found, ((mem_others_iff _ _).mp hmem).1, rfl, rfl⟩
  · rw [h.list]
    intro found hfound
    rcases List.mem_cons.mp hfound with rfl | hmem
    · exact h.address
    · exact (hsynced.allocated found ((mem_others_iff _ _).mp hmem).1).trans_le h.allocated

/-! ## The operations -/

theorem Synced.lookup_of_mem (h : Synced cache) {node : CacheNode K V}
    (hnode : node ∈ cache.lruList) : cache.relationMap.lookup node.key = some node.address :=
  (h.own _ _).mpr ⟨node, hnode, rfl, rfl⟩

theorem Synced.lookup_eq_ite (h : Synced cache) {node : CacheNode K V}
    (hnode : node ∈ cache.lruList) (key : K) :
    cache.relationMap.lookup key =
      if key = node.key then some node.address else cache.relationMap.lookup key := by
  split_ifs with hkey
  · rw [hkey, h.lookup_of_mem hnode]
  · rfl

/-- A key that is cached comes to the front with its value. -/
theorem get_of_mem (h : Synced cache) {node : CacheNode K V} (hnode : node ∈ cache.lruList) :
    ∃ after, cache.get node.key = some (after, some node.value) ∧ Fronted cache after node := by
  refine ⟨{ cache with lruList := node :: cache.others node.key }, ?_, ?_⟩
  · rw [get, h.lookup_of_mem hnode]
    simp only [splice, h.node?_eq hnode, h.filter_address hnode, Option.map_some,
      Option.bind_eq_bind, Option.bind_some]
    simp [node?]
  · exact ⟨rfl, h.lookup_eq_ite hnode, rfl, Nat.le_refl _, h.allocated node hnode,
      fun _ => ⟨node, hnode, rfl, rfl⟩⟩

/-- A key that is cached comes to the front with its new value. -/
theorem put_of_mem (h : Synced cache) {node : CacheNode K V} (hnode : node ∈ cache.lruList)
    (value : V) : ∃ after fronted, cache.put node.key value = some after ∧
      Fronted cache after fronted ∧ fronted.key = node.key ∧ fronted.value = value := by
  by_cases hfirst : cache.first = some node.address
  · refine ⟨{ cache with lruList := { node with value := value } :: cache.others node.key },
      { node with value := value }, ?_, ?_, rfl, rfl⟩
    · rw [put, h.lookup_of_mem hnode]
      dsimp only
      rw [if_neg (not_not_intro hfirst), assign, h.node?_eq hnode, Option.map_some]
      congr 2
      cases hlist : cache.lruList with
      | nil => simp [hlist] at hnode
      | cons front rest =>
          have hfront : front ∈ cache.lruList := hlist ▸ List.mem_cons_self
          rw [first, hlist, List.head?_cons, Option.map_some] at hfirst
          have hsame : front = node :=
            List.inj_on_of_nodup_map h.addresses hfront hnode (Option.some.inj hfirst)
          subst hsame
          have hkeys := h.keys
          rw [hlist, List.map_cons, List.nodup_cons] at hkeys
          have hrest : ∀ other ∈ rest, other.key ≠ front.key := by
            intro other hother heq
            exact hkeys.1 (heq ▸ List.mem_map_of_mem hother)
          rw [List.map_cons, if_pos rfl, others, hlist, List.filter_cons_of_neg (by simp),
            List.filter_eq_self.mpr fun other hother => by simpa using hrest other hother]
          congr 1
          refine (List.map_congr_left fun other hother => ?_).trans (List.map_id rest)
          refine if_neg fun haddress => hrest other hother ?_
          exact (h.address_eq_iff hfront (hlist ▸ List.mem_cons_of_mem _ hother)).mp haddress
    · exact ⟨rfl, fun key => h.lookup_eq_ite hnode key, rfl, Nat.le_refl _,
        h.allocated node hnode, fun _ => ⟨node, hnode, rfl, rfl⟩⟩
  · refine ⟨push_front { cache with lruList := cache.others node.key } node.key value,
      ⟨cache.allocated, node.key, value⟩, ?_, ?_, rfl, rfl⟩
    · rw [put, h.lookup_of_mem hnode]
      dsimp only
      rw [if_pos hfirst, erase, h.node?_eq hnode, h.filter_address hnode]
      rfl
    · exact ⟨rfl, fun _ => AssocMap.lookup_insert_ite _ _ _ _, rfl, Nat.le_succ _, Nat.lt_succ_self _,
        fun hlt => absurd hlt (Nat.lt_irrefl _)⟩

/-- A key that is not cached comes to the front. -/
theorem fronted_push_front (key : K) (value : V) (hnew : ∀ node ∈ cache.lruList, node.key ≠ key) :
    Fronted cache (cache.push_front key value) ⟨cache.allocated, key, value⟩ := by
  refine ⟨?_, fun _ => AssocMap.lookup_insert_ite _ _ _ _, rfl, Nat.le_succ _, Nat.lt_succ_self _,
    fun hlt => absurd hlt (Nat.lt_irrefl _)⟩
  rw [push_front, others, List.filter_eq_self.mpr]
  intro node hnode
  simpa using hnew node hnode

/-- The last node goes with its key. -/
theorem pop_back_spec (h : Synced cache) {front : List (CacheNode K V)} {back : CacheNode K V}
    (hlist : cache.lruList = front ++ [back]) :
    ∃ after, cache.pop_back = some after ∧ after.lruList = front ∧ Synced after ∧
      after.capacity_ = cache.capacity_ := by
  refine ⟨⟨cache.capacity_, front, cache.relationMap.erase back.key, cache.allocated⟩, ?_, rfl, ?_,
    rfl⟩
  · rw [pop_back, hlist, List.getLast?_concat, Option.map_some, List.dropLast_concat]
  · have hback : ∀ node ∈ front, node.key ≠ back.key := by
      have hkeys := h.keys
      rw [hlist, List.map_append, List.nodup_append] at hkeys
      exact fun node hnode => hkeys.2.2 _ (List.mem_map_of_mem hnode) _ (by simp)
    have hsub : front.Sublist cache.lruList := hlist ▸ List.sublist_append_left front [back]
    refine ⟨h.keys.sublist (hsub.map _), h.addresses.sublist (hsub.map _), ?_,
      fun node hnode => h.allocated node (hsub.subset hnode)⟩
    intro key iter
    rw [AssocMap.lookup_erase_ite]
    by_cases hkey : key = back.key
    · rw [if_pos hkey]
      refine iff_of_false (Option.some_ne_none iter).symm ?_
      rintro ⟨node, hnode, hsame, -⟩
      exact hback node hnode (hsame.trans hkey)
    · rw [if_neg hkey, h.own]
      constructor
      · rintro ⟨node, hnode, hsame, haddress⟩
        rw [hlist, List.mem_append, List.mem_singleton] at hnode
        rcases hnode with hfront | rfl
        · exact ⟨node, hfront, hsame, haddress⟩
        · exact absurd hsame.symm hkey
      · rintro ⟨node, hnode, hsame⟩
        exact ⟨node, hsub.subset hnode, hsame⟩

/-! ## The calls -/

/-- The cache stands for the map. -/
structure Simulates (capacity : Nat) (cache : ResschedLRUCache K V) (m : LruMap K V) : Prop where
  synced : Synced cache
  represents : LruMap.Represents cache.entries m
  capacity_eq : cache.capacity_ = capacity
  bounded : cache.lruList.length ≤ capacity

theorem simulates_created (capacity : Nat) :
    Simulates capacity (created capacity : ResschedLRUCache K V) LruMap.empty :=
  ⟨synced_created capacity, LruMap.represents_empty, rfl, Nat.zero_le _⟩

variable {capacity : Nat} {m : LruMap K V}

theorem Simulates.fronted (h : Simulates capacity cache m) {after : ResschedLRUCache K V}
    {node : CacheNode K V} (hfronted : Fronted cache after node)
    (hroom : (cache.others node.key).length < capacity) :
    Simulates capacity after (m.touch node.key node.value) := by
  refine ⟨hfronted.synced h.synced, ?_, hfronted.capacity.trans h.capacity_eq, ?_⟩
  · rw [hfronted.entries_eq]
    exact h.represents.touch node.key node.value
  · rw [hfronted.list]
    exact hroom

theorem Simulates.find?_eq (h : Simulates capacity cache m) {node : CacheNode K V}
    (hnode : node ∈ cache.lruList) : m.find? node.key = some node.value :=
  (h.represents.mem_iff _ _).mp (List.mem_map.mpr ⟨node, hnode, rfl⟩)

theorem Simulates.find?_eq_none (h : Simulates capacity cache m) {key : K}
    (hkey : ∀ node ∈ cache.lruList, node.key ≠ key) : m.find? key = none := by
  rw [h.represents.find?_eq_none_iff]
  intro hmem
  obtain ⟨entry, hentry, hsame⟩ := List.mem_map.mp hmem
  obtain ⟨node, hnode, rfl⟩ := List.mem_map.mp hentry
  exact hkey node hnode hsame

theorem Synced.lookup_eq_none (h : Synced cache) {key : K}
    (hkey : ∀ node ∈ cache.lruList, node.key ≠ key) : cache.relationMap.lookup key = none := by
  refine Option.eq_none_iff_forall_not_mem.mpr fun iter hiter => ?_
  obtain ⟨node, hnode, hsame, -⟩ := (h.own key iter).mp hiter
  exact hkey node hnode hsame

/-- Room is made for a new key: nothing goes while there is room, the last node otherwise. -/
theorem Simulates.make_room (h : Simulates capacity cache m) (hcapacity : 1 ≤ capacity) {key : K}
    (hkey : ∀ node ∈ cache.lruList, node.key ≠ key) :
    ∃ roomy, cache.evictIfFull = some roomy ∧
      Simulates capacity roomy ((m.victim capacity key).elim m m.evict) ∧
      roomy.lruList.length < capacity ∧ ∀ node ∈ roomy.lruList, node.key ≠ key := by
  have hsize : m.size = cache.lruList.length := by
    rw [h.represents.size_eq, entries, List.length_map]
  have hvictim : m.victim capacity key =
      if capacity ≤ cache.lruList.length then m.leastRecent else none := by
    rw [LruMap.victim, h.find?_eq_none hkey, hsize]
    simp
  rw [hvictim, evictIfFull, h.capacity_eq]
  by_cases hfull : capacity ≤ cache.lruList.length
  · obtain hempty | ⟨front, back, hlist⟩ := cache.lruList.eq_nil_or_concat
    · rw [hempty] at hfull
      exact absurd (hcapacity.trans hfull) (Nat.not_succ_le_zero 0)
    · rw [List.concat_eq_append] at hlist
      have hbound := h.bounded
      rw [hlist, List.length_append, List.length_singleton] at hbound
      have hrepresents := h.represents
      rw [entries, hlist, List.map_append] at hrepresents
      obtain ⟨popped, hpop, hfront, hsynced, hsame⟩ := pop_back_spec h.synced hlist
      have hentries : popped.entries = LruMap.without back.key cache.entries := by
        have hkeys := hrepresents.nodup
        rw [List.map_append, List.nodup_append] at hkeys
        rw [entries, hfront, entries, hlist, List.map_append, LruMap.without, List.filter_append,
          ← LruMap.without, LruMap.without_eq_self]
        · simp
        · exact fun hmem => hkeys.2.2 _ hmem _ (List.mem_singleton_self back.key) rfl
      rw [if_pos hfull, if_pos hfull, hrepresents.leastRecent_eq]
      refine ⟨popped, hpop, ⟨hsynced, ?_, hsame.trans h.capacity_eq, ?_⟩, ?_, ?_⟩
      · rw [hentries]
        exact h.represents.evict back.key
      · rw [hfront]
        exact (Nat.le_succ _).trans hbound
      · rw [hfront]
        exact hbound
      · rw [hfront]
        intro node hnode
        exact hkey node (hlist ▸ List.mem_append_left _ hnode)
  · rw [if_neg hfull, if_neg hfull]
    exact ⟨cache, rfl, h, Nat.lt_of_not_le hfull, hkey⟩

/-- A call succeeds, returns what the map returns, and leaves the cache standing for the map. -/
theorem handle_simulates (h : Simulates capacity cache m) (hcapacity : 1 ≤ capacity)
    (call : LruCall K V) :
    ∃ after, cache.handle call = some (after, (m.handle capacity call).2) ∧
      Simulates capacity after (m.handle capacity call).1 := by
  have hcases : ∀ key, (∃ node ∈ cache.lruList, node.key = key) ∨
      ∀ node ∈ cache.lruList, node.key ≠ key := by
    intro key
    by_cases hcached : ∃ node ∈ cache.lruList, node.key = key
    · exact Or.inl hcached
    · exact Or.inr fun node hnode hkey => hcached ⟨node, hnode, hkey⟩
  cases call with
  | get key =>
      rcases hcases key with ⟨node, hnode, rfl⟩ | hnew
      · obtain ⟨after, hget, hfronted⟩ := get_of_mem h.synced hnode
        rw [LruMap.handle, h.find?_eq hnode]
        exact ⟨after, hget,
          h.fronted hfronted ((length_others_lt hnode).trans_le h.bounded)⟩
      · rw [LruMap.handle, h.find?_eq_none hnew]
        refine ⟨cache, ?_, h⟩
        rw [handle, get, h.synced.lookup_eq_none hnew]
  | put key value =>
      rcases hcases key with ⟨node, hnode, rfl⟩ | hnew
      · obtain ⟨after, fronted, hput, hfronted, hkey, rfl⟩ := put_of_mem h.synced hnode value
        have hvictim : m.victim capacity node.key = none := by
          rw [LruMap.victim, h.find?_eq hnode]
          simp
        rw [LruMap.handle, hvictim]
        refine ⟨after, ?_, ?_⟩
        · rw [handle, hput]
          rfl
        · have hroom := (length_others_lt hnode).trans_le h.bounded
          rw [← hkey] at hroom ⊢
          exact h.fronted hfronted hroom
      · obtain ⟨roomy, hroomy, hsimulates, hroom, hrest⟩ := h.make_room hcapacity hnew
        refine ⟨roomy.push_front key value, ?_, ?_⟩
        · rw [handle, put, h.synced.lookup_eq_none hnew]
          rw [hroomy]
          rfl
        · refine hsimulates.fronted (fronted_push_front key value hrest) ?_
          exact (List.length_filter_le _ _).trans_lt hroom

/-- A run of calls succeeds and returns what the map returns. -/
theorem serve_simulates (h : Simulates capacity cache m) (hcapacity : 1 ≤ capacity)
    (calls : List (LruCall K V)) :
    ∃ after, cache.serve calls = some (after, (m.serve capacity calls).2) ∧
      Simulates capacity after (m.serve capacity calls).1 := by
  induction calls generalizing cache m with
  | nil => exact ⟨cache, rfl, h⟩
  | cons call calls ih =>
      obtain ⟨next, hcall, hnext⟩ := handle_simulates h hcapacity call
      obtain ⟨after, hcalls, hafter⟩ := ih hnext
      refine ⟨after, ?_, hafter⟩
      rw [serve, hcall, Option.bind_eq_bind, Option.bind_some]
      dsimp only
      rw [hcalls]
      rfl

/-- From its creation with room for at least one key on, the cache answers every sequence of
calls as the map that gives up the least recently used key does. It holds for each key the value
put last, unless the key has been evicted since; its list and its map hold the same keys, each
iterator being that of its own key's node; and it never holds more keys than its capacity. -/
theorem lru_refinement (capacity : Nat) (hcapacity : 1 ≤ capacity) (calls : List (LruCall K V)) :
    ∃ cache, (created capacity).serve calls =
        some (cache, (LruMap.empty.serve capacity calls).2) ∧
      LruMap.Represents cache.entries (LruMap.empty.serve capacity calls).1 ∧
      (∀ key value, (key, value) ∈ cache.entries ↔
        WriteLog.apply (LruMap.empty.history capacity calls) (fun _ => none) key = some value) ∧
      Synced cache ∧ cache.lruList.length ≤ capacity := by
  obtain ⟨cache, hserve, hsimulates⟩ :=
    serve_simulates (simulates_created capacity) hcapacity calls
  refine ⟨cache, hserve, hsimulates.represents, ?_, hsimulates.synced, hsimulates.bounded⟩
  intro key value
  rw [hsimulates.represents.mem_iff, LruMap.find?_serve]
  rfl

/-- Five calls on a cache with room for two pairs. -/
def fiveCalls : List (LruCall String Nat) :=
  [.put "a" 0, .put "b" 1, .get "a", .put "c" 2, .get "b"]

/-- The third key put takes the place of the one that has not been read. -/
theorem lru_refinement_two :
    1 ≤ 2 ∧ ∃ cache, (created 2).serve fiveCalls =
      some (cache, [none, none, some 0, none, none]) ∧ cache.lruList.length ≤ 2 := by
  have hanswers : (LruMap.empty.serve 2 fiveCalls).2 = [none, none, some 0, none, none] := by
    decide
  obtain ⟨cache, hserve, -, -, -, hbounded⟩ := lru_refinement 2 (by decide) fiveCalls
  rw [hanswers] at hserve
  exact ⟨by decide, cache, hserve, hbounded⟩

end ResSched.ResschedLRUCache
