import ResSched.Library.Transition
import ResSched.Model.Executor.Init
import Mathlib.Data.Finset.Card
import Mathlib.Data.Finset.Range

/-! # Reassembly of a batched initialisation -/

namespace ResSched.Executor

open Transition

/-! ## The specification -/

/-- The pieces a context is cut into. -/
def pieces (env : External) (context : Json Bytes) : List Bytes :=
  batches IPC_BATCHES_SIZE (DumpJsonToString env context)

/-- The messages of a context; none when it is not sent in batches. -/
def messages (env : External) (context : Json Bytes) : List (Json Bytes) :=
  (ProcessJson env context).getD []

/-- The payload all pieces make together. -/
def whole (env : External) (context : Json Bytes) : Json Bytes :=
  initPayload env (pieces env context).flatten

/-- A receiver that remembers which of the messages have come in since it last assembled them. -/
structure Receiver where
  isInit : Bool
  received : Finset Nat
  calls : List (Json Bytes)

def Receiver.receive (receiver : Receiver) (messageNumber : Nat) (payload : Json Bytes)
    (index : Nat) : Receiver :=
  if receiver.isInit then receiver
  else
    let received := insert index receiver.received
    if received = Finset.range messageNumber then
      ⟨wellShaped payload, ∅, receiver.calls ++ [payload]⟩
    else ⟨false, received, receiver.calls⟩

/-- The executor beside the receiver, with the indices that have come in since `messageNumber`
of them last did. -/
structure Delivery where
  mgr : ResSchedExeMgr
  receiver : Receiver
  window : List Nat

def Delivery.start : Delivery :=
  ⟨ResSchedExeMgr.created, ⟨false, ∅, []⟩, []⟩

section

variable (env : External) (context : Json Bytes)

/-- The message of an index reaches the executor. -/
def Delivery.handle (delivery : Delivery) (index : Fin (messages env context).length) :
    Delivery where
  mgr := InitPluginMgrPretreatment env delivery.mgr (messages env context)[index]
  receiver :=
    delivery.receiver.receive (messages env context).length (whole env context) index
  window :=
    if delivery.mgr.isInit then delivery.window
    else if delivery.window.length + 1 = (messages env context).length then []
    else delivery.window ++ [index.val]

/-- `InitPluginMgr` has been called exactly when all messages had come in, with all pieces. -/
def CallsAgree (delivery : Delivery) : Prop :=
  delivery.mgr.initCalls = delivery.receiver.calls

/-- Messages that are as many as the batch has are all different. -/
def NoneRepeated (delivery : Delivery) (index : Fin (messages env context).length) : Prop :=
  delivery.mgr.isInit = false →
    delivery.window.length + 1 = (messages env context).length →
    (delivery.window ++ [index.val]).Nodup

/-! ## The messages of a context -/

theorem ProcessJson_eq :
    ProcessJson env context =
      if (DumpJsonToString env context).length > MAX_IPC_MESSAGE_SIZE then
        some ((pieces env context).mapIdx (jsonIpc (pieces env context).length))
      else none := by
  unfold ProcessJson pieces
  rfl

theorem messages_eq (h : 0 < (messages env context).length) :
    messages env context = (pieces env context).mapIdx (jsonIpc (pieces env context).length) := by
  unfold messages at h ⊢
  rw [ProcessJson_eq] at h ⊢
  by_cases hlong : (DumpJsonToString env context).length > MAX_IPC_MESSAGE_SIZE
  · rw [if_pos hlong, Option.getD_some]
  · rw [if_neg hlong] at h
    exact absurd h (Nat.lt_irrefl 0)

theorem length_messages (h : 0 < (messages env context).length) :
    (messages env context).length = (pieces env context).length := by
  rw [messages_eq env context h, List.length_mapIdx]

theorem batchOf_members (msg : Bytes) (index number : Json Bytes) :
    batchOf env (.object [(STR_IPC_MESSAGE, .string msg), (STR_MESSAGE_INDEX, index),
      (STR_MESSAGE_NUMBER, number)]) =
      (number? env index).bind fun index => (number? env number).map fun number =>
        (index, number, msg) := by
  have hindex : STR_IPC_MESSAGE ≠ STR_MESSAGE_INDEX := by decide
  have hnumber : STR_IPC_MESSAGE ≠ STR_MESSAGE_NUMBER := by decide
  have hother : STR_MESSAGE_INDEX ≠ STR_MESSAGE_NUMBER := by decide
  simp only [batchOf, Json.find?, List.find?_cons, hindex, hnumber, hother, decide_true,
    decide_false, Option.map_some, Option.bind_some, Json.string?]
  cases number? env index with
  | none => rfl
  | some index => cases number? env number <;> rfl

theorem batchOf_jsonIpc (messageNumber messageIndex : Nat) (msg : Bytes) :
    batchOf env (jsonIpc messageNumber messageIndex msg) =
      some ((messageIndex : Int), (messageNumber : Int), msg) :=
  batchOf_members env msg (.int messageIndex) (.int messageNumber)

theorem getElem?_messages (index : Nat) (h : index < (messages env context).length) :
    (messages env context)[index]? = some (jsonIpc (messages env context).length index
      ((pieces env context).getD index [])) := by
  have hpos : 0 < (messages env context).length := Nat.zero_lt_of_lt h
  have hlength := length_messages env context hpos
  have hlt : index < (pieces env context).length := by
    rw [← hlength]
    exact h
  rw [hlength, messages_eq env context hpos, List.getElem?_mapIdx, List.getElem?_eq_getElem hlt,
    Option.map_some, List.getD_eq_getElem?_getD, List.getElem?_eq_getElem hlt, Option.getD_some]

theorem batchOf_messages (index : Fin (messages env context).length) :
    batchOf env (messages env context)[index] =
      some ((index.val : Int), ((messages env context).length : Int),
        (pieces env context).getD index.val []) := by
  have hget := getElem?_messages env context index.val index.isLt
  rw [List.getElem?_eq_getElem index.isLt, Option.some.injEq] at hget
  rw [Fin.getElem_fin, hget, batchOf_jsonIpc]

end

/-! ## The messages received so far -/

/-- The map holds the pieces of the indices of the window. -/
structure Holds (pieces : List Bytes) (window : List Nat) (ipcMessage : AssocMap Int Bytes) :
    Prop where
  keys : ∀ key, key ∈ ipcMessage.keys ↔ ∃ index ∈ window, key = (index : Int)
  lookup : ∀ index ∈ window, ipcMessage.lookup (index : Int) = some (pieces.getD index [])

theorem holds_nil (pieces : List Bytes) : Holds pieces [] ∅ :=
  ⟨by simp, by simp⟩

theorem insertMessage_holds (pieces : List Bytes) (window : List Nat)
    (ipcMessage : AssocMap Int Bytes) (index : Nat) (h : Holds pieces window ipcMessage) :
    Holds pieces (window ++ [index])
      (insertMessage ipcMessage index (pieces.getD index [])) := by
  rw [insertMessage]
  by_cases hmem : index ∈ window
  · have hlookup := h.lookup index hmem
    rw [if_pos (by simp [hlookup])]
    refine ⟨?_, ?_⟩
    · intro key
      rw [h.keys key]
      constructor
      · rintro ⟨other, hother, rfl⟩
        exact ⟨other, List.mem_append_left _ hother, rfl⟩
      · rintro ⟨other, hother, rfl⟩
        rcases List.mem_append.mp hother with hold | hnew
        · exact ⟨other, hold, rfl⟩
        · obtain rfl := List.mem_singleton.mp hnew
          exact ⟨other, hmem, rfl⟩
    · intro other hother
      rcases List.mem_append.mp hother with hold | hnew
      · exact h.lookup other hold
      · obtain rfl := List.mem_singleton.mp hnew
        exact hlookup
  · have hnone : ipcMessage.lookup (index : Int) = none := by
      rw [AList.lookup_eq_none, AList.mem_keys, h.keys]
      rintro ⟨other, hother, heq⟩
      exact hmem (by rwa [Int.ofNat_inj.mp heq])
    rw [if_neg (by simp [hnone])]
    refine ⟨?_, ?_⟩
    · intro key
      rw [AssocMap.mem_keys_iff]
      simp only [AssocMap.lookup_insert_ite]
      by_cases hkey : key = (index : Int)
      · subst hkey
        simp
      · simp only [if_neg hkey]
        rw [← AssocMap.mem_keys_iff, h.keys]
        constructor
        · rintro ⟨other, hother, rfl⟩
          exact ⟨other, List.mem_append_left _ hother, rfl⟩
        · rintro ⟨other, hother, rfl⟩
          rcases List.mem_append.mp hother with hold | hnew
          · exact ⟨other, hold, rfl⟩
          · exact absurd (by rw [List.mem_singleton.mp hnew]) hkey
    · intro other hother
      rw [AssocMap.lookup_insert_ite]
      rcases List.mem_append.mp hother with hold | hnew
      · rw [if_neg, h.lookup other hold]
        intro heq
        exact hmem (Int.ofNat_inj.mp heq ▸ hold)
      · obtain rfl := List.mem_singleton.mp hnew
        simp

/-- Indices below `n` that are `n` many and all different are all the indices below `n`. -/
theorem mem_of_nodup_of_length (indices : List Nat) (n : Nat) (hlt : ∀ index ∈ indices, index < n)
    (hnodup : indices.Nodup) (hlength : indices.length = n) (index : Nat) :
    index ∈ indices ↔ index < n := by
  have hcard : indices.toFinset = Finset.range n := by
    apply Finset.eq_of_subset_of_card_le
    · intro other hother
      exact Finset.mem_range.mpr (hlt other (List.mem_toFinset.mp hother))
    · rw [List.toFinset_card_of_nodup hnodup, Finset.card_range, hlength]
  rw [← List.mem_toFinset, hcard, Finset.mem_range]

/-- Once every index is held, the joined messages are all pieces in order. -/
theorem joinMessages_eq (pieces : List Bytes) (window : List Nat) (ipcMessage : AssocMap Int Bytes)
    (h : Holds pieces window ipcMessage) (hall : ∀ index, index ∈ window ↔ index < pieces.length) :
    joinMessages ipcMessage = pieces.flatten := by
  have hkeys : AssocMap.ascendingKeys ipcMessage =
      (List.range pieces.length).map (fun index : Nat => (index : Int)) := by
    apply AssocMap.ascendingKeys_eq
    · rw [List.pairwise_map]
      exact List.pairwise_lt_range.imp fun hlt => Int.ofNat_lt.mpr hlt
    · intro key
      rw [h.keys key]
      simp only [List.mem_map, List.mem_range, hall]
      constructor
      · rintro ⟨index, hlt, rfl⟩
        exact ⟨index, hlt, rfl⟩
      · rintro ⟨index, hlt, rfl⟩
        exact ⟨index, hlt, rfl⟩
  have hvalues : ∀ index ∈ List.range pieces.length,
      (ipcMessage.lookup (index : Int)).getD [] = pieces.getD index [] := by
    intro index hindex
    rw [h.lookup index ((hall index).mpr (List.mem_range.mp hindex)), Option.getD_some]
  have hpieces : (List.range pieces.length).map (fun index => pieces.getD index []) = pieces := by
    apply List.ext_getElem
    · simp
    · intro index _ hlt
      simp [hlt]
  rw [joinMessages]
  rw [hkeys, List.flatMap_map, List.flatMap_def, List.map_congr_left hvalues, hpieces]

/-! ## The calls of `InitPluginMgr` -/

theorem parsePlugins_spec (mgr : ResSchedExeMgr) (payload : Json Bytes) :
    (parsePlugins mgr payload).isInit = mgr.isInit ∧
      (parsePlugins mgr payload).initCalls = mgr.initCalls := by
  rw [parsePlugins]
  split
  · dsimp only
    split_ifs <;> exact ⟨rfl, rfl⟩
  · exact ⟨rfl, rfl⟩

/-- What `InitPluginMgr` does to an executor that is not initialised. -/
structure Initialised (payload : Json Bytes) (before after : ResSchedExeMgr) : Prop where
  initCalls : after.initCalls = before.initCalls ++ [payload]
  isInit : after.isInit = wellShaped payload
  threw : after.threw = true → before.threw = true ∨ after.isInit = true

theorem InitPluginMgr_spec (mgr : ResSchedExeMgr) (payload : Json Bytes)
    (hinit : mgr.isInit = false) : Initialised payload mgr (InitPluginMgr mgr payload) := by
  rw [InitPluginMgr]
  dsimp only
  split_ifs with hshape
  · obtain ⟨hafter, hcalls⟩ := parsePlugins_spec
      { mgr with isInit := true, initCalls := mgr.initCalls ++ [payload] } payload
    exact ⟨hcalls, hafter.trans hshape.symm, fun _ => Or.inr hafter⟩
  · exact ⟨rfl, by simpa [hinit] using hshape, fun h => Or.inl h⟩

/-! ## One message -/

section

variable (env : External) (context : Json Bytes)

/-- What holds before every message while no batch has been assembled from repeated messages. -/
structure Tracked (delivery : Delivery) : Prop where
  calls : delivery.mgr.initCalls = delivery.receiver.calls
  isInit : delivery.mgr.isInit = delivery.receiver.isInit
  threw : delivery.mgr.threw = true → delivery.mgr.isInit = true
  short : delivery.mgr.isInit = false → delivery.window = [] ∨
    delivery.window.length < (messages env context).length
  below : delivery.mgr.isInit = false →
    ∀ index ∈ delivery.window, index < (messages env context).length
  received : delivery.mgr.isInit = false →
    delivery.receiver.received = delivery.window.toFinset
  ipcNumber : delivery.mgr.isInit = false → delivery.mgr.ipcNumber = delivery.window.length
  ipcMessage : delivery.mgr.isInit = false →
    Holds (pieces env context) delivery.window delivery.mgr.ipcMessage

theorem start_tracked : Tracked env context Delivery.start where
  calls := rfl
  isInit := rfl
  threw := by simp [Delivery.start, ResSchedExeMgr.created]
  short := fun _ => Or.inl rfl
  below := by simp [Delivery.start]
  received := fun _ => rfl
  ipcNumber := fun _ => rfl
  ipcMessage := fun _ => holds_nil _

theorem length_window_lt {delivery : Delivery} (h : Tracked env context delivery)
    (hinit : delivery.mgr.isInit = false) (index : Fin (messages env context).length) :
    delivery.window.length < (messages env context).length := by
  rcases h.short hinit with hnil | hlt
  · rw [hnil]
    exact Nat.zero_lt_of_lt index.isLt
  · exact hlt

theorem handle_initialised (delivery : Delivery) (index : Fin (messages env context).length)
    (h : Tracked env context delivery) (hinit : delivery.mgr.isInit = true) :
    delivery.handle env context index = delivery := by
  have hreceiver : delivery.receiver.isInit = true := h.isInit.symm.trans hinit
  unfold Delivery.handle InitPluginMgrPretreatment Receiver.receive
  rw [if_pos hinit, if_pos hreceiver, if_pos hinit]

/-- A message that does not complete a batch is stored. -/
theorem pretreatment_store (mgr : ResSchedExeMgr) (index : Fin (messages env context).length)
    (hinit : mgr.isInit = false) (hnumber : mgr.ipcNumber + 1 ≠ (messages env context).length) :
    InitPluginMgrPretreatment env mgr (messages env context)[index] =
      { mgr with
        ipcMessage := insertMessage mgr.ipcMessage index ((pieces env context).getD index.val [])
        ipcNumber := mgr.ipcNumber + 1 } := by
  rw [InitPluginMgrPretreatment]
  rw [if_neg (by simp [hinit]), batchOf_messages]
  dsimp only
  rw [if_neg (by omega)]

/-- The message that completes a batch has it assembled. -/
theorem pretreatment_complete (mgr : ResSchedExeMgr) (index : Fin (messages env context).length)
    (hinit : mgr.isInit = false) (hnumber : mgr.ipcNumber + 1 = (messages env context).length) :
    ∃ before payload after, Initialised payload before after ∧
      before.initCalls = mgr.initCalls ∧ before.threw = mgr.threw ∧
      payload = initPayload env (joinMessages
        (insertMessage mgr.ipcMessage index ((pieces env context).getD index.val []))) ∧
      InitPluginMgrPretreatment env mgr (messages env context)[index] =
        if after.threw then after else { after with ipcNumber := 0, ipcMessage := ∅ } := by
  refine ⟨_, _, _, InitPluginMgr_spec
    { mgr with
      ipcMessage := insertMessage mgr.ipcMessage index ((pieces env context).getD index.val [])
      ipcNumber := mgr.ipcNumber + 1 }
    (initPayload env (joinMessages
      (insertMessage mgr.ipcMessage index ((pieces env context).getD index.val [])))) hinit,
    rfl, rfl, rfl, ?_⟩
  rw [InitPluginMgrPretreatment]
  rw [if_neg (by simp [hinit]), batchOf_messages]
  dsimp only
  rw [if_pos (by omega)]

/-- The receiver assembles when all messages have come in, and waits otherwise. -/
theorem receive_complete (receiver : Receiver) (messageNumber : Nat) (payload : Json Bytes)
    (index : Nat) (hinit : receiver.isInit = false)
    (hall : insert index receiver.received = Finset.range messageNumber) :
    receiver.receive messageNumber payload index =
      ⟨wellShaped payload, ∅, receiver.calls ++ [payload]⟩ := by
  rw [Receiver.receive]
  rw [if_neg (by simp [hinit])]
  dsimp only
  rw [if_pos hall]

theorem receive_store (receiver : Receiver) (messageNumber : Nat) (payload : Json Bytes)
    (index : Nat) (hinit : receiver.isInit = false)
    (hsome : insert index receiver.received ≠ Finset.range messageNumber) :
    receiver.receive messageNumber payload index =
      ⟨false, insert index receiver.received, receiver.calls⟩ := by
  rw [Receiver.receive]
  rw [if_neg (by simp [hinit])]
  dsimp only
  rw [if_neg hsome]

theorem insert_window (window : List Nat) (index : Nat) :
    insert index window.toFinset = (window ++ [index]).toFinset := by
  ext other
  simp

/-- Fewer messages than the batch has are not all of them, nor are repeated ones. -/
theorem insert_window_ne (window : List Nat) (index messageNumber : Nat)
    (h : (window ++ [index]).length < messageNumber ∨
      (window ++ [index]).length = messageNumber ∧ ¬ (window ++ [index]).Nodup) :
    insert index window.toFinset ≠ Finset.range messageNumber := by
  rw [insert_window]
  intro heq
  have hcard : (window ++ [index]).toFinset.card = messageNumber := by
    rw [heq, Finset.card_range]
  rcases h with hlt | ⟨hlength, hrepeated⟩
  · have hle := List.toFinset_card_le (window ++ [index])
    omega
  · exact hrepeated (Multiset.toFinset_card_eq_card_iff_nodup.mp (hcard.trans hlength.symm))

/-- Every message in hand, the new one included, is one of the batch. -/
theorem window_below {delivery : Delivery} (h : Tracked env context delivery)
    (hinit : delivery.mgr.isInit = false) (index : Fin (messages env context).length) :
    ∀ other ∈ delivery.window ++ [index.val], other < (messages env context).length := by
  intro other hother
  rcases List.mem_append.mp hother with hold | hnew
  · exact h.below hinit other hold
  · rw [List.mem_singleton.mp hnew]
    exact index.isLt

/-- A message that does not complete a batch. -/
theorem store_tracked (delivery : Delivery) (index : Fin (messages env context).length)
    (h : Tracked env context delivery) (hinit : delivery.mgr.isInit = false)
    (hnotFull : delivery.window.length + 1 ≠ (messages env context).length) :
    Tracked env context (delivery.handle env context index) := by
  have hreceiver : delivery.receiver.isInit = false := h.isInit.symm.trans hinit
  have hlt := length_window_lt env context h hinit index
  have hcount := h.ipcNumber hinit
  have hshort : (delivery.window ++ [index.val]).length < (messages env context).length := by
    rw [List.length_append, List.length_singleton]
    omega
  have hwaits : insert index.val delivery.receiver.received ≠
      Finset.range (messages env context).length := by
    rw [h.received hinit]
    exact insert_window_ne _ _ _ (Or.inl hshort)
  rw [Delivery.handle]
  rw [pretreatment_store env context delivery.mgr index hinit (by omega),
    receive_store _ _ _ _ hreceiver hwaits, if_neg (by simp [hinit]), if_neg hnotFull]
  refine ⟨h.calls, hinit, h.threw, fun _ => Or.inr hshort,
    fun _ => window_below env context h hinit index, ?_, ?_, ?_⟩
  · intro _
    rw [h.received hinit, insert_window]
  · intro _
    simp [hcount]
  · intro _
    exact insertMessage_holds (pieces env context) delivery.window delivery.mgr.ipcMessage
      index.val (h.ipcMessage hinit)

/-- A message that completes a batch of different messages. -/
theorem complete_tracked (delivery : Delivery) (index : Fin (messages env context).length)
    (h : Tracked env context delivery) (hinit : delivery.mgr.isInit = false)
    (hfull : delivery.window.length + 1 = (messages env context).length)
    (hnodup : (delivery.window ++ [index.val]).Nodup) :
    Tracked env context (delivery.handle env context index) := by
  have hreceiver : delivery.receiver.isInit = false := h.isInit.symm.trans hinit
  have hnot : ¬ delivery.mgr.isInit = true := by simp [hinit]
  have hcount := h.ipcNumber hinit
  have hall := mem_of_nodup_of_length _ _ (window_below env context h hinit index) hnodup
    (by simpa using hfull)
  have hassembled : insert index.val delivery.receiver.received =
      Finset.range (messages env context).length := by
    rw [h.received hinit, insert_window]
    ext other
    rw [List.mem_toFinset, hall other, Finset.mem_range]
  obtain ⟨before, payload, after, hspec, hcalls, hthrew, hpayload, heq⟩ :=
    pretreatment_complete env context delivery.mgr index hinit (by omega)
  have hwhole : payload = whole env context := by
    have hholds := insertMessage_holds (pieces env context) delivery.window
      delivery.mgr.ipcMessage index.val (h.ipcMessage hinit)
    rw [hpayload, whole, joinMessages_eq (pieces env context) _ _ hholds]
    intro other
    rw [hall other, length_messages env context (Nat.zero_lt_of_lt index.isLt)]
  have hnothrow : after.threw = true → after.isInit = true := by
    intro hafter
    rcases hspec.threw hafter with hbefore | hdone
    · exact absurd (h.threw (hthrew ▸ hbefore)) (by simp [hinit])
    · exact hdone
  have hafterCalls : after.initCalls = delivery.receiver.calls ++ [whole env context] := by
    rw [hspec.initCalls, hcalls, h.calls, hwhole]
  have hafterInit : after.isInit = wellShaped (whole env context) := by
    rw [hspec.isInit, hwhole]
  rw [Delivery.handle]
  rw [heq, receive_complete _ _ _ _ hreceiver hassembled, if_neg hnot, if_pos hfull]
  split_ifs with hthrow
  · have hnotInit : after.isInit ≠ false := by simp [hnothrow hthrow]
    exact ⟨hafterCalls, hafterInit, hnothrow, fun h' => absurd h' hnotInit,
      fun h' => absurd h' hnotInit, fun h' => absurd h' hnotInit,
      fun h' => absurd h' hnotInit, fun h' => absurd h' hnotInit⟩
  · exact ⟨hafterCalls, hafterInit, hnothrow, fun _ => Or.inl rfl, by simp,
      fun _ => rfl, fun _ => rfl, fun _ => holds_nil _⟩

theorem handle_tracked (delivery : Delivery) (index : Fin (messages env context).length)
    (h : Tracked env context delivery) (hnone : NoneRepeated env context delivery index) :
    Tracked env context (delivery.handle env context index) := by
  cases hinit : delivery.mgr.isInit with
  | true => rwa [handle_initialised env context delivery index h hinit]
  | false =>
      by_cases hfull : delivery.window.length + 1 = (messages env context).length
      · exact complete_tracked env context delivery index h hinit hfull (hnone hinit hfull)
      · exact store_tracked env context delivery index h hinit hfull

/-- A batch assembled from repeated messages is a call the receiver does not make. -/
theorem noneRepeated_of_callsAgree (delivery : Delivery)
    (index : Fin (messages env context).length) (h : Tracked env context delivery)
    (hnext : CallsAgree (delivery.handle env context index)) :
    NoneRepeated env context delivery index := by
  intro hinit hfull
  by_contra hrepeated
  have hreceiver : delivery.receiver.isInit = false := h.isInit.symm.trans hinit
  have hcount := h.ipcNumber hinit
  have hwaits : insert index.val delivery.receiver.received ≠
      Finset.range (messages env context).length := by
    rw [h.received hinit]
    exact insert_window_ne _ _ _ (Or.inr ⟨by simpa using hfull, hrepeated⟩)
  obtain ⟨before, payload, after, hspec, hcalls, _, _, heq⟩ :=
    pretreatment_complete env context delivery.mgr index hinit (by omega)
  have hmade : (delivery.handle env context index).mgr.initCalls =
      delivery.mgr.initCalls ++ [payload] := by
    have hafter : (delivery.handle env context index).mgr.initCalls = after.initCalls := by
      simp only [Delivery.handle, heq]
      split_ifs <;> rfl
    rw [hafter, hspec.initCalls, hcalls]
  have hkept : (delivery.handle env context index).receiver.calls = delivery.mgr.initCalls := by
    simp only [Delivery.handle, receive_store _ _ _ _ hreceiver hwaits, h.calls]
  have hlength := congrArg List.length (hmade.symm.trans (hnext.trans hkept))
  simp at hlength

end

/-! ## Every order of messages -/

/-- The pieces are the whole dump of the context. -/
theorem whole_eq (env : External) (context : Json Bytes) :
    whole env context = initPayload env (DumpJsonToString env context) := by
  unfold whole pieces
  rw [flatten_batches IPC_BATCHES_SIZE (by decide)]

/-- In whatever order and repetition the messages of a context come in, `InitPluginMgr` is called
exactly when all have, with all pieces in order, if and only if no batch is completed by
messages of which one is repeated. -/
theorem calls_agree_iff_none_repeated (env : External) (context : Json Bytes)
    (indices : List (Fin (messages env context).length)) :
    Always (Delivery.handle env context) CallsAgree Delivery.start indices ↔
      EachStep (Delivery.handle env context) (NoneRepeated env context) Delivery.start indices :=
  always_iff_eachStep_of_strong (Delivery.handle env context)
    (fun _ h => h.calls)
    (handle_tracked env context)
    (noneRepeated_of_callsAgree env context)
    indices Delivery.start (start_tracked env context)

/-! ## A message sent again -/

/-- A context with one long configuration string and no switch. -/
def longContext : Json Bytes :=
  .object [(STR_CONFIG_READER, .array [.string (List.replicate 200000 97)]),
    (STR_PLUGIN_SWITCH, .array [])]

def longContextDump : Bytes :=
  ascii "\x7b\"config\":[\"" ++ (List.replicate 200000 97 ++ ascii "\"],\"switch\":[]\x7d")

/-- The JSON library on this context: its dump, and the parser on the dump and its proper parts. -/
def longContextLibrary : External where
  dump := fun _ => longContextDump
  parse := fun text => if text = longContextDump then some longContext else none
  floatToInt := fun _ => 0

theorem length_longContextDump :
    (DumpJsonToString longContextLibrary longContext).length = 200027 := by
  have hdump : DumpJsonToString longContextLibrary longContext = longContextDump := rfl
  have hopening : (ascii "\x7b\"config\":[\"").length = 12 := by decide
  have hclosing : (ascii "\"],\"switch\":[]\x7d").length = 15 := by decide
  rw [hdump, longContextDump, List.length_append, List.length_append, List.length_replicate,
    hopening, hclosing]

theorem length_longContext_messages :
    (messages longContextLibrary longContext).length = 2 := by
  rw [messages]
  rw [ProcessJson_eq, if_pos (by rw [length_longContextDump]; decide), Option.getD_some,
    List.length_mapIdx, pieces, length_batches, length_longContextDump]
  decide

/-- The first of two messages is sent again in place of the second. -/
theorem firstMessageTwice_assembled :
    ¬ ∀ (env : External) (context : Json Bytes)
        (indices : List (Fin (messages env context).length)),
      Always (Delivery.handle env context) CallsAgree Delivery.start indices := by
  intro h
  have hlength := length_longContext_messages
  let first : Fin (messages longContextLibrary longContext).length := ⟨0, by omega⟩
  have hruns := h longContextLibrary longContext [first, first]
  rw [always_cons, always_cons] at hruns
  have hone : NoneRepeated longContextLibrary longContext Delivery.start first := by
    intro _ hfull
    rw [hlength] at hfull
    exact absurd hfull (by decide)
  have htracked := handle_tracked longContextLibrary longContext Delivery.start first
    (start_tracked longContextLibrary longContext) hone
  have htwo := noneRepeated_of_callsAgree longContextLibrary longContext _ first htracked
    hruns.2.2.head
  have hwindow : (Delivery.start.handle longContextLibrary longContext first).window = [0] := by
    simp [Delivery.handle, Delivery.start, ResSchedExeMgr.created, hlength, first]
  have hinit : (Delivery.start.handle longContextLibrary longContext first).mgr.isInit = false := by
    simp only [Delivery.handle]
    rw [pretreatment_store _ _ _ _ rfl (by rw [hlength]; decide)]
    rfl
  have hnodup := htwo hinit (by rw [hwindow, hlength]; rfl)
  rw [hwindow] at hnodup
  simp [first] at hnodup

end ResSched.Executor
