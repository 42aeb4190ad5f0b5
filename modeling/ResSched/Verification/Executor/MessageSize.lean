import ResSched.Verification.Executor.JsonLibrary
import ResSched.Verification.Executor.Reassembly
import Mathlib.Tactic.IntervalCases

/-! # The size of an initialisation message -/

namespace ResSched.Executor

open JsonText Utf8

/-! ## The specification -/

/-- The message marshals to a string within the limit. -/
def Fits (env : External) (message : Json Bytes) : Prop :=
  ∃ jsonStr, Marshalling env message = some jsonStr ∧ jsonStr.length ≤ MAX_IPC_MESSAGE_SIZE

/-- The number of messages a context is sent in. -/
def messageCount (env : External) (context : Json Bytes) : Nat :=
  if (DumpJsonToString env context).length > MAX_IPC_MESSAGE_SIZE then
    (pieces env context).length
  else 1

/-- Of `count` messages, those up to the first failing call. -/
def handedCount (isSync : Bool) (answers : Nat → Option Int) (number : Nat) : Nat → Nat
  | 0 => 0
  | count + 1 =>
      match answers number with
      | none => 0
      | some funcResult =>
          if isSync && funcResult ≠ RSSEXE_NO_ERR then 1
          else handedCount isSync answers (number + 1) count + 1

/-- A piece leaves room for what is added to it: a backslash before each quote and each backslash,
the two numbers, and the rest of the message. -/
def LeavesRoom (messageNumber messageIndex : Nat) (piece : Bytes) : Prop :=
  (encode (decode piece)).length + (decode piece).count '"' + (decode piece).count '\\' +
    (Nat.toDigits 10 messageIndex).length + (Nat.toDigits 10 messageNumber).length + 53 ≤
      MAX_IPC_MESSAGE_SIZE

/-- A context in one message is an object, and a piece of a longer one leaves room. -/
def MessageFits (env : External) (context : Json Bytes) (messageIndex : Nat) : Prop :=
  if (DumpJsonToString env context).length > MAX_IPC_MESSAGE_SIZE then
    LeavesRoom (pieces env context).length messageIndex ((pieces env context).getD messageIndex [])
  else context.is_object = true

/-! ## The messages handed over -/

theorem SendRequestBatches_fst (isSync : Bool) (answers : Nat → Option Int) (number : Nat)
    (splitContext : List (Json Bytes)) :
    (SendRequestBatches isSync answers number splitContext).1 =
      splitContext.take (handedCount isSync answers number splitContext.length) := by
  induction splitContext generalizing number with
  | nil => rfl
  | cons jsonMsg splitContext ih =>
      rw [SendRequestBatches, List.length_cons, handedCount]
      cases answers number with
      | none => rfl
      | some funcResult =>
          cases isSync with
          | false =>
              change _ ++ (SendRequestBatches false answers (number + 1) splitContext).1 = _
              rw [ih]
              rfl
          | true =>
              by_cases hret : funcResult = RSSEXE_NO_ERR
              · subst hret
                change _ ++ (SendRequestBatches true answers (number + 1) splitContext).1 = _
                rw [ih]
                rfl
              · simp only [SendRequestInner, if_true, ne_eq, hret, not_false_eq_true,
                  decide_true, Bool.and_true]
                rfl

theorem SendRequestInner_fst (isSync : Bool) (context : Json Bytes) (answers : Nat → Option Int) :
    (SendRequestInner isSync context (answers 0)).1 =
      [context].take (handedCount isSync answers 0 1) := by
  rw [handedCount]
  cases answers 0 with
  | none => rfl
  | some funcResult =>
      dsimp only [SendRequestInner]
      split_ifs <;> rfl

/-- The messages of a context, whether it is split or not. -/
def allMessages (env : External) (context : Json Bytes) : List (Json Bytes) :=
  (ProcessJson env context).getD [context]

theorem length_allMessages (env : External) (context : Json Bytes) :
    (allMessages env context).length = messageCount env context := by
  rw [allMessages, messageCount, ProcessJson_eq]
  split_ifs
  · rw [Option.getD_some, List.length_mapIdx]
  · rfl

theorem SendRequest_fst (env : External) (isSync : Bool) (context : Json Bytes)
    (answers : Nat → Option Int) :
    (SendRequest env isSync RES_TYPE_EXECUTOR_PLUGIN_INIT context answers).1 =
      (allMessages env context).take
        (handedCount isSync answers 0 (messageCount env context)) := by
  rw [← length_allMessages, SendRequest, if_pos rfl, allMessages]
  cases ProcessJson env context with
  | none => exact SendRequestInner_fst isSync context answers
  | some splitContext => exact SendRequestBatches_fst isSync answers 0 splitContext

/-! ## The size of one message -/

section

variable {env : External} {printFloat : UInt64 → List Char} (henv : DumpDocumented printFloat env)

include henv

theorem dump_ne_nil {json : Json Bytes} (hobject : json.is_object = true) : env.dump json ≠ [] := by
  rw [henv.dump]
  cases json with
  | object members =>
      intro hnil
      have htext : textOf printFloat (.object members) = [] := encode_injective hnil
      rw [textOf, object, List.append_assoc] at htext
      exact List.cons_ne_nil _ _ htext
  | _ => cases hobject

theorem Marshalling_object {json : Json Bytes} (hobject : json.is_object = true) :
    Marshalling env json = some (encode (textOf printFloat json)) := by
  rw [Marshalling, DumpJsonToString, if_pos hobject, if_neg (dump_ne_nil henv hobject), henv.dump]

/-- A context that is not split is within the limit, but only an object marshals at all. -/
theorem fits_context_iff {context : Json Bytes}
    (hshort : ¬ (DumpJsonToString env context).length > MAX_IPC_MESSAGE_SIZE) :
    Fits env context ↔ context.is_object = true := by
  constructor
  · rintro ⟨jsonStr, hmarshal, -⟩
    by_contra hobject
    rw [Marshalling, DumpJsonToString, if_neg hobject, if_pos rfl] at hmarshal
    cases hmarshal
  · intro hobject
    refine ⟨_, Marshalling_object henv hobject, ?_⟩
    rw [DumpJsonToString, if_pos hobject, henv.dump] at hshort
    exact not_lt.mp hshort

omit henv in
theorem length_encode_toDigits (n : Nat) :
    (encode (Nat.toDigits 10 n)).length = (Nat.toDigits 10 n).length := by
  refine length_encode_ascii fun c hc => ?_
  have hdigit := CLibrary.toNat_of_mem_toDigits hc
  omega

omit henv in
theorem length_messageText {msg : List Char} (hmsg : ∀ c ∈ msg, isControl c = false)
    (messageNumber messageIndex : Nat) :
    (encode (messageText messageNumber messageIndex msg)).length =
      (encode msg).length + msg.count '"' + msg.count '\\' +
        (Nat.toDigits 10 messageIndex).length + (Nat.toDigits 10 messageNumber).length + 53 := by
  have hopening : (encode "\x7b\"IPC_MESSAGE\":".toList).length = 15 := by decide
  have hindex : (encode ",\"MESSAGE_INDEX\":".toList).length = 17 := by decide
  have hnumber : (encode ",\"MESSAGE_NUMBER\":".toList).length = 18 := by decide
  have hquote : (encode ['"']).length = 1 := by decide
  have hclosing : (encode ['}']).length = 1 := by decide
  rw [messageText_eq, quote]
  simp only [encode_append, List.length_append, length_encode_escape hmsg, length_encode_toDigits,
    hopening, hindex, hnumber, hquote, hclosing]
  omega

theorem fits_jsonIpc_iff {piece : Bytes} (hpiece : ∀ c ∈ decode piece, isControl c = false)
    (messageNumber messageIndex : Nat) :
    Fits env (jsonIpc messageNumber messageIndex piece) ↔
      LeavesRoom messageNumber messageIndex piece := by
  rw [Fits, Marshalling_object henv rfl, textOf_jsonIpc, LeavesRoom,
    ← length_messageText hpiece messageNumber messageIndex]
  simp only [Option.some.injEq, exists_eq_left']

/-- The pieces of a dump have no control characters either. -/
theorem isControl_decode_pieces (context : Json Bytes) :
    ∀ piece ∈ pieces env context, ∀ c ∈ decode piece, isControl c = false := by
  intro piece hpiece c hc
  rw [pieces, DumpJsonToString] at hpiece
  split_ifs at hpiece with hobject
  · rw [henv.dump] at hpiece
    obtain ⟨mangled, hread⟩ := exists_readInBatches (n := IPC_BATCHES_SIZE) (by decide) []
      (textOf printFloat context) (List.forall_mem_nil _) (by decide)
    have hmem : c ∈ mangled := by
      have hdecode := hread.decode_eq
      rw [List.nil_append] at hdecode
      change _ = mangled at hdecode
      rw [← hdecode]
      exact List.mem_flatMap.mpr ⟨piece, hpiece, hc⟩
    rcases hread.reads.mem hmem with hold | rfl
    · exact isControl_textOf printFloat henv.printFloat context c hold
    · decide
  · rw [batches_nil] at hpiece
    cases hpiece

/-- The message of an index, split or not. -/
theorem fits_message_iff (context : Json Bytes) {messageIndex : Nat}
    (hlt : messageIndex < (allMessages env context).length) :
    Fits env (allMessages env context)[messageIndex] ↔ MessageFits env context messageIndex := by
  have hcontrol := isControl_decode_pieces henv context
  by_cases hlong : (DumpJsonToString env context).length > MAX_IPC_MESSAGE_SIZE
  · have hmessages : allMessages env context =
        (pieces env context).mapIdx (jsonIpc (pieces env context).length) := by
      rw [allMessages, ProcessJson_eq, if_pos hlong, Option.getD_some]
    have hpiece : messageIndex < (pieces env context).length := by
      rw [hmessages, List.length_mapIdx] at hlt
      exact hlt
    have hget : (pieces env context).getD messageIndex [] = (pieces env context)[messageIndex] := by
      rw [List.getD_eq_getElem?_getD, List.getElem?_eq_getElem hpiece, Option.getD_some]
    rw [MessageFits, if_pos hlong, hget]
    simp only [hmessages, List.getElem_mapIdx]
    exact fits_jsonIpc_iff henv (hcontrol _ (List.getElem_mem hpiece)) _ _
  · have hmessages : allMessages env context = [context] := by
      rw [allMessages, ProcessJson_eq, if_neg hlong, Option.getD_none]
    rw [MessageFits, if_neg hlong]
    simp only [hmessages, List.getElem_singleton]
    exact fits_context_iff henv hlong

end

theorem handedCount_le (isSync : Bool) (answers : Nat → Option Int) (number count : Nat) :
    handedCount isSync answers number count ≤ count := by
  induction count generalizing number with
  | zero => exact le_rfl
  | succ count ih =>
      rw [handedCount]
      cases answers number with
      | none => exact Nat.zero_le _
      | some funcResult =>
          dsimp only
          split_ifs
          · exact Nat.succ_le_succ (Nat.zero_le count)
          · exact Nat.succ_le_succ (ih (number + 1))

/-- Whatever the proxy answers, the messages handed to it all fit if and only if an unsplit one is
an object and the pieces sent leave room for their escapes and the rest of their message. -/
theorem messages_fit_iff {env : External} {printFloat : UInt64 → List Char}
    (henv : DumpDocumented printFloat env) (isSync : Bool) (context : Json Bytes)
    (answers : Nat → Option Int) :
    (∀ message ∈ (SendRequest env isSync RES_TYPE_EXECUTOR_PLUGIN_INIT context answers).1,
      Fits env message) ↔
      ∀ messageIndex < handedCount isSync answers 0 (messageCount env context),
        MessageFits env context messageIndex := by
  have hle := handedCount_le isSync answers 0 (messageCount env context)
  rw [SendRequest_fst]
  constructor
  · intro hall messageIndex hindex
    have hlt : messageIndex < (allMessages env context).length := by
      rw [length_allMessages]
      exact hindex.trans_le hle
    refine (fits_message_iff henv context hlt).mp (hall _ ?_)
    exact List.mem_take_iff_getElem.mpr ⟨messageIndex, lt_min hindex hlt, rfl⟩
  · intro hall message hmessage
    obtain ⟨messageIndex, hindex, rfl⟩ := List.mem_take_iff_getElem.mp hmessage
    have hlt : messageIndex < (allMessages env context).length :=
      hindex.trans_le (min_le_right _ _)
    exact (fits_message_iff henv context hlt).mpr
      (hall messageIndex (hindex.trans_le (min_le_left _ _)))

/-! ## One long string -/

/-- The text of a context with one configuration string of one character repeated. -/
def repeatedText (count : Nat) (c : Char) : List Char :=
  contextText [List.replicate count c] []

def repeatedContext (count : Nat) (c : Char) : Json Bytes :=
  initContext [encode (List.replicate count c)] []

theorem dump_repeatedContext (count : Nat) (c : Char) :
    DumpJsonToString compactLibrary (repeatedContext count c) = encode (repeatedText count c) := by
  have hdump := textOf_initContext (fun _ => ['0']) [encode (List.replicate count c)] []
  rw [List.map_singleton, decode_encode] at hdump
  exact congrArg encode hdump

theorem escape_replicate (count : Nat) (c : Char) :
    escape (List.replicate count c) = (List.replicate count (escapeChar c)).flatten := by
  rw [escape, List.flatMap_replicate]

theorem contextText_singleton (string : List Char) :
    contextText [string] [] = "\x7b\"config\":[\"".toList ++
      (escape string ++ "\"],\"switch\":[]\x7d".toList) := by
  rw [contextText_eq, List.map_singleton, array, commas, quote]
  simp [array, commas]

theorem repeatedText_eq (count : Nat) (c : Char) :
    repeatedText count c = "\x7b\"config\":[\"".toList ++
      ((List.replicate count (escapeChar c)).flatten ++ "\"],\"switch\":[]\x7d".toList) := by
  rw [repeatedText, contextText_singleton, escape_replicate]

theorem repeatedText_ascii (count : Nat) {c : Char} (hc : c.toNat < 0x80) :
    ∀ other ∈ repeatedText count c, other.toNat < 0x80 := by
  rw [repeatedText_eq, List.forall_mem_append, List.forall_mem_append]
  refine ⟨forall_mem_of_all (by decide), ?_, forall_mem_of_all (by decide)⟩
  intro other hother
  obtain ⟨part, hpart, hother⟩ := List.mem_flatten.mp hother
  obtain rfl := List.eq_of_mem_replicate hpart
  rcases escapeChar_spec c with ⟨_, hall⟩ | ⟨hhigh, _⟩
  · exact (hall other hother).1
  · omega

theorem count_repeatedText (count : Nat) (c other : Char) :
    (repeatedText count c).count other = "\x7b\"config\":[\"".toList.count other +
      (count * (escapeChar c).count other + "\"],\"switch\":[]\x7d".toList.count other) := by
  rw [repeatedText_eq, List.count_append, List.count_append, List.count_flatten,
    List.map_replicate, List.sum_replicate_nat]

theorem length_repeatedText (count : Nat) (c : Char) :
    (repeatedText count c).length = count * (escapeChar c).length + 27 := by
  have hopening : "\x7b\"config\":[\"".toList.length = 12 := by decide
  have hclosing : "\"],\"switch\":[]\x7d".toList.length = 15 := by decide
  rw [repeatedText_eq, List.length_append, List.length_append, hopening, hclosing,
    List.length_flatten, List.map_replicate, List.sum_replicate_nat]
  omega

/-- The characters of a piece of an ASCII dump. -/
def partOf (text : List Char) (index : Nat) : List Char :=
  (text.drop (index * IPC_BATCHES_SIZE)).take IPC_BATCHES_SIZE

theorem partOf_sublist (text : List Char) (index : Nat) : (partOf text index).Sublist text :=
  (List.take_sublist _ _).trans (List.drop_sublist _ _)

section

variable (count : Nat) {c : Char} (hc : c.toNat < 0x80) {index : Nat}
  (hindex : index < (pieces compactLibrary (repeatedContext count c)).length)

include hc

theorem getElem_pieces_repeatedContext :
    (pieces compactLibrary (repeatedContext count c))[index] =
      encode (partOf (repeatedText count c) index) := by
  simp only [pieces, dump_repeatedContext]
  rw [getElem_batches, take_drop_encode_ascii (repeatedText_ascii count hc), partOf]

include hindex

theorem leavesRoom_repeatedContext_iff (messageNumber : Nat) :
    LeavesRoom messageNumber index
        ((pieces compactLibrary (repeatedContext count c)).getD index []) ↔
      (partOf (repeatedText count c) index).length +
        (partOf (repeatedText count c) index).count '"' +
        (partOf (repeatedText count c) index).count '\\' +
        (Nat.toDigits 10 index).length + (Nat.toDigits 10 messageNumber).length + 53 ≤
          MAX_IPC_MESSAGE_SIZE := by
  rw [List.getD_eq_getElem?_getD, List.getElem?_eq_getElem hindex, Option.getD_some,
    getElem_pieces_repeatedContext count hc, LeavesRoom, decode_encode, length_encode_ascii]
  exact fun other hother => repeatedText_ascii count hc other
    ((partOf_sublist (repeatedText count c) index).mem hother)

end

/-- 200000 letters, which are not escaped. -/
def letters : Json Bytes :=
  repeatedContext 200000 'a'

/-- 200000 quotes, which are escaped twice. -/
def quotes : Json Bytes :=
  repeatedContext 200000 '"'

theorem length_dump_repeatedContext (count : Nat) {c : Char} (hc : c.toNat < 0x80) :
    (DumpJsonToString compactLibrary (repeatedContext count c)).length =
      count * (escapeChar c).length + 27 := by
  rw [dump_repeatedContext, length_encode_ascii (repeatedText_ascii count hc),
    length_repeatedText]

theorem letters_fit : messageCount compactLibrary letters = 2 ∧
    ∀ message ∈ (SendRequest compactLibrary true RES_TYPE_EXECUTOR_PLUGIN_INIT letters
      (fun _ => some 0)).1, Fits compactLibrary message := by
  have hdump : (DumpJsonToString compactLibrary letters).length = 200027 :=
    length_dump_repeatedContext 200000 (by decide)
  have hlength : (pieces compactLibrary letters).length = 2 := by
    rw [pieces, length_batches, hdump]
    rfl
  have hlong : (DumpJsonToString compactLibrary letters).length > MAX_IPC_MESSAGE_SIZE := by
    rw [hdump]
    decide
  have hcount : messageCount compactLibrary letters = 2 := by
    rw [messageCount, if_pos hlong, hlength]
  refine ⟨hcount,
    (messages_fit_iff compactLibrary_dumpDocumented true letters fun _ => some 0).mpr ?_⟩
  intro index hindex
  have hlt := hindex.trans_le (handedCount_le _ _ _ _)
  rw [hcount] at hlt
  rw [MessageFits, if_pos hlong, hlength]
  refine (leavesRoom_repeatedContext_iff 200000 (by decide) (hlt.trans_eq hlength.symm) 2).mpr ?_
  have hquotes : (repeatedText 200000 'a').count '"' = 6 := by
    rw [count_repeatedText]
    rfl
  have hbackslashes : (repeatedText 200000 'a').count '\\' = 0 := by
    rw [count_repeatedText]
    rfl
  have hpart := partOf_sublist (repeatedText 200000 'a') index
  have hquotes' := (hpart.count_le '"').trans_eq hquotes
  have hbackslashes' := (hpart.count_le '\\').trans_eq hbackslashes
  have hsize : (partOf (repeatedText 200000 'a') index).length ≤ 180000 :=
    List.length_take_le IPC_BATCHES_SIZE _
  have hdigits : (Nat.toDigits 10 index).length = 1 := by
    interval_cases index
    · rfl
    · rfl
  have htwo : (Nat.toDigits 10 2).length = 1 := rfl
  rw [hdigits, htwo, MAX_IPC_MESSAGE_SIZE]
  omega

theorem count_add_count {text : List Char} {c other : Char} (hne : c ≠ other)
    (h : ∀ each ∈ text, each = c ∨ each = other) :
    text.count c + text.count other = text.length := by
  induction text with
  | nil => rfl
  | cons each text ih =>
      obtain ⟨heach, htext⟩ := List.forall_mem_cons.mp h
      have hrest := ih htext
      rcases heach with rfl | rfl
      · rw [List.count_cons_self, List.count_cons_of_ne hne, List.length_cons]
        omega
      · rw [List.count_cons_self, List.count_cons_of_ne hne.symm, List.length_cons]
        omega

/-- Behind its first twelve characters the first piece consists of quotes and backslashes. -/
theorem escapes_of_quotes :
    179988 ≤ (partOf (repeatedText 200000 '"') 0).length ∧
      179988 ≤ (partOf (repeatedText 200000 '"') 0).count '"' +
        (partOf (repeatedText 200000 '"') 0).count '\\' := by
  have hsublist : ((List.replicate 200000 (escapeChar '"')).flatten.take 179988).Sublist
      (partOf (repeatedText 200000 '"') 0) := by
    have hopening : "\x7b\"config\":[\"".toList.length = 12 := by decide
    rw [partOf, Nat.zero_mul, List.drop_zero, repeatedText_eq, List.take_append, hopening]
    refine List.Sublist.trans ?_ (List.sublist_append_right _ _)
    rw [List.take_append]
    exact List.sublist_append_left _ _
  have hall : ∀ c ∈ (List.replicate 200000 (escapeChar '"')).flatten.take 179988,
      c = '"' ∨ c = '\\' := by
    have heach : ∀ c ∈ escapeChar '"', c = '"' ∨ c = '\\' := forall_mem_of_all (by decide)
    intro c hc
    obtain ⟨part, hpart, hc⟩ := List.mem_flatten.mp (List.mem_of_mem_take hc)
    exact heach c (List.eq_of_mem_replicate hpart ▸ hc)
  have hlength : ((List.replicate 200000 (escapeChar '"')).flatten.take 179988).length =
      179988 := by
    have htwo : (escapeChar '"').length = 2 := by decide
    rw [List.length_take, List.length_flatten, List.map_replicate, List.sum_replicate_nat, htwo]
    rfl
  have hcount := count_add_count (by decide) hall
  have hquotes := hsublist.count_le '"'
  have hbackslashes := hsublist.count_le '\\'
  exact ⟨hlength.symm.trans_le hsublist.length_le, by omega⟩

/-- A configuration of quotes is not sent within the limit. -/
theorem quotes_exceed_limit :
    ¬ ∀ (env : External) (printFloat : UInt64 → List Char), DumpDocumented printFloat env →
      ∀ (isSync : Bool) (context : Json Bytes) (answers : Nat → Option Int),
        ∀ message ∈ (SendRequest env isSync RES_TYPE_EXECUTOR_PLUGIN_INIT context answers).1,
          Fits env message := by
  intro h
  have hall := h compactLibrary _ compactLibrary_dumpDocumented true quotes fun _ => some 0
  have hdump : (DumpJsonToString compactLibrary quotes).length = 400027 :=
    length_dump_repeatedContext 200000 (by decide)
  have hlong : (DumpJsonToString compactLibrary quotes).length > MAX_IPC_MESSAGE_SIZE := by
    rw [hdump]
    decide
  have hlength : (pieces compactLibrary quotes).length = 3 := by
    rw [pieces, length_batches, hdump]
    rfl
  have hcount : messageCount compactLibrary quotes = 3 := by
    rw [messageCount, if_pos hlong, hlength]
  have hmessages : (allMessages compactLibrary quotes).length = 3 :=
    (length_allMessages compactLibrary quotes).trans hcount
  have hlt : 0 < (allMessages compactLibrary quotes).length := by omega
  have hmem : (allMessages compactLibrary quotes)[0] ∈
      (SendRequest compactLibrary true RES_TYPE_EXECUTOR_PLUGIN_INIT quotes
        fun _ => some 0).1 := by
    rw [SendRequest_fst, hcount]
    exact List.mem_take_iff_getElem.mpr ⟨0, lt_min (by decide) hlt, rfl⟩
  have hfits := (fits_message_iff compactLibrary_dumpDocumented quotes hlt).mp (hall _ hmem)
  rw [MessageFits, if_pos hlong, hlength] at hfits
  have hroom := (leavesRoom_repeatedContext_iff 200000 (c := '"') (by decide)
    (Nat.lt_of_lt_of_eq (by decide) hlength.symm) 3).mp hfits
  have hescapes := escapes_of_quotes
  rw [MAX_IPC_MESSAGE_SIZE] at hroom
  omega

end ResSched.Executor
