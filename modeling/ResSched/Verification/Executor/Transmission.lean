import ResSched.Verification.Executor.MessageSize

/-! # Transmission of a context in batches -/

namespace ResSched.Executor

open JsonText Utf8

/-! ## The specification -/

/-- A message is marshalled, and read back on the other side. -/
def transmitted (env : External) (message : Json Bytes) : Option (Json Bytes) :=
  (Marshalling env message).bind (ReadFromParcel env)

/-- The content of a transmitted message is stored under its index. -/
def storeMessage (env : External) (ipcMessage : AssocMap Int Bytes) (message : Json Bytes) :
    Option (AssocMap Int Bytes) :=
  ((transmitted env message).bind (batchOf env)).map fun batch =>
    insertMessage ipcMessage batch.1 batch.2.2

/-- A context is split, its messages are transmitted, and their contents joined and parsed. -/
def roundTrip (env : External) (context : Json Bytes) : Option (Json Bytes) :=
  (ProcessJson env context).bind fun splitContext =>
    (splitContext.foldlM (storeMessage env) ∅).bind fun ipcMessage =>
      StringToJson env (joinMessages ipcMessage)

/-! ## Contexts and messages -/

/-- A mangled context is the text of a context, since all but its strings is ASCII. -/
theorem exists_of_mangled_contextText {configStrs switchStrs : List (List Char)}
    {mangled : List Char} (h : Mangled (contextText configStrs switchStrs) mangled) :
    ∃ configs switches, mangled = contextText configs switches := by
  rw [contextText_eq] at h
  obtain ⟨opening, _, rfl, hopening, h⟩ := h.of_append
  obtain ⟨_, _, rfl, hconfigs, h⟩ := h.of_append
  obtain ⟨middle, _, rfl, hmiddle, h⟩ := h.of_append
  obtain ⟨_, closing, rfl, hswitches, hclosing⟩ := h.of_append
  obtain ⟨configs, rfl⟩ := exists_of_mangled_array hconfigs
  obtain ⟨switches, rfl⟩ := exists_of_mangled_array hswitches
  refine ⟨configs, switches, ?_⟩
  rw [contextText_eq, hopening.eq_of_ascii (forall_mem_of_all (by decide)),
    hmiddle.eq_of_ascii (forall_mem_of_all (by decide)),
    hclosing.eq_of_ascii (forall_mem_of_all (by decide))]

theorem initContext_injective {configStrs switchStrs configs switches : List Bytes}
    (h : initContext configStrs switchStrs = initContext configs switches) :
    configStrs = configs ∧ switchStrs = switches := by
  simp only [initContext, Json.object.injEq, List.cons.injEq, Prod.mk.injEq, Json.array.injEq,
    true_and, and_true] at h
  have hstring : Function.Injective (Json.string : Bytes → Json Bytes) := fun _ _ => Json.string.inj
  exact ⟨List.map_injective_iff.mpr hstring h.1, List.map_injective_iff.mpr hstring h.2⟩

theorem map_encode_decode {strings : List Bytes} (h : ∀ str ∈ strings, WellFormed str) :
    (strings.map decode).map encode = strings := by
  rw [List.map_map]
  exact (List.map_congr_left h).trans (List.map_id strings)

theorem wellFormed_of_map_encode (texts : List (List Char)) :
    ∀ str ∈ texts.map encode, WellFormed str := by
  rw [List.forall_mem_map]
  exact fun text _ => wellFormed_encode text

theorem batchOf_parsedIpc (env : External) (messageNumber messageIndex : Nat) (msg : Bytes) :
    batchOf env (parsedIpc messageNumber messageIndex msg) =
      some ((messageIndex : Int), (messageNumber : Int), msg) :=
  batchOf_members env msg (.uint messageIndex) (.uint messageNumber)

/-! ## One message -/

section

variable {env : External} {printFloat : UInt64 → List Char} (hdump : DumpDocumented printFloat env)
  (hparse : ParseDocumented env)

include hdump hparse

/-- A message arrives with U+FFFD for what is ill-formed in its content. -/
theorem transmitted_jsonIpc (messageNumber messageIndex : Nat) (msg : Bytes) :
    transmitted env (jsonIpc messageNumber messageIndex msg) =
      some (parsedIpc messageNumber messageIndex (encode (decode msg))) := by
  have hsame : env.dump (jsonIpc messageNumber messageIndex (encode (decode msg))) =
      env.dump (jsonIpc messageNumber messageIndex msg) := by
    rw [hdump.dump, hdump.dump, textOf_jsonIpc, textOf_jsonIpc, decode_encode]
  have hread := hparse.message messageNumber messageIndex (decode msg)
  have hne : env.dump (jsonIpc messageNumber messageIndex msg) ≠ [] := dump_ne_nil hdump rfl
  rw [hsame] at hread
  rw [transmitted, Marshalling_object hdump rfl, ← hdump.dump, Option.bind_some, ReadFromParcel,
    LoadContentToJsonObj, if_neg hne, hread]
  rfl

theorem storeMessage_jsonIpc (ipcMessage : AssocMap Int Bytes) (messageNumber messageIndex : Nat)
    (msg : Bytes) :
    storeMessage env ipcMessage (jsonIpc messageNumber messageIndex msg) =
      some (insertMessage ipcMessage messageIndex (encode (decode msg))) := by
  rw [storeMessage, transmitted_jsonIpc hdump hparse, Option.bind_some, batchOf_parsedIpc]
  rfl

/-! ## All messages -/

/-- After each message the map holds the contents so far, as they arrive. -/
theorem exists_stored (sent : List Bytes) (messageNumber count : Nat)
    (hcount : count ≤ sent.length) :
    ∃ ipcMessage,
      ((sent.mapIdx (jsonIpc messageNumber)).take count).foldlM (storeMessage env) ∅ =
        some ipcMessage ∧
      Holds (sent.map fun msg => encode (decode msg)) (List.range count) ipcMessage := by
  induction count with
  | zero => exact ⟨∅, rfl, holds_nil _⟩
  | succ count ih =>
      obtain ⟨ipcMessage, hfold, hholds⟩ := ih (Nat.le_of_succ_le hcount)
      have hlt : count < (sent.mapIdx (jsonIpc messageNumber)).length := by
        rw [List.length_mapIdx]
        exact hcount
      have hget : (sent.map fun msg => encode (decode msg)).getD count [] =
          encode (decode sent[count]) := by
        rw [List.getD_eq_getElem?_getD, List.getElem?_map, List.getElem?_eq_getElem hcount]
        rfl
      refine ⟨insertMessage ipcMessage count (encode (decode sent[count])), ?_, ?_⟩
      · rw [← List.take_concat_get' _ _ hlt, List.foldlM_append, hfold]
        simp only [List.foldlM_cons, List.foldlM_nil, Option.bind_eq_bind, Option.bind_some,
          List.getElem_mapIdx, storeMessage_jsonIpc hdump hparse]
        rfl
      · rw [← hget, List.range_succ]
        exact insertMessage_holds _ _ ipcMessage count hholds

/-- What is parsed in the end is the text of the pieces, as they arrive. -/
theorem roundTrip_eq {context : Json Bytes}
    (hlong : (DumpJsonToString env context).length > MAX_IPC_MESSAGE_SIZE) :
    roundTrip env context =
      StringToJson env (encode ((pieces env context).flatMap decode)) := by
  obtain ⟨ipcMessage, hfold, hholds⟩ := exists_stored hdump hparse (pieces env context)
    (pieces env context).length (pieces env context).length le_rfl
  have hjoined := joinMessages_eq _ _ _ hholds (by simp)
  have hflatten : ((pieces env context).map fun msg => encode (decode msg)).flatten =
      encode ((pieces env context).flatMap decode) := by
    rw [← List.flatMap_def, encode, List.flatMap_assoc]
    rfl
  rw [List.take_of_length_le (by rw [List.length_mapIdx])] at hfold
  rw [roundTrip, ProcessJson_eq, if_pos hlong, Option.bind_some, hfold, Option.bind_some, hjoined,
    hflatten]

/-! ## The context that arrives -/

theorem StringToJson_contextText (configStrs switchStrs : List (List Char)) :
    StringToJson env (encode (contextText configStrs switchStrs)) =
      some (initContext (configStrs.map encode) (switchStrs.map encode)) := by
  have hread := hparse.context configStrs switchStrs
  have htext : env.dump (initContext (configStrs.map encode) (switchStrs.map encode)) =
      encode (contextText configStrs switchStrs) := by
    rw [hdump.dump, textOf_initContext, map_decode_encode, map_decode_encode]
  have hne : env.dump (initContext (configStrs.map encode) (switchStrs.map encode)) ≠ [] :=
    dump_ne_nil hdump rfl
  have hkeys : STR_CONFIG_READER ≠ STR_PLUGIN_SWITCH := by decide
  rw [← htext, StringToJson, if_neg hne, hread]
  simp [initContext, Json.set, hkeys]

omit hparse in
/-- The pieces read as a mangled text of the context; as the text itself when none of them begins
in the middle of a character. -/
theorem exists_mangled_context (configStrs switchStrs : List Bytes) :
    ∃ mangled, (pieces env (initContext configStrs switchStrs)).flatMap decode = mangled ∧
      Mangled (contextText (configStrs.map decode) (switchStrs.map decode)) mangled ∧
      ((∀ piece ∈ pieces env (initContext configStrs switchStrs), ¬ BeginsInside piece) ↔
        mangled = contextText (configStrs.map decode) (switchStrs.map decode)) := by
  have hpieces : pieces env (initContext configStrs switchStrs) = batches IPC_BATCHES_SIZE
      (encode (contextText (configStrs.map decode) (switchStrs.map decode))) := by
    have hobject : (initContext configStrs switchStrs).is_object = true := rfl
    rw [pieces, DumpJsonToString, if_pos hobject, hdump.dump, textOf_initContext]
  obtain ⟨mangled, hdecode, hreads, hclean⟩ := exists_readInBatches (n := IPC_BATCHES_SIZE)
    (by decide) [] (contextText (configStrs.map decode) (switchStrs.map decode))
    (List.forall_mem_nil _) (by decide)
  rw [List.nil_append, ← hpieces] at hdecode hclean
  refine ⟨mangled, hdecode, hreads, ?_⟩
  rw [hclean, eq_self_iff_true, true_and]

section

variable {configStrs switchStrs : List Bytes}
  (hlong : (DumpJsonToString env (initContext configStrs switchStrs)).length >
    MAX_IPC_MESSAGE_SIZE)

include hlong

theorem roundTrip_of_clean (hconfigs : ∀ str ∈ configStrs, WellFormed str)
    (hswitches : ∀ str ∈ switchStrs, WellFormed str)
    (hclean : ∀ piece ∈ pieces env (initContext configStrs switchStrs), ¬ BeginsInside piece) :
    roundTrip env (initContext configStrs switchStrs) =
      some (initContext configStrs switchStrs) := by
  obtain ⟨mangled, hdecode, _, hiff⟩ := exists_mangled_context hdump configStrs switchStrs
  rw [roundTrip_eq hdump hparse hlong, hdecode, hiff.mp hclean,
    StringToJson_contextText hdump hparse, map_encode_decode hconfigs,
    map_encode_decode hswitches]

/-- A context that comes back is one of well-formed strings, and then its dump is what arrived. -/
theorem clean_of_roundTrip (h : roundTrip env (initContext configStrs switchStrs) =
      some (initContext configStrs switchStrs)) :
    ((∀ str ∈ configStrs, WellFormed str) ∧ ∀ str ∈ switchStrs, WellFormed str) ∧
      ∀ piece ∈ pieces env (initContext configStrs switchStrs), ¬ BeginsInside piece := by
  obtain ⟨mangled, hdecode, hreads, hiff⟩ := exists_mangled_context hdump configStrs switchStrs
  obtain ⟨configs, switches, hmangled⟩ := exists_of_mangled_contextText hreads
  rw [roundTrip_eq hdump hparse hlong, hdecode, hmangled,
    StringToJson_contextText hdump hparse] at h
  obtain ⟨rfl, rfl⟩ := initContext_injective (Option.some.inj h)
  refine ⟨⟨wellFormed_of_map_encode configs, wellFormed_of_map_encode switches⟩, hiff.mpr ?_⟩
  rw [hmangled, map_decode_encode, map_decode_encode]

end

end

/-- A split context comes back as it was if and only if its strings are well-formed and no piece of
its dump begins in the middle of a character. -/
theorem roundTrip_iff {env : External} {printFloat : UInt64 → List Char}
    (hdump : DumpDocumented printFloat env) (hparse : ParseDocumented env)
    (configStrs switchStrs : List Bytes)
    (hlong : (DumpJsonToString env (initContext configStrs switchStrs)).length >
      MAX_IPC_MESSAGE_SIZE) :
    roundTrip env (initContext configStrs switchStrs) =
        some (initContext configStrs switchStrs) ↔
      ((∀ str ∈ configStrs, WellFormed str) ∧ ∀ str ∈ switchStrs, WellFormed str) ∧
        ∀ piece ∈ pieces env (initContext configStrs switchStrs), ¬ BeginsInside piece :=
  ⟨clean_of_roundTrip hdump hparse hlong,
    fun h => roundTrip_of_clean hdump hparse hlong h.1.1 h.1.2 h.2⟩

theorem roundTrip_letters : roundTrip compactLibrary letters = some letters := by
  refine (roundTrip_iff compactLibrary_dumpDocumented compactLibrary_parseDocumented
    [encode (List.replicate 200000 'a')] [] ?_).mpr ⟨⟨?_, List.forall_mem_nil _⟩, ?_⟩
  · exact Nat.lt_of_lt_of_eq (by decide)
      (length_dump_repeatedContext 200000 (c := 'a') (by decide)).symm
  · exact List.forall_mem_singleton.mpr (wellFormed_encode _)
  · intro piece hpiece
    obtain ⟨index, hindex, rfl⟩ := List.mem_iff_getElem.mp hpiece
    have hclean := not_beginsInside_encode (partOf (repeatedText 200000 'a') index)
    rw [← getElem_pieces_repeatedContext 200000 (by decide) hindex] at hclean
    exact hclean

/-- An ASCII letter and 100000 letters of two bytes each. -/
def accented : List Char :=
  'a' :: List.replicate 100000 'é'

/-- The text up to the letter in which the second piece begins, and behind it. -/
theorem accented_split : contextText [accented] [] =
    ("\x7b\"config\":[\"a".toList ++ List.replicate 89993 'é') ++
      'é' :: (List.replicate 10006 'é' ++ "\"],\"switch\":[]\x7d".toList) := by
  have hplain : escape accented = ['a'] ++ List.replicate 100000 'é' := by
    have hletter : escapeChar 'é' = ['é'] := by decide
    have hfirst : escapeChar 'a' = ['a'] := by decide
    rw [accented, escape_cons, hfirst, escape_replicate, hletter, List.flatten_replicate_singleton]
  have hsplit : List.replicate 100000 'é' =
      List.replicate 89993 'é' ++ 'é' :: List.replicate 10006 'é' := by
    rw [← List.replicate_succ, List.replicate_append_replicate]
  have hopening : "\x7b\"config\":[\"a".toList = "\x7b\"config\":[\"".toList ++ ['a'] := by
    decide
  rw [contextText_singleton, hplain, hsplit, hopening]
  simp only [List.append_assoc, List.cons_append, List.nil_append]

theorem length_encode_replicate (count : Nat) (c : Char) :
    (encode (List.replicate count c)).length = count * c.utf8Size := by
  rw [encode, List.length_flatMap, List.map_replicate, List.sum_replicate_nat,
    String.length_utf8EncodeChar]

theorem dump_accented : DumpJsonToString compactLibrary (initContext [encode accented] []) =
    encode (contextText [accented] []) := by
  have htext := textOf_initContext (fun _ => ['0']) [encode accented] []
  rw [List.map_singleton, decode_encode] at htext
  exact congrArg encode htext

/-- The second piece begins with the second byte of a letter. -/
theorem dump_accented_split : ∃ front back,
    DumpJsonToString compactLibrary (initContext [encode accented] []) = front ++ 0xA9 :: back ∧
      front.length = 180000 ∧ back.length = 20027 := by
  have hletter : String.utf8EncodeChar 'é' = [0xC3] ++ [0xA9] := by decide
  refine ⟨encode ("\x7b\"config\":[\"a".toList ++ List.replicate 89993 'é') ++ [0xC3],
    encode (List.replicate 10006 'é' ++ "\"],\"switch\":[]\x7d".toList), ?_, ?_, ?_⟩
  · rw [dump_accented, accented_split, encode_append, encode_cons, hletter]
    simp only [List.append_assoc, List.cons_append, List.nil_append]
  · rw [List.length_append, encode_append, List.length_append, length_encode_replicate]
    decide
  · rw [encode_append, List.length_append, length_encode_replicate]
    decide

theorem accented_not_transmitted :
    ¬ ∀ (env : External) (printFloat : UInt64 → List Char), DumpDocumented printFloat env →
      ParseDocumented env → ∀ configStrs switchStrs : List Bytes,
        (DumpJsonToString env (initContext configStrs switchStrs)).length > MAX_IPC_MESSAGE_SIZE →
        roundTrip env (initContext configStrs switchStrs) =
          some (initContext configStrs switchStrs) := by
  intro h
  obtain ⟨front, back, hsplit, hfront, hback⟩ := dump_accented_split
  have hdump : (DumpJsonToString compactLibrary (initContext [encode accented] [])).length =
      200028 := by
    rw [hsplit, List.length_append, List.length_cons, hfront, hback]
  have hlong : (DumpJsonToString compactLibrary (initContext [encode accented] [])).length >
      MAX_IPC_MESSAGE_SIZE := by
    rw [hdump]
    decide
  have hlength : (pieces compactLibrary (initContext [encode accented] [])).length = 2 := by
    rw [pieces, length_batches, hdump]
    rfl
  have hindex : 1 < (pieces compactLibrary (initContext [encode accented] [])).length := by
    rw [hlength]
    decide
  have hpiece : (pieces compactLibrary (initContext [encode accented] []))[1] =
      (0xA9 :: back).take IPC_BATCHES_SIZE := by
    have hcut : front.length = 1 * IPC_BATCHES_SIZE := hfront
    simp only [pieces]
    rw [getElem_batches, hsplit, List.drop_left' hcut]
  have hclean := (clean_of_roundTrip compactLibrary_dumpDocumented compactLibrary_parseDocumented
    hlong (h _ _ compactLibrary_dumpDocumented compactLibrary_parseDocumented _ _ hlong)).2
  refine hclean _ (List.getElem_mem hindex) ?_
  rw [hpiece]
  exact ⟨0xA9, rfl, by decide⟩

end ResSched.Executor
