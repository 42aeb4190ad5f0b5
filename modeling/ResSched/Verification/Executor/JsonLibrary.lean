import ResSched.Library.DecimalText
import ResSched.Library.JsonText
import ResSched.Model.Executor.Client

/-! # What the JSON library is documented to do -/

namespace ResSched.Executor

open JsonText Utf8

/-! ## Dumps -/

section

variable (printFloat : UInt64 → List Char)

mutual

/-- The compact text of a value, with U+FFFD for what is ill-formed in its strings. -/
def textOf : Json Bytes → List Char
  | .null => "null".toList
  | .bool b => if b then "true".toList else "false".toList
  | .int i => if i < 0 then '-' :: Nat.toDigits 10 i.natAbs else Nat.toDigits 10 i.natAbs
  | .uint n => Nat.toDigits 10 n
  | .float bits => printFloat bits
  | .string s => quote (decode s)
  | .array elements => array (textsOf elements)
  | .object members => object (memberTextsOf members)

def textsOf : List (Json Bytes) → List (List Char)
  | [] => []
  | json :: more => textOf json :: textsOf more

def memberTextsOf : List (Bytes × Json Bytes) → List (List Char × List Char)
  | [] => []
  | (key, json) :: more => (decode key, textOf json) :: memberTextsOf more

end

/-- A dump is the compact text, in which floating-point numbers are printed without control
characters. -/
structure DumpDocumented (env : External) : Prop where
  dump : ∀ json, env.dump json = encode (textOf printFloat json)
  printFloat : ∀ bits, ∀ c ∈ printFloat bits, isControl c = false

theorem isControl_toDigits (n : Nat) : ∀ c ∈ Nat.toDigits 10 n, isControl c = false := by
  intro c hc
  have hdigit := CLibrary.toNat_of_mem_toDigits hc
  rw [isControl, decide_eq_false_iff_not]
  omega

mutual

/-- There is no control character in a dump, not even in its strings. -/
theorem isControl_textOf (hfloat : ∀ bits, ∀ c ∈ printFloat bits, isControl c = false) :
    ∀ json, ∀ c ∈ textOf printFloat json, isControl c = false
  | .null => by
      rw [textOf]
      exact forall_mem_of_all (by decide)
  | .bool b => by
      rw [textOf]
      cases b
      · exact forall_mem_of_all (by decide)
      · exact forall_mem_of_all (by decide)
  | .int i => by
      rw [textOf]
      split_ifs
      · exact List.forall_mem_cons.mpr ⟨by decide, isControl_toDigits _⟩
      · exact isControl_toDigits _
  | .uint n => isControl_toDigits n
  | .float bits => hfloat bits
  | .string s => isControl_quote _
  | .array elements => isControl_array _ (isControl_textsOf hfloat elements)
  | .object members => isControl_object _ (isControl_memberTextsOf hfloat members)

theorem isControl_textsOf (hfloat : ∀ bits, ∀ c ∈ printFloat bits, isControl c = false) :
    ∀ elements, ∀ text ∈ textsOf printFloat elements, ∀ c ∈ text, isControl c = false
  | [] => List.forall_mem_nil _
  | json :: more =>
      List.forall_mem_cons.mpr ⟨isControl_textOf hfloat json, isControl_textsOf hfloat more⟩

theorem isControl_memberTextsOf (hfloat : ∀ bits, ∀ c ∈ printFloat bits, isControl c = false) :
    ∀ members, ∀ member ∈ memberTextsOf printFloat members, ∀ c ∈ member.2, isControl c = false
  | [] => List.forall_mem_nil _
  | (_, json) :: more => List.forall_mem_cons.mpr
      ⟨isControl_textOf hfloat json, isControl_memberTextsOf hfloat more⟩

end

/-! ## The two shapes of a message -/

def contextText (configStrs switchStrs : List (List Char)) : List Char :=
  object [("config".toList, array (configStrs.map quote)),
    ("switch".toList, array (switchStrs.map quote))]

def messageText (messageNumber messageIndex : Nat) (msg : List Char) : List Char :=
  object [("IPC_MESSAGE".toList, quote msg),
    ("MESSAGE_INDEX".toList, Nat.toDigits 10 messageIndex),
    ("MESSAGE_NUMBER".toList, Nat.toDigits 10 messageNumber)]

theorem textsOf_strings (strings : List Bytes) :
    textsOf printFloat (strings.map .string) = (strings.map decode).map quote := by
  induction strings with
  | nil => rfl
  | cons string strings ih => rw [List.map_cons, textsOf, ih]; rfl

theorem decode_key (key : String) (bytes : Bytes) (h : bytes = encode key.toList) :
    decode bytes = key.toList := by
  rw [h, decode_encode]

theorem textOf_initContext (configStrs switchStrs : List Bytes) :
    textOf printFloat (initContext configStrs switchStrs) =
      contextText (configStrs.map decode) (switchStrs.map decode) := by
  rw [initContext, textOf, memberTextsOf, memberTextsOf, memberTextsOf, textOf, textOf,
    textsOf_strings, textsOf_strings, decode_key "config" STR_CONFIG_READER (by decide),
    decode_key "switch" STR_PLUGIN_SWITCH (by decide), contextText]

theorem textOf_jsonIpc (messageNumber messageIndex : Nat) (msg : Bytes) :
    textOf printFloat (jsonIpc messageNumber messageIndex msg) =
      messageText messageNumber messageIndex (decode msg) := by
  rw [jsonIpc]
  simp only [textOf, memberTextsOf]
  rw [if_neg (by omega), if_neg (by omega), decode_key "IPC_MESSAGE" STR_IPC_MESSAGE (by decide),
    decode_key "MESSAGE_INDEX" STR_MESSAGE_INDEX (by decide),
    decode_key "MESSAGE_NUMBER" STR_MESSAGE_NUMBER (by decide), messageText]
  rfl

end

/-! ## Parsing -/

/-- A message as the parser returns it: its numbers are unsigned. -/
def parsedIpc (messageNumber messageIndex : Nat) (msg : Bytes) : Json Bytes :=
  .object [(STR_IPC_MESSAGE, .string msg), (STR_MESSAGE_INDEX, .uint messageIndex),
    (STR_MESSAGE_NUMBER, .uint messageNumber)]

/-- What has been dumped is read back, when its strings are well-formed. -/
structure ParseDocumented (env : External) : Prop where
  context : ∀ configStrs switchStrs : List (List Char),
    env.parse (env.dump (initContext (configStrs.map encode) (switchStrs.map encode))) =
      some (initContext (configStrs.map encode) (switchStrs.map encode))
  message : ∀ (messageNumber messageIndex : Nat) (msg : List Char),
    env.parse (env.dump (jsonIpc messageNumber messageIndex (encode msg))) =
      some (parsedIpc messageNumber messageIndex (encode msg))

/-! ## A library for the two shapes -/

def readContext (text : List Char) : Option (Json Bytes) := do
  let text ← "\x7b\"config\":".toList.isPrefixOf? text
  let (configStrs, text) ← readArray text
  let text ← ",\"switch\":".toList.isPrefixOf? text
  let (switchStrs, text) ← readArray text
  if text = ['}'] then some (initContext (configStrs.map encode) (switchStrs.map encode)) else none

def readMessage (text : List Char) : Option (Json Bytes) := do
  let text ← "\x7b\"IPC_MESSAGE\":".toList.isPrefixOf? text
  let (msg, text) ← readString text
  let text ← ",\"MESSAGE_INDEX\":".toList.isPrefixOf? text
  let (messageIndex, text) ← readNumber text
  let text ← ",\"MESSAGE_NUMBER\":".toList.isPrefixOf? text
  let (messageNumber, text) ← readNumber text
  if text = ['}'] then some (parsedIpc messageNumber messageIndex (encode msg)) else none

/-- It prints every value and reads the two shapes of a message. -/
def compactLibrary : External where
  dump := fun json => encode (textOf (fun _ => ['0']) json)
  parse := fun content => (readContext (decode content)).or (readMessage (decode content))
  floatToInt := fun _ => 0

theorem contextText_eq (configStrs switchStrs : List (List Char)) :
    contextText configStrs switchStrs = "\x7b\"config\":".toList ++
      (array (configStrs.map quote) ++ (",\"switch\":".toList ++
        (array (switchStrs.map quote) ++ ['}']))) := by
  have hconfig : quote "config".toList = "\"config\"".toList := by decide
  have hswitch : quote "switch".toList = "\"switch\"".toList := by decide
  rw [contextText, object]
  simp only [List.map_cons, List.map_nil, hconfig, hswitch, commas_cons_cons, commas]
  simp

theorem messageText_eq (messageNumber messageIndex : Nat) (msg : List Char) :
    messageText messageNumber messageIndex msg = "\x7b\"IPC_MESSAGE\":".toList ++
      (quote msg ++ (",\"MESSAGE_INDEX\":".toList ++ (Nat.toDigits 10 messageIndex ++
        (",\"MESSAGE_NUMBER\":".toList ++ (Nat.toDigits 10 messageNumber ++ ['}']))))) := by
  have hmessage : quote "IPC_MESSAGE".toList = "\"IPC_MESSAGE\"".toList := by decide
  have hindex : quote "MESSAGE_INDEX".toList = "\"MESSAGE_INDEX\"".toList := by decide
  have hnumber : quote "MESSAGE_NUMBER".toList = "\"MESSAGE_NUMBER\"".toList := by decide
  rw [messageText, object]
  simp only [List.map_cons, List.map_nil, hmessage, hindex, hnumber, commas_cons_cons, commas]
  simp

theorem isPrefixOf?_append (literal text : List Char) :
    literal.isPrefixOf? (literal ++ text) = some text :=
  List.isPrefixOf?_eq_some_iff_append_eq.mpr rfl

theorem readContext_contextText (configStrs switchStrs : List (List Char)) :
    readContext (contextText configStrs switchStrs) =
      some (initContext (configStrs.map encode) (switchStrs.map encode)) := by
  simp only [contextText_eq, readContext, isPrefixOf?_append, Option.bind_eq_bind,
    Option.bind_some, readArray_array, if_true]

theorem readMessage_messageText (messageNumber messageIndex : Nat) (msg : List Char) :
    readMessage (messageText messageNumber messageIndex msg) =
      some (parsedIpc messageNumber messageIndex (encode msg)) := by
  have hindex := readNumber_toDigits messageIndex
    (",\"MESSAGE_NUMBER\":".toList ++ (Nat.toDigits 10 messageNumber ++ ['}'])) (by
      intro c hc
      obtain rfl : ',' = c := Option.some.inj hc
      decide)
  have hnumber := readNumber_toDigits messageNumber ['}'] (by
      intro c hc
      obtain rfl : '}' = c := Option.some.inj hc
      decide)
  simp only [messageText_eq, readMessage, isPrefixOf?_append, Option.bind_eq_bind,
    Option.bind_some, readString_quote, hindex, hnumber, if_true]

theorem readContext_messageText (messageNumber messageIndex : Nat) (msg : List Char) :
    readContext (messageText messageNumber messageIndex msg) = none := by
  rw [messageText_eq, readContext]
  rfl

theorem map_decode_encode (texts : List (List Char)) :
    (texts.map encode).map decode = texts := by
  rw [List.map_map, show decode ∘ encode = id from funext decode_encode, List.map_id]

theorem compactLibrary_dumpDocumented : DumpDocumented (fun _ => ['0']) compactLibrary where
  dump := fun _ => rfl
  printFloat := fun _ => forall_mem_of_all (by decide)

theorem compactLibrary_parseDocumented : ParseDocumented compactLibrary where
  context := fun configStrs switchStrs => by
    simp only [compactLibrary, textOf_initContext, decode_encode, map_decode_encode,
      readContext_contextText, Option.some_or]
  message := fun messageNumber messageIndex msg => by
    simp only [compactLibrary, textOf_jsonIpc, decode_encode, readContext_messageText,
      readMessage_messageText, Option.none_or]

end ResSched.Executor
