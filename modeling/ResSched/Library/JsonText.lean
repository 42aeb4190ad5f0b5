import ResSched.Library.Utf8

/-! # Compact JSON text -/

namespace JsonText

/-! ## Printing -/

/-- The characters with a short escape, and what follows the backslash. -/
def shortEscapes : List (Char × Char) :=
  [('"', '"'), ('\\', '\\'), ('\x08', 'b'), ('\t', 't'), ('\n', 'n'), ('\x0c', 'f'), ('\r', 'r')]

def isControl (c : Char) : Bool :=
  c.toNat < 0x20

/-- How a character stands in a string; only ASCII characters are escaped. -/
def escapeChar (c : Char) : List Char :=
  match shortEscapes.lookup c with
  | some short => ['\\', short]
  | none =>
      if isControl c then
        ['\\', 'u', '0', '0', Nat.digitChar (c.toNat / 16), Nat.digitChar (c.toNat % 16)]
      else [c]

def escape (text : List Char) : List Char :=
  text.flatMap escapeChar

def quote (text : List Char) : List Char :=
  ['"'] ++ escape text ++ ['"']

def commas : List (List Char) → List Char
  | [] => []
  | [text] => text
  | text :: more => text ++ [','] ++ commas more

def array (elements : List (List Char)) : List Char :=
  ['['] ++ commas elements ++ [']']

/-- The members in the order given. -/
def object (members : List (List Char × List Char)) : List Char :=
  ['{'] ++ commas (members.map fun member => quote member.1 ++ [':'] ++ member.2) ++ ['}']

/-! ## Reading -/

def hexValue (digit : Char) : Nat :=
  ((List.range 16).find? fun value => Nat.digitChar value = digit).getD 0

/-- The first character of the inside of a string. -/
def readChar : List Char → Option (Char × List Char)
  | '\\' :: 'u' :: '0' :: '0' :: high :: low :: rest =>
      some (Char.ofNat (16 * hexValue high + hexValue low), rest)
  | '\\' :: short :: rest =>
      (shortEscapes.find? fun entry => entry.2 = short).map fun entry => (entry.1, rest)
  | c :: rest => some (c, rest)
  | [] => none

/-- The inside of a string up to its closing quote. -/
def readInside : Nat → List Char → Option (List Char × List Char)
  | 0, _ => none
  | fuel + 1, text =>
      if text.head? = some '"' then some ([], text.tail)
      else
        (readChar text).bind fun c =>
          (readInside fuel c.2).map fun inside => (c.1 :: inside.1, inside.2)

def readString (text : List Char) : Option (List Char × List Char) :=
  if text.head? = some '"' then readInside text.length text.tail else none

/-- The strings of an array from the first one on. -/
def readStrings : Nat → List Char → Option (List (List Char) × List Char)
  | 0, _ => none
  | fuel + 1, text =>
      (readString text).bind fun first =>
        match first.2 with
        | ',' :: rest =>
            (readStrings fuel rest).map fun strings => (first.1 :: strings.1, strings.2)
        | ']' :: rest => some ([first.1], rest)
        | _ => none

def readArray : List Char → Option (List (List Char) × List Char)
  | '[' :: ']' :: rest => some ([], rest)
  | '[' :: rest => readStrings rest.length rest
  | _ => none

def readNumber (text : List Char) : Option (Nat × List Char) :=
  if text.takeWhile Char.isDigit = [] then none
  else some (Nat.ofDigitChars 10 (text.takeWhile Char.isDigit) 0, text.dropWhile Char.isDigit)

/-! ## Reading what has been printed -/

theorem escapeChar_cases (c : Char) :
    (∃ short, (c, short) ∈ shortEscapes ∧ escapeChar c = ['\\', short]) ∨
      isControl c = true ∧ escapeChar c =
        ['\\', 'u', '0', '0', Nat.digitChar (c.toNat / 16), Nat.digitChar (c.toNat % 16)] ∨
      isControl c = false ∧ c ≠ '"' ∧ c ≠ '\\' ∧ escapeChar c = [c] := by
  rw [escapeChar]
  cases hlookup : shortEscapes.lookup c with
  | some short =>
      obtain ⟨front, back, hsplit, _⟩ := List.lookup_eq_some_iff.mp hlookup
      refine Or.inl ⟨short, ?_, rfl⟩
      rw [hsplit]
      exact List.mem_append_right front (List.mem_cons_self ..)
  | none =>
      have hnot := List.lookup_eq_none_iff.mp hlookup
      cases hcontrol : isControl c with
      | true => exact Or.inr (Or.inl ⟨rfl, rfl⟩)
      | false =>
          refine Or.inr (Or.inr ⟨rfl, ?_, ?_, rfl⟩)
          · exact bne_iff_ne.mp (hnot ('"', '"') (by decide))
          · exact bne_iff_ne.mp (hnot ('\\', '\\') (by decide))

theorem hexValue_digitChar : ∀ value < 16, hexValue (Nat.digitChar value) = value := by
  decide

theorem readChar_short (rest : List Char) : ∀ entry ∈ shortEscapes,
    readChar (['\\', entry.2] ++ rest) = some (entry.1, rest) := by
  simp only [shortEscapes, List.forall_mem_cons]
  exact ⟨rfl, rfl, rfl, rfl, rfl, rfl, rfl, List.forall_mem_nil _⟩

theorem readChar_plain {c : Char} (h : c ≠ '\\') (rest : List Char) :
    readChar (c :: rest) = some (c, rest) := by
  rw [readChar]
  · intro _ _ _ hbackslash
    exact absurd hbackslash h
  · intro _ _ hbackslash
    exact absurd hbackslash h

theorem readChar_escapeChar (c : Char) (rest : List Char) :
    readChar (escapeChar c ++ rest) = some (c, rest) := by
  rcases escapeChar_cases c with ⟨short, hmem, hescape⟩ | ⟨hcontrol, hescape⟩ |
    ⟨_, _, hbackslash, hescape⟩
  · rw [hescape]
    exact readChar_short rest _ hmem
  · have hlow : c.toNat < 0x20 := of_decide_eq_true hcontrol
    rw [hescape]
    change some (Char.ofNat _, rest) = _
    rw [hexValue_digitChar _ (by omega), hexValue_digitChar _ (by omega), Nat.div_add_mod,
      Char.ofNat_toNat]
  · rw [hescape]
    exact readChar_plain hbackslash rest

theorem escape_cons (c : Char) (text : List Char) :
    escape (c :: text) = escapeChar c ++ escape text :=
  List.flatMap_cons

/-- An escaped character is not taken for the closing quote. -/
theorem head?_escapeChar_append (c : Char) (rest : List Char) :
    (escapeChar c ++ rest).head? ≠ some '"' := by
  rcases escapeChar_cases c with ⟨short, _, hescape⟩ | ⟨_, hescape⟩ | ⟨_, hquote, _, hescape⟩
  · rw [hescape]
    exact ne_of_beq_false rfl
  · rw [hescape]
    exact ne_of_beq_false rfl
  · rw [hescape]
    exact fun heq => hquote (Option.some.inj heq)

theorem length_le_escape (text : List Char) : text.length ≤ (escape text).length := by
  induction text with
  | nil => exact le_rfl
  | cons c text ih =>
      have hpos : 1 ≤ (escapeChar c).length := by
        rcases escapeChar_cases c with ⟨short, _, hescape⟩ | ⟨_, hescape⟩ | ⟨_, _, _, hescape⟩ <;>
          simp [hescape]
      rw [escape_cons, List.length_append, List.length_cons]
      omega

theorem readInside_escape (text rest : List Char) {fuel : Nat} (hfuel : text.length < fuel) :
    readInside fuel (escape text ++ '"' :: rest) = some (text, rest) := by
  induction text generalizing fuel with
  | nil =>
      obtain ⟨fuel, rfl⟩ := Nat.exists_eq_add_one_of_ne_zero (Nat.ne_zero_of_lt hfuel)
      rfl
  | cons c text ih =>
      obtain ⟨fuel, rfl⟩ := Nat.exists_eq_add_one_of_ne_zero (Nat.ne_zero_of_lt hfuel)
      rw [escape_cons, List.append_assoc, readInside, if_neg (head?_escapeChar_append c _),
        readChar_escapeChar, Option.bind_some, ih (Nat.lt_of_succ_lt_succ hfuel)]
      rfl

theorem readString_quote (text rest : List Char) :
    readString (quote text ++ rest) = some (text, rest) := by
  have hlength : (quote text ++ rest).length = (escape text).length + rest.length + 2 := by
    simp only [quote, List.length_append, List.length_singleton]
    omega
  have hle := length_le_escape text
  rw [readString, hlength]
  simp only [quote, List.append_assoc, List.cons_append, List.nil_append, List.head?_cons,
    List.tail_cons, if_true]
  exact readInside_escape text rest (by omega)

theorem commas_cons_cons (text next : List Char) (more : List (List Char)) :
    commas (text :: next :: more) = text ++ ',' :: commas (next :: more) := by
  rw [commas, List.append_assoc]
  · rfl
  · exact List.cons_ne_nil _ _

theorem readStrings_commas (text : List Char) (more : List (List Char)) (rest : List Char)
    {fuel : Nat} (hfuel : more.length < fuel) :
    readStrings fuel (commas ((text :: more).map quote) ++ ']' :: rest) =
      some (text :: more, rest) := by
  induction more generalizing text fuel with
  | nil =>
      obtain ⟨fuel, rfl⟩ := Nat.exists_eq_add_one_of_ne_zero (Nat.ne_zero_of_lt hfuel)
      rw [List.map_singleton, commas, readStrings, readString_quote]
      rfl
  | cons next more ih =>
      obtain ⟨fuel, rfl⟩ := Nat.exists_eq_add_one_of_ne_zero (Nat.ne_zero_of_lt hfuel)
      rw [List.map_cons, List.map_cons, commas_cons_cons, List.append_assoc, readStrings,
        readString_quote, Option.bind_some, List.cons_append]
      change (readStrings fuel (commas ((next :: more).map quote) ++ ']' :: rest)).map _ = _
      rw [ih next (Nat.lt_of_succ_lt_succ hfuel)]
      rfl

theorem length_lt_commas (text : List Char) (more : List (List Char)) :
    more.length < (commas ((text :: more).map quote)).length := by
  induction more generalizing text with
  | nil => simp [commas, quote]
  | cons next more ih =>
      have hnext := ih next
      rw [List.map_cons] at hnext
      rw [List.map_cons, List.map_cons, commas_cons_cons, List.length_append, List.length_cons,
        List.length_cons]
      omega

theorem readArray_array (texts : List (List Char)) (rest : List Char) :
    readArray (array (texts.map quote) ++ rest) = some (texts, rest) := by
  cases texts with
  | nil => rfl
  | cons text more =>
      have hfuel : more.length < (commas ((text :: more).map quote) ++ ']' :: rest).length := by
        rw [List.length_append]
        exact Nat.lt_add_right _ (length_lt_commas text more)
      rw [← readStrings_commas text more rest hfuel]
      simp only [array, List.append_assoc, List.cons_append, List.nil_append]
      have hopening : ∃ inside, commas ((text :: more).map quote) = '"' :: inside := by
        cases more with
        | nil => exact ⟨_, rfl⟩
        | cons next more => exact ⟨_, commas_cons_cons _ _ _⟩
      obtain ⟨inside, hinside⟩ := hopening
      rw [hinside]
      rfl

theorem readNumber_toDigits (n : Nat) (rest : List Char)
    (hrest : ∀ c ∈ rest.head?, c.isDigit = false) :
    readNumber (Nat.toDigits 10 n ++ rest) = some (n, rest) := by
  have hdigits : ∀ c ∈ Nat.toDigits 10 n, c.isDigit = true :=
    fun c hc => Nat.isDigit_of_mem_toDigits (by decide) (by decide) hc
  have htake : rest.takeWhile Char.isDigit = [] := by
    cases rest with
    | nil => rfl
    | cons c rest => rw [List.takeWhile_cons, hrest c rfl]; rfl
  have hdrop : rest.dropWhile Char.isDigit = rest := by
    cases rest with
    | nil => rfl
    | cons c rest => rw [List.dropWhile_cons, hrest c rfl]; rfl
  rw [readNumber, List.takeWhile_append_of_pos hdigits, htake, List.append_nil,
    List.dropWhile_append_of_pos hdigits, hdrop, if_neg Nat.toDigits_ne_nil,
    Nat.ofDigitChars_ten_toDigits]

/-! ## What printed text consists of -/

/-- A property of every character of a literal, checked along the literal. -/
theorem forall_mem_of_all {p : Char → Prop} [DecidablePred p] {text : List Char}
    (h : text.all (fun c => decide (p c)) = true) : ∀ c ∈ text, p c :=
  fun c hc => of_decide_eq_true (List.all_eq_true.mp h c hc)

theorem ascii_digitChar : ∀ value < 16,
    (Nat.digitChar value).toNat < 0x80 ∧ isControl (Nat.digitChar value) = false := by
  decide

theorem ascii_shortEscapes : ∀ entry ∈ shortEscapes,
    entry.1.toNat < 0x80 ∧ entry.2.toNat < 0x80 ∧ isControl entry.2 = false := by
  decide

/-- A character is escaped by printable ASCII characters, or stands for itself. -/
theorem escapeChar_spec (c : Char) :
    c.toNat < 0x80 ∧ (∀ other ∈ escapeChar c, other.toNat < 0x80 ∧ isControl other = false) ∨
      0x80 ≤ c.toNat ∧ escapeChar c = [c] := by
  rcases escapeChar_cases c with ⟨short, hmem, hescape⟩ | ⟨hcontrol, hescape⟩ |
    ⟨hcontrol, _, _, hescape⟩
  · obtain ⟨hc, hshort⟩ := ascii_shortEscapes _ hmem
    refine Or.inl ⟨hc, ?_⟩
    rw [hescape, List.forall_mem_cons, List.forall_mem_singleton]
    exact ⟨by decide, hshort⟩
  · have hlow : c.toNat < 0x20 := of_decide_eq_true hcontrol
    refine Or.inl ⟨by omega, ?_⟩
    rw [hescape]
    simp only [List.forall_mem_cons]
    exact ⟨by decide, by decide, by decide, by decide, ascii_digitChar _ (by omega),
      ascii_digitChar _ (by omega), List.forall_mem_nil _⟩
  · by_cases hc : c.toNat < 0x80
    · refine Or.inl ⟨hc, ?_⟩
      rw [hescape, List.forall_mem_singleton]
      exact ⟨hc, hcontrol⟩
    · exact Or.inr ⟨not_lt.mp hc, hescape⟩

theorem isControl_escape (text : List Char) : ∀ c ∈ escape text, isControl c = false := by
  intro c hmem
  obtain ⟨other, _, hmem⟩ := List.mem_flatMap.mp hmem
  rcases escapeChar_spec other with ⟨_, hall⟩ | ⟨hhigh, hescape⟩
  · exact (hall c hmem).2
  · rw [hescape, List.mem_singleton] at hmem
    subst hmem
    rw [isControl, decide_eq_false_iff_not]
    omega

theorem isControl_quote (text : List Char) : ∀ c ∈ quote text, isControl c = false := by
  have hquote : ∀ c ∈ ['"'], isControl c = false := forall_mem_of_all (by decide)
  rw [quote, List.forall_mem_append, List.forall_mem_append]
  exact ⟨⟨hquote, isControl_escape text⟩, hquote⟩

theorem isControl_commas (texts : List (List Char))
    (h : ∀ text ∈ texts, ∀ c ∈ text, isControl c = false) :
    ∀ c ∈ commas texts, isControl c = false := by
  induction texts with
  | nil => exact List.forall_mem_nil _
  | cons text more ih =>
      obtain ⟨htext, hmore⟩ := List.forall_mem_cons.mp h
      cases more with
      | nil => exact htext
      | cons next more =>
          rw [commas_cons_cons, List.forall_mem_append, List.forall_mem_cons]
          exact ⟨htext, by decide, ih hmore⟩

theorem isControl_array (elements : List (List Char))
    (h : ∀ text ∈ elements, ∀ c ∈ text, isControl c = false) :
    ∀ c ∈ array elements, isControl c = false := by
  rw [array, List.forall_mem_append, List.forall_mem_append]
  exact ⟨⟨forall_mem_of_all (by decide), isControl_commas elements h⟩,
    forall_mem_of_all (by decide)⟩

theorem isControl_object (members : List (List Char × List Char))
    (h : ∀ member ∈ members, ∀ c ∈ member.2, isControl c = false) :
    ∀ c ∈ object members, isControl c = false := by
  rw [object, List.forall_mem_append, List.forall_mem_append]
  refine ⟨⟨forall_mem_of_all (by decide), isControl_commas _ ?_⟩, forall_mem_of_all (by decide)⟩
  rw [List.forall_mem_map]
  intro member hmem
  rw [List.forall_mem_append, List.forall_mem_append]
  exact ⟨⟨isControl_quote _, forall_mem_of_all (by decide)⟩, h member hmem⟩

/-! ## Lengths -/

theorem shortEscapes_not_control : ∀ entry ∈ shortEscapes, isControl entry.1 = false →
    entry = ('"', '"') ∨ entry = ('\\', '\\') := by
  decide

/-- Without control characters only quotes and backslashes are escaped, by one byte each. -/
theorem length_encode_escape {text : List Char} (h : ∀ c ∈ text, isControl c = false) :
    (Utf8.encode (escape text)).length =
      (Utf8.encode text).length + text.count '"' + text.count '\\' := by
  induction text with
  | nil => rfl
  | cons c text ih =>
      obtain ⟨hc, htext⟩ := List.forall_mem_cons.mp h
      rw [escape_cons, Utf8.encode_append, List.length_append, ih htext, Utf8.encode_cons,
        List.length_append, List.count_cons, List.count_cons]
      rcases escapeChar_cases c with ⟨short, hmem, hescape⟩ | ⟨hcontrol, _⟩ |
        ⟨_, hquote, hbackslash, hescape⟩
      · rcases shortEscapes_not_control _ hmem hc with heq | heq
        · obtain ⟨rfl, rfl⟩ := Prod.mk.inj heq
          have hlength : (Utf8.encode ['\\', '"']).length = 2 := by decide
          have hone : (String.utf8EncodeChar '"').length = 1 := by decide
          rw [hescape, hlength, hone, if_pos (by decide), if_neg (by decide)]
          omega
        · obtain ⟨rfl, rfl⟩ := Prod.mk.inj heq
          have hlength : (Utf8.encode ['\\', '\\']).length = 2 := by decide
          have hone : (String.utf8EncodeChar '\\').length = 1 := by decide
          rw [hescape, hlength, hone, if_neg (by decide), if_pos (by decide)]
          omega
      · rw [hcontrol] at hc
        cases hc
      · rw [hescape, if_neg (by simpa using hquote), if_neg (by simpa using hbackslash),
          Utf8.encode_cons, List.length_append]
        have hnil : (Utf8.encode []).length = 0 := rfl
        omega

/-! ## Mangled text -/

open Utf8

theorem escape_append (text more : List Char) :
    escape (text ++ more) = escape text ++ escape more :=
  List.flatMap_append

theorem escape_replicate_replacement (count : Nat) :
    escape (List.replicate count replacement) = List.replicate count replacement := by
  induction count with
  | zero => rfl
  | succ count ih =>
      have hreplacement : escapeChar replacement = [replacement] := by decide
      rw [List.replicate_succ, escape_cons, ih, hreplacement]
      rfl

/-- What is left of an escaped string is an escaped string, since the escapes are ASCII. -/
theorem exists_of_mangled_escape {text mangled : List Char} (h : Mangled (escape text) mangled) :
    ∃ other, mangled = escape other := by
  induction text generalizing mangled with
  | nil =>
      cases h
      exact ⟨[], rfl⟩
  | cons c text ih =>
      rw [escape_cons] at h
      obtain ⟨front, back, rfl, hfront, hback⟩ := h.of_append
      obtain ⟨other, rfl⟩ := ih hback
      rcases escapeChar_spec c with ⟨_, hall⟩ | ⟨_, hescape⟩
      · refine ⟨c :: other, ?_⟩
        rw [hfront.eq_of_ascii fun c hmem => (hall c hmem).1, escape_cons]
      · rw [hescape] at hfront
        cases hfront with
        | keep c hrest =>
            cases hrest
            refine ⟨c :: other, ?_⟩
            rw [escape_cons, hescape]
        | replace c more _ hrest =>
            cases hrest
            refine ⟨List.replicate (more + 2) replacement ++ other, ?_⟩
            rw [escape_append, escape_replicate_replacement, List.append_nil]

theorem exists_of_mangled_quote {text mangled : List Char} (h : Mangled (quote text) mangled) :
    ∃ other, mangled = quote other := by
  rw [quote] at h
  obtain ⟨front, back, rfl, hfront, hback⟩ := h.of_append
  obtain ⟨opening, inside, rfl, hopening, hinside⟩ := hfront.of_append
  obtain ⟨other, rfl⟩ := exists_of_mangled_escape hinside
  refine ⟨other, ?_⟩
  rw [hopening.eq_of_ascii (forall_mem_of_all (by decide)),
    hback.eq_of_ascii (forall_mem_of_all (by decide)), quote]

theorem exists_of_mangled_commas {texts : List (List Char)} {mangled : List Char}
    (h : Mangled (commas (texts.map quote)) mangled) :
    ∃ others : List (List Char), others.length = texts.length ∧
      mangled = commas (others.map quote) := by
  induction texts generalizing mangled with
  | nil =>
      cases h
      exact ⟨[], rfl, rfl⟩
  | cons text more ih =>
      cases more with
      | nil =>
          obtain ⟨other, rfl⟩ := exists_of_mangled_quote h
          exact ⟨[other], rfl, rfl⟩
      | cons next more =>
          rw [List.map_cons, List.map_cons, commas_cons_cons] at h
          obtain ⟨front, back, rfl, hfront, hback⟩ := h.of_append
          obtain ⟨other, rfl⟩ := exists_of_mangled_quote hfront
          cases hback with
          | keep _ hrest =>
              obtain ⟨others, hlength, rfl⟩ := ih hrest
              obtain ⟨second, others, rfl⟩ := List.exists_cons_of_length_eq_add_one hlength
              refine ⟨other :: second :: others, congrArg Nat.succ hlength, ?_⟩
              exact (commas_cons_cons (quote other) (quote second) (others.map quote)).symm
          | replace _ more hascii _ => exact absurd hascii (by decide)

theorem exists_of_mangled_array {texts : List (List Char)} {mangled : List Char}
    (h : Mangled (array (texts.map quote)) mangled) :
    ∃ others : List (List Char), mangled = array (others.map quote) := by
  rw [array] at h
  obtain ⟨front, back, rfl, hfront, hback⟩ := h.of_append
  obtain ⟨opening, inside, rfl, hopening, hinside⟩ := hfront.of_append
  obtain ⟨others, _, rfl⟩ := exists_of_mangled_commas hinside
  refine ⟨others, ?_⟩
  rw [hopening.eq_of_ascii (forall_mem_of_all (by decide)),
    hback.eq_of_ascii (forall_mem_of_all (by decide)), array]

end JsonText
