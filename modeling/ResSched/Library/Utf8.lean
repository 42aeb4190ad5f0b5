import ResSched.Library.Batches
import Mathlib.Data.List.Forall2

/-! # UTF-8, read with a replacement for what is ill-formed -/

namespace Utf8

/-- The least and the greatest byte at one place of a character. -/
structure Range where
  low : Nat
  high : Nat

def Range.contains (range : Range) (byte : UInt8) : Bool :=
  range.low ≤ byte.toNat && byte.toNat ≤ range.high

def continuation : Range := ⟨0x80, 0xBF⟩

/-- The ranges of the bytes that follow the leading byte of a character. -/
def following (lead : UInt8) : Option (List Range) :=
  let lead := lead.toNat
  if lead < 0x80 then some []
  else if lead < 0xC2 then none
  else if lead < 0xE0 then some [continuation]
  else if lead = 0xE0 then some [⟨0xA0, 0xBF⟩, continuation]
  else if lead = 0xED then some [⟨0x80, 0x9F⟩, continuation]
  else if lead < 0xF0 then some [continuation, continuation]
  else if lead = 0xF0 then some [⟨0x90, 0xBF⟩, continuation, continuation]
  else if lead < 0xF4 then some [continuation, continuation, continuation]
  else if lead = 0xF4 then some [⟨0x80, 0x8F⟩, continuation, continuation]
  else none

/-- The bytes at the front that are in their ranges. -/
def fitting : List Range → List UInt8 → List UInt8
  | range :: ranges, byte :: bytes =>
      if range.contains byte then byte :: fitting ranges bytes else []
  | _, _ => []

/-- The bytes after a leading byte that belong to its character. -/
def tail (lead : UInt8) (bytes : List UInt8) : List UInt8 :=
  fitting ((following lead).getD []) bytes

def complete (lead : UInt8) (tail : List UInt8) : Bool :=
  (following lead).any fun ranges => ranges.length = tail.length

/-- The bits the bytes of a character carry. -/
def codePoint (lead : UInt8) (tail : List UInt8) : Nat :=
  tail.foldl (fun value byte => value * 64 + byte.toNat % 64)
    (if tail = [] then lead.toNat else lead.toNat % 2 ^ (6 - tail.length))

/-- U+FFFD. -/
def replacement : Char := '\uFFFD'

/-- The characters of `bytes`, with the replacement for each sequence that begins a character and
does not complete it, and for each byte that begins none. -/
def decode : List UInt8 → List Char
  | [] => []
  | lead :: bytes =>
      (if complete lead (tail lead bytes) then Char.ofNat (codePoint lead (tail lead bytes))
        else replacement) :: decode (bytes.drop (tail lead bytes).length)
termination_by bytes => bytes.length
decreasing_by
  rw [List.length_drop, List.length_cons]
  omega

def encode (text : List Char) : List UInt8 :=
  text.flatMap String.utf8EncodeChar

/-! ## One character -/

/-- A leading byte and bytes in its ranges, with the bits of the character. -/
structure Encodes (c : Char) (lead : UInt8) (rest : List UInt8) (ranges : List Range) : Prop where
  following_eq : following lead = some ranges
  inRanges : List.Forall₂ (fun range byte => range.contains byte = true) ranges rest
  codePoint_eq : codePoint lead rest = c.toNat

theorem contains_ofNat (range : Range) {n : Nat} (hn : n < 256) :
    range.contains (UInt8.ofNat n) = true ↔ range.low ≤ n ∧ n ≤ range.high := by
  rw [Range.contains, UInt8.toNat_ofNat_of_lt' hn, Bool.and_eq_true, decide_eq_true_iff,
    decide_eq_true_iff]

theorem toNat_ofNat {n : Nat} (hn : n < 256) : (UInt8.ofNat n).toNat = n :=
  UInt8.toNat_ofNat_of_lt' hn

theorem forall₂_contains_ofNat {ranges : List Range} (rest : List Nat)
    (h : List.Forall₂ (fun range n => n < 256 ∧ range.low ≤ n ∧ n ≤ range.high) ranges rest) :
    List.Forall₂ (fun range byte => range.contains byte = true) ranges
      (rest.map UInt8.ofNat) := by
  rw [List.forall₂_map_right_iff]
  exact h.imp fun range n hn => (contains_ofNat range hn.1).mpr hn.2

section

variable {c : Char} {v : Nat} (hv : c.toNat = v)

include hv

theorem encodes_one (h : v < 0x80) : Encodes c (UInt8.ofNat v) [] [] where
  following_eq := by rw [following, toNat_ofNat (by omega), if_pos h]
  inRanges := .nil
  codePoint_eq := by rw [codePoint, List.foldl_nil, if_pos rfl, toNat_ofNat (by omega), hv]

theorem encodes_two (hlow : 0x80 ≤ v) (hhigh : v < 0x800) :
    Encodes c (UInt8.ofNat (v / 64 % 0x20 + 0xC0)) [UInt8.ofNat (v % 0x40 + 0x80)]
      [continuation] where
  following_eq := by
    rw [following, toNat_ofNat (by omega), if_neg (by omega), if_neg (by omega), if_pos (by omega)]
  inRanges := by
    refine forall₂_contains_ofNat [v % 0x40 + 0x80] (.cons ?_ .nil)
    dsimp only [continuation]
    omega
  codePoint_eq := by
    have hlast := toNat_ofNat (show v % 0x40 + 0x80 < 256 by omega)
    rw [codePoint, if_neg (List.cons_ne_nil _ _), toNat_ofNat (by omega)]
    simp only [List.foldl_cons, List.foldl_nil, List.length_cons, List.length_nil, hlast, hv]
    omega

theorem encodes_three (hlow : 0x800 ≤ v) (hhigh : v < 0x10000) (hvalid : v < 0xD800 ∨ 0xDFFF < v) :
    ∃ ranges, Encodes c (UInt8.ofNat (v / 4096 % 0x10 + 0xE0))
      [UInt8.ofNat (v / 64 % 0x40 + 0x80), UInt8.ofNat (v % 0x40 + 0x80)] ranges := by
  have hcode : codePoint (UInt8.ofNat (v / 4096 % 0x10 + 0xE0))
      [UInt8.ofNat (v / 64 % 0x40 + 0x80), UInt8.ofNat (v % 0x40 + 0x80)] = c.toNat := by
    have hsecond := toNat_ofNat (show v / 64 % 0x40 + 0x80 < 256 by omega)
    have hlast := toNat_ofNat (show v % 0x40 + 0x80 < 256 by omega)
    rw [codePoint, if_neg (List.cons_ne_nil _ _), toNat_ofNat (by omega)]
    simp only [List.foldl_cons, List.foldl_nil, List.length_cons, List.length_nil, hsecond, hlast,
      hv]
    omega
  -- The first byte decides which second bytes are allowed: no overlong form, no surrogate.
  have hranges : ∃ second : Range,
      following (UInt8.ofNat (v / 4096 % 0x10 + 0xE0)) = some [second, continuation] ∧
        second.low ≤ v / 64 % 0x40 + 0x80 ∧ v / 64 % 0x40 + 0x80 ≤ second.high := by
    rw [following, toNat_ofNat (by omega), if_neg (by omega), if_neg (by omega), if_neg (by omega)]
    by_cases hlowest : v < 0x1000
    · refine ⟨⟨0xA0, 0xBF⟩, if_pos (by omega), ?_⟩
      dsimp only
      omega
    · rw [if_neg (by omega)]
      by_cases hsurrogate : v / 4096 = 0xD
      · refine ⟨⟨0x80, 0x9F⟩, if_pos (by omega), ?_⟩
        dsimp only
        omega
      · rw [if_neg (by omega), if_pos (by omega)]
        refine ⟨continuation, rfl, ?_⟩
        dsimp only [continuation]
        omega
  obtain ⟨second, hfollowing, hsecond⟩ := hranges
  refine ⟨[second, continuation], hfollowing, ?_, hcode⟩
  refine forall₂_contains_ofNat [v / 64 % 0x40 + 0x80, v % 0x40 + 0x80] (.cons ?_ (.cons ?_ .nil))
  · exact ⟨by omega, hsecond⟩
  · dsimp only [continuation]
    omega

theorem encodes_four (hlow : 0x10000 ≤ v) (hhigh : v < 0x110000) :
    ∃ ranges, Encodes c (UInt8.ofNat (v / 262144 % 0x08 + 0xF0))
      [UInt8.ofNat (v / 4096 % 0x40 + 0x80), UInt8.ofNat (v / 64 % 0x40 + 0x80),
        UInt8.ofNat (v % 0x40 + 0x80)] ranges := by
  have hcode : codePoint (UInt8.ofNat (v / 262144 % 0x08 + 0xF0))
      [UInt8.ofNat (v / 4096 % 0x40 + 0x80), UInt8.ofNat (v / 64 % 0x40 + 0x80),
        UInt8.ofNat (v % 0x40 + 0x80)] = c.toNat := by
    have hsecond := toNat_ofNat (show v / 4096 % 0x40 + 0x80 < 256 by omega)
    have hthird := toNat_ofNat (show v / 64 % 0x40 + 0x80 < 256 by omega)
    have hlast := toNat_ofNat (show v % 0x40 + 0x80 < 256 by omega)
    rw [codePoint, if_neg (List.cons_ne_nil _ _), toNat_ofNat (by omega)]
    simp only [List.foldl_cons, List.foldl_nil, List.length_cons, List.length_nil, hsecond, hthird,
      hlast, hv]
    omega
  -- No overlong form, and nothing above U+10FFFF.
  have hranges : ∃ second : Range,
      following (UInt8.ofNat (v / 262144 % 0x08 + 0xF0)) =
        some [second, continuation, continuation] ∧
        second.low ≤ v / 4096 % 0x40 + 0x80 ∧ v / 4096 % 0x40 + 0x80 ≤ second.high := by
    rw [following, toNat_ofNat (by omega), if_neg (by omega), if_neg (by omega), if_neg (by omega),
      if_neg (by omega), if_neg (by omega), if_neg (by omega)]
    by_cases hlowest : v < 0x40000
    · refine ⟨⟨0x90, 0xBF⟩, if_pos (by omega), ?_⟩
      dsimp only
      omega
    · rw [if_neg (by omega)]
      by_cases hhighest : 0x100000 ≤ v
      · rw [if_neg (by omega)]
        refine ⟨⟨0x80, 0x8F⟩, if_pos (by omega), ?_⟩
        dsimp only
        omega
      · refine ⟨continuation, if_pos (by omega), ?_⟩
        dsimp only [continuation]
        omega
  obtain ⟨second, hfollowing, hsecond⟩ := hranges
  refine ⟨[second, continuation, continuation], hfollowing, ?_, hcode⟩
  refine forall₂_contains_ofNat [v / 4096 % 0x40 + 0x80, v / 64 % 0x40 + 0x80, v % 0x40 + 0x80]
    (.cons ?_ (.cons ?_ (.cons ?_ .nil)))
  · exact ⟨by omega, hsecond⟩
  · dsimp only [continuation]
    omega
  · dsimp only [continuation]
    omega

end

/-- The encoding of a character follows the ranges of its first byte. -/
theorem exists_encodes (c : Char) :
    ∃ lead rest ranges, String.utf8EncodeChar c = lead :: rest ∧ Encodes c lead rest ranges := by
  have hvalid : c.val.toNat < 0xD800 ∨ 0xDFFF < c.val.toNat ∧ c.val.toNat < 0x110000 := c.valid
  obtain ⟨v, hv⟩ : ∃ v, c.toNat = v := ⟨_, rfl⟩
  have hval : c.val.toNat = v := hv
  rw [String.utf8EncodeChar]
  rw [hval] at hvalid ⊢
  split_ifs with hone htwo hthree
  · exact ⟨_, _, _, rfl, encodes_one hv (by omega)⟩
  · exact ⟨_, _, _, rfl, encodes_two hv (by omega) (by omega)⟩
  · obtain ⟨ranges, hencodes⟩ := encodes_three hv (by omega) (by omega) (by omega)
    exact ⟨_, _, ranges, rfl, hencodes⟩
  · obtain ⟨ranges, hencodes⟩ := encodes_four hv (by omega) (by omega)
    exact ⟨_, _, ranges, rfl, hencodes⟩

/-! ## Reading what has been written -/

@[simp] theorem fitting_nil (bytes : List UInt8) : fitting [] bytes = [] := by
  cases bytes <;> rfl

theorem fitting_append {ranges : List Range} {rest : List UInt8}
    (h : List.Forall₂ (fun range byte => range.contains byte = true) ranges rest)
    (bytes : List UInt8) : fitting ranges (rest ++ bytes) = rest := by
  induction h with
  | nil => exact fitting_nil bytes
  | cons hbyte _ ih => rw [List.cons_append, fitting, if_pos hbyte, ih]

theorem fitting_front {ranges : List Range} {front back : List UInt8}
    (h : List.Forall₂ (fun range byte => range.contains byte = true) ranges (front ++ back)) :
    fitting ranges front = front := by
  induction front generalizing ranges with
  | nil => cases ranges <;> rfl
  | cons byte front ih =>
      cases h with
      | cons hbyte hrest => rw [fitting, if_pos hbyte, ih hrest]

theorem Encodes.tail_eq {c : Char} {lead : UInt8} {rest : List UInt8} {ranges : List Range}
    (h : Encodes c lead rest ranges) (bytes : List UInt8) : tail lead (rest ++ bytes) = rest := by
  rw [tail, h.following_eq]
  exact fitting_append h.inRanges bytes

theorem Encodes.complete_iff {c : Char} {lead : UInt8} {rest : List UInt8} {ranges : List Range}
    (h : Encodes c lead rest ranges) (bytes : List UInt8) :
    complete lead bytes = true ↔ bytes.length = rest.length := by
  rw [complete, h.following_eq, Option.any_some, decide_eq_true_iff, h.inRanges.length_eq]
  exact eq_comm

theorem decode_utf8EncodeChar_append (c : Char) (bytes : List UInt8) :
    decode (String.utf8EncodeChar c ++ bytes) = c :: decode bytes := by
  obtain ⟨lead, rest, ranges, hbytes, hencodes⟩ := exists_encodes c
  rw [hbytes, List.cons_append, decode, hencodes.tail_eq,
    if_pos ((hencodes.complete_iff rest).mpr rfl), hencodes.codePoint_eq, Char.ofNat_toNat,
    List.drop_left]

theorem encode_cons (c : Char) (text : List Char) :
    encode (c :: text) = String.utf8EncodeChar c ++ encode text :=
  List.flatMap_cons

theorem encode_append (text more : List Char) :
    encode (text ++ more) = encode text ++ encode more :=
  List.flatMap_append

theorem decode_encode_append (text : List Char) (bytes : List UInt8) :
    decode (encode text ++ bytes) = text ++ decode bytes := by
  induction text with
  | nil => rfl
  | cons c text ih =>
      rw [encode_cons, List.append_assoc, decode_utf8EncodeChar_append, ih, List.cons_append]

theorem decode_nil : decode [] = [] := by
  rw [decode]

theorem decode_encode (text : List Char) : decode (encode text) = text := by
  have h := decode_encode_append text []
  rwa [List.append_nil, decode_nil, List.append_nil] at h

theorem encode_injective : Function.Injective encode :=
  Function.LeftInverse.injective decode_encode

/-- The bytes are the encoding of a text. -/
def WellFormed (bytes : List UInt8) : Prop :=
  encode (decode bytes) = bytes

instance (bytes : List UInt8) : Decidable (WellFormed bytes) :=
  inferInstanceAs (Decidable (_ = _))

theorem wellFormed_encode (text : List Char) : WellFormed (encode text) := by
  rw [WellFormed, decode_encode]

/-! ## ASCII text -/

theorem encode_ascii {text : List Char} (h : ∀ c ∈ text, c.toNat < 0x80) :
    encode text = text.map fun c => UInt8.ofNat c.toNat := by
  induction text with
  | nil => rfl
  | cons c text ih =>
      obtain ⟨hc, htext⟩ := List.forall_mem_cons.mp h
      have hone : String.utf8EncodeChar c = [UInt8.ofNat c.toNat] := by
        rw [String.utf8EncodeChar]
        exact if_pos (Nat.le_of_lt_succ hc)
      rw [encode_cons, hone, ih htext, List.map_cons]
      rfl

theorem length_encode_ascii {text : List Char} (h : ∀ c ∈ text, c.toNat < 0x80) :
    (encode text).length = text.length := by
  rw [encode_ascii h, List.length_map]

/-- A part of an ASCII text is encoded by the same part of its bytes. -/
theorem take_drop_encode_ascii {text : List Char} (h : ∀ c ∈ text, c.toNat < 0x80)
    (start count : Nat) :
    ((encode text).drop start).take count = encode ((text.drop start).take count) := by
  have hpart : ∀ c ∈ (text.drop start).take count, c.toNat < 0x80 :=
    fun c hc => h c (List.mem_of_mem_drop (List.mem_of_mem_take hc))
  rw [encode_ascii h, encode_ascii hpart, ← List.map_drop, ← List.map_take]

/-! ## Reading a part of what has been written -/

/-- A byte that is not the first of its character. -/
def isContinuation (byte : UInt8) : Bool :=
  continuation.contains byte

theorem isContinuation_iff (byte : UInt8) :
    isContinuation byte = true ↔ 0x80 ≤ byte.toNat ∧ byte.toNat ≤ 0xBF := by
  rw [isContinuation, Range.contains, Bool.and_eq_true, decide_eq_true_iff, decide_eq_true_iff]
  rfl

theorem following_of_isContinuation {byte : UInt8} (h : isContinuation byte = true) :
    following byte = none := by
  have hrange := (isContinuation_iff byte).mp h
  rw [following, if_neg (by omega), if_pos (by omega)]

theorem following_within : ∀ lead < 256, ∀ range ∈ (following (UInt8.ofNat lead)).getD [],
    0x80 ≤ range.low ∧ range.high ≤ 0xBF := by
  decide +kernel

/-- All ranges after a leading byte are of bytes that continue a character. -/
theorem isContinuation_of_following {lead byte : UInt8} {ranges : List Range}
    (hfollowing : following lead = some ranges) {range : Range} (hmem : range ∈ ranges)
    (hbyte : range.contains byte = true) : isContinuation byte = true := by
  have hwithin := following_within lead.toNat lead.toNat_lt range (by
    rw [UInt8.ofNat_toNat, hfollowing]
    exact hmem)
  rw [isContinuation_iff]
  rw [Range.contains, Bool.and_eq_true, decide_eq_true_iff, decide_eq_true_iff] at hbyte
  omega

theorem Encodes.isContinuation_of_mem {c : Char} {lead : UInt8} {rest : List UInt8}
    {ranges : List Range} (h : Encodes c lead rest ranges) :
    ∀ byte ∈ rest, isContinuation byte = true := by
  have hall : ∀ range ∈ ranges, ∀ byte, range.contains byte = true → isContinuation byte = true :=
    fun range hmem byte => isContinuation_of_following h.following_eq hmem
  have hranges := h.inRanges
  clear h
  induction hranges with
  | nil => exact List.forall_mem_nil _
  | cons hbyte _ ih =>
      rw [List.forall_mem_cons] at hall ⊢
      exact ⟨hall.1 _ hbyte, ih hall.2⟩

/-- A byte that begins no character is replaced on its own. -/
theorem decode_continuations (front bytes : List UInt8)
    (h : ∀ byte ∈ front, isContinuation byte = true) :
    decode (front ++ bytes) = List.replicate front.length replacement ++ decode bytes := by
  induction front with
  | nil => rfl
  | cons byte front ih =>
      obtain ⟨hbyte, hfront⟩ := List.forall_mem_cons.mp h
      have hnone := following_of_isContinuation hbyte
      have htail : tail byte (front ++ bytes) = [] := by
        rw [tail, hnone]
        exact fitting_nil _
      have hincomplete : complete byte [] ≠ true := by
        rw [complete, hnone]
        exact Bool.false_ne_true
      rw [List.cons_append, decode, htail, if_neg hincomplete, List.length_nil, List.drop_zero,
        ih hfront, List.length_cons, List.replicate_succ, List.cons_append]

/-- A character cut in two. -/
structure Cut (c : Char) (front back : List UInt8) : Prop where
  bytes : String.utf8EncodeChar c = front ++ back
  front_ne_nil : front ≠ []
  back_ne_nil : back ≠ []

/-- The front is replaced, the back continues the character, and so the character has more than
one byte. -/
theorem Cut.spec {c : Char} {front back : List UInt8} (h : Cut c front back) :
    decode front = [replacement] ∧ (∀ byte ∈ back, isContinuation byte = true) ∧
      back.length ≤ 3 ∧ 0x80 ≤ c.toNat := by
  obtain ⟨lead, rest, ranges, hbytes, hencodes⟩ := exists_encodes c
  obtain ⟨first, middle, rfl⟩ := List.exists_cons_of_ne_nil h.front_ne_nil
  obtain ⟨rfl, rfl⟩ : lead = first ∧ rest = middle ++ back :=
    List.cons_eq_cons.mp (hbytes.symm.trans h.bytes)
  have hback : 0 < back.length := List.length_pos_iff.mpr h.back_ne_nil
  have hlength : (String.utf8EncodeChar c).length = middle.length + back.length + 1 := by
    rw [h.bytes, List.cons_append, List.length_cons, List.length_append]
  rw [String.length_utf8EncodeChar] at hlength
  have htail : tail lead middle = middle := by
    rw [tail, hencodes.following_eq]
    exact fitting_front hencodes.inRanges
  have hincomplete : complete lead middle ≠ true := by
    rw [Ne, hencodes.complete_iff, List.length_append]
    omega
  refine ⟨?_, ?_, ?_, ?_⟩
  · rw [decode, htail, if_neg hincomplete, List.drop_length, decode_nil]
  · intro byte hbyte
    exact hencodes.isContinuation_of_mem byte (List.mem_append_right middle hbyte)
  · have hle := c.utf8Size_le_four
    omega
  · by_contra hascii
    have hone : c.utf8Size = 1 := by
      rw [Char.utf8Size_eq_one_iff, UInt32.le_iff_toNat_le]
      exact Nat.le_of_lt_succ (not_le.mp hascii)
    omega

/-- A text is cut between two of its characters or in one of them. -/
theorem encode_eq_append {text : List Char} {front back : List UInt8}
    (h : encode text = front ++ back) :
    (∃ before after, text = before ++ after ∧ front = encode before ∧ back = encode after) ∨
      ∃ before c after cutFront cutBack, text = before ++ c :: after ∧ Cut c cutFront cutBack ∧
        front = encode before ++ cutFront ∧ back = cutBack ++ encode after := by
  induction text generalizing front with
  | nil =>
      obtain ⟨rfl, rfl⟩ := List.append_eq_nil_iff.mp h.symm
      exact Or.inl ⟨[], [], rfl, rfl, rfl⟩
  | cons c text ih =>
      rw [encode_cons, List.append_eq_append_iff] at h
      rcases h with ⟨more, rfl, htext⟩ | ⟨cutBack, hcut, rfl⟩
      · rcases ih htext with ⟨before, after, rfl, rfl, rfl⟩ |
          ⟨before, other, after, cutFront, cutBack, rfl, hcut, rfl, rfl⟩
        · exact Or.inl ⟨c :: before, after, rfl, (encode_cons c before).symm, rfl⟩
        · refine Or.inr ⟨c :: before, other, after, cutFront, cutBack, rfl, hcut, ?_, rfl⟩
          rw [encode_cons, List.append_assoc]
      · by_cases hfront : front = []
        · subst hfront
          refine Or.inl ⟨[], c :: text, rfl, rfl, ?_⟩
          rw [encode_cons, hcut, List.nil_append]
        · by_cases hback : cutBack = []
          · subst hback
            refine Or.inl ⟨[c], text, rfl, ?_, rfl⟩
            rw [encode_cons, hcut, List.append_nil]
            exact (List.append_nil front).symm
          · exact Or.inr ⟨[], c, text, front, cutBack, rfl, ⟨hcut, hfront, hback⟩, rfl, rfl⟩

/-! ## Reading it batch by batch -/

/-- The text with some of the characters of several bytes turned into replacements. -/
inductive Mangled : List Char → List Char → Prop where
  | nil : Mangled [] []
  | keep (c : Char) {text mangled : List Char} : Mangled text mangled →
      Mangled (c :: text) (c :: mangled)
  | replace (c : Char) (more : Nat) {text mangled : List Char} : 0x80 ≤ c.toNat →
      Mangled text mangled →
      Mangled (c :: text) (List.replicate (more + 2) replacement ++ mangled)

theorem Mangled.refl (text : List Char) : Mangled text text := by
  induction text with
  | nil => exact .nil
  | cons c text ih => exact .keep c ih

theorem Mangled.append_left (front : List Char) {text mangled : List Char}
    (h : Mangled text mangled) : Mangled (front ++ text) (front ++ mangled) := by
  induction front with
  | nil => exact h
  | cons c front ih => exact .keep c ih

/-- A character is turned into more than one, so a text of the same length is the same. -/
theorem Mangled.length_le {text mangled : List Char} (h : Mangled text mangled) :
    text.length ≤ mangled.length ∧ (text.length = mangled.length → text = mangled) := by
  induction h with
  | nil => exact ⟨le_rfl, fun _ => rfl⟩
  | keep c _ ih =>
      refine ⟨Nat.succ_le_succ ih.1, fun hlength => ?_⟩
      rw [ih.2 (Nat.succ.inj hlength)]
  | replace c more _ _ ih =>
      rw [List.length_append, List.length_replicate, List.length_cons]
      exact ⟨by omega, fun hlength => by omega⟩

theorem Mangled.of_append {front back mangled : List Char} (h : Mangled (front ++ back) mangled) :
    ∃ mangledFront mangledBack, mangled = mangledFront ++ mangledBack ∧
      Mangled front mangledFront ∧ Mangled back mangledBack := by
  induction front generalizing mangled with
  | nil => exact ⟨[], mangled, rfl, .nil, h⟩
  | cons c front ih =>
      cases h with
      | keep c hrest =>
          obtain ⟨mangledFront, mangledBack, rfl, hfront, hback⟩ := ih hrest
          exact ⟨_, mangledBack, rfl, .keep c hfront, hback⟩
      | replace c more hc hrest =>
          obtain ⟨mangledFront, mangledBack, rfl, hfront, hback⟩ := ih hrest
          exact ⟨_, mangledBack, (List.append_assoc ..).symm, .replace c more hc hfront, hback⟩

theorem Mangled.eq_of_ascii {text mangled : List Char} (h : Mangled text mangled)
    (hascii : ∀ c ∈ text, c.toNat < 0x80) : mangled = text := by
  induction h with
  | nil => rfl
  | keep c _ ih => rw [ih (List.forall_mem_cons.mp hascii).2]
  | replace c _ hc _ _ =>
      have hlow := (List.forall_mem_cons.mp hascii).1
      omega

/-- Every character was there or is the replacement. -/
theorem Mangled.mem {text mangled : List Char} (h : Mangled text mangled) {c : Char}
    (hmem : c ∈ mangled) : c ∈ text ∨ c = replacement := by
  induction h with
  | nil => exact absurd hmem List.not_mem_nil
  | keep other _ ih =>
      rcases List.mem_cons.mp hmem with rfl | hmem
      · exact Or.inl (List.mem_cons_self ..)
      · exact (ih hmem).imp_left (List.mem_cons_of_mem other)
  | replace other more _ _ ih =>
      rcases List.mem_append.mp hmem with hmem | hmem
      · exact Or.inr (List.eq_of_mem_replicate hmem)
      · exact (ih hmem).imp_left (List.mem_cons_of_mem other)

/-- The bytes begin in the middle of a character. -/
def BeginsInside (bytes : List UInt8) : Prop :=
  ∃ byte ∈ bytes.head?, isContinuation byte = true

theorem not_beginsInside_encode (text : List Char) : ¬ BeginsInside (encode text) := by
  rintro ⟨byte, hbyte, hcontinuation⟩
  cases text with
  | nil => cases hbyte
  | cons c text =>
      obtain ⟨lead, rest, ranges, hbytes, hencodes⟩ := exists_encodes c
      rw [encode_cons, hbytes] at hbyte
      obtain rfl := Option.some.inj hbyte
      have hnone := following_of_isContinuation hcontinuation
      rw [hencodes.following_eq] at hnone
      cases hnone

theorem beginsInside_of_forall {front : List UInt8} (hne : front ≠ [])
    (h : ∀ byte ∈ front, isContinuation byte = true) (bytes : List UInt8) :
    BeginsInside (front ++ bytes) := by
  obtain ⟨byte, front, rfl⟩ := List.exists_cons_of_ne_nil hne
  exact ⟨byte, rfl, h byte (List.mem_cons_self ..)⟩

theorem beginsInside_front_iff {front : List UInt8}
    (h : ∀ byte ∈ front, isContinuation byte = true) (text : List Char) :
    ¬ BeginsInside (front ++ encode text) ↔ front = [] := by
  constructor
  · intro hnot
    by_contra hne
    exact hnot (beginsInside_of_forall hne h _)
  · rintro rfl
    exact not_beginsInside_encode text

/-- What the batches read as when the text before them ended in the middle of a character, of
which `front` is the back. -/
structure ReadInBatches (n : Nat) (front : List UInt8) (text mangled : List Char) : Prop where
  decode_eq : (batches n (front ++ encode text)).flatMap decode =
    List.replicate front.length replacement ++ mangled
  reads : Mangled text mangled
  clean_iff : (∀ piece ∈ batches n (front ++ encode text), ¬ BeginsInside piece) ↔
    front = [] ∧ mangled = text

section

variable {n : Nat} {front : List UInt8} {text : List Char}
  (hfront : ∀ byte ∈ front, isContinuation byte = true)

include hfront

/-- The first batch ends between two characters. -/
theorem readInBatches_between {before after mangled : List Char}
    (hbatches : batches n (front ++ encode text) =
      (front ++ encode before) :: batches n (encode after))
    (htext : text = before ++ after) (h : ReadInBatches n [] after mangled) :
    ReadInBatches n front text (before ++ mangled) where
  decode_eq := by
    have hrest := h.decode_eq
    rw [List.nil_append] at hrest
    rw [hbatches, List.flatMap_cons, decode_continuations front _ hfront, decode_encode, hrest,
      List.append_assoc]
    rfl
  reads := htext ▸ h.reads.append_left before
  clean_iff := by
    have hrest := h.clean_iff
    rw [List.nil_append] at hrest
    rw [hbatches, List.forall_mem_cons, beginsInside_front_iff hfront, hrest, htext,
      List.append_cancel_left_eq, eq_self_iff_true, true_and]

/-- The first batch ends inside a character. -/
theorem readInBatches_inside {before after mangled : List Char} {c : Char}
    {cutFront cutBack : List UInt8}
    (hbatches : batches n (front ++ encode text) =
      (front ++ (encode before ++ cutFront)) :: batches n (cutBack ++ encode after))
    (htext : text = before ++ c :: after) (hcut : Cut c cutFront cutBack)
    (h : ReadInBatches n cutBack after mangled) :
    ∃ mangled, ReadInBatches n front text mangled := by
  obtain ⟨hdecode, hback, _, hascii⟩ := hcut.spec
  obtain ⟨more, hmore⟩ := Nat.exists_eq_add_one_of_ne_zero
    (mt List.length_eq_zero_iff.mp hcut.back_ne_nil)
  refine ⟨before ++ (List.replicate (more + 2) replacement ++ mangled), ?_, ?_, ?_⟩
  · rw [hbatches, List.flatMap_cons, decode_continuations front _ hfront, decode_encode_append,
      hdecode, h.decode_eq, hmore, List.replicate_succ (n := more + 1)]
    simp only [List.append_assoc, List.cons_append, List.nil_append]
  · rw [htext]
    exact Mangled.append_left before (.replace c more hascii h.reads)
  · rw [hbatches, List.forall_mem_cons]
    refine iff_of_false (fun hclean => ?_) (fun hsame => ?_)
    · exact hcut.back_ne_nil (h.clean_iff.mp hclean.2).1
    · have hlength := congrArg List.length hsame.2
      have hle := h.reads.length_le.1
      rw [htext] at hlength
      simp only [List.length_append, List.length_replicate, List.length_cons] at hlength
      omega

end

/-- Read batch by batch a text is mangled, unless no batch begins in the middle of a character. -/
theorem exists_readInBatches {n : Nat} (hn : 4 ≤ n) (front : List UInt8) (text : List Char)
    (hfront : ∀ byte ∈ front, isContinuation byte = true) (hshort : front.length ≤ 3) :
    ∃ mangled, ReadInBatches n front text mangled := by
  induction hlength : (front ++ encode text).length using Nat.strong_induction_on
    generalizing front text with
  | _ length ih =>
      by_cases hempty : front ++ encode text = []
      · obtain ⟨rfl, htext⟩ := List.append_eq_nil_iff.mp hempty
        obtain rfl : text = [] := encode_injective htext
        refine ⟨[], ?_, .nil, ?_⟩
        · rw [hempty, batches_nil]
          rfl
        · rw [hempty, batches_nil]
          exact iff_of_true (List.forall_mem_nil _) ⟨rfl, rfl⟩
      · have hpos : 0 < (front ++ encode text).length := List.length_pos_iff.mpr hempty
        have hbatches := batches_of_ne_nil (show 0 < n by omega) hempty
        rw [List.take_append, List.take_of_length_le (by omega), List.drop_append,
          List.drop_of_length_le (by omega), List.nil_append] at hbatches
        have hdrop : ((encode text).drop (n - front.length)).length < length := by
          rw [List.length_append] at hlength hpos
          rw [List.length_drop]
          omega
        rcases encode_eq_append (List.take_append_drop (n - front.length) (encode text)).symm with
          ⟨before, after, htext, htake, hrest⟩ |
          ⟨before, c, after, cutFront, cutBack, htext, hcut, htake, hrest⟩
        · rw [htake, hrest] at hbatches
          rw [hrest] at hdrop
          obtain ⟨mangled, hread⟩ := ih _ hdrop [] after (List.forall_mem_nil _) (by simp) rfl
          exact ⟨_, readInBatches_between hfront hbatches htext hread⟩
        · rw [htake, hrest] at hbatches
          rw [hrest] at hdrop
          obtain ⟨_, hback, hlengthBack, _⟩ := hcut.spec
          obtain ⟨mangled, hread⟩ := ih _ hdrop cutBack after hback hlengthBack rfl
          exact readInBatches_inside hfront hbatches htext hcut hread

end Utf8
