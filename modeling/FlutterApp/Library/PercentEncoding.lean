import Mathlib.Data.List.Basic
import Mathlib.Data.List.Infix
import Mathlib.Data.List.TakeWhile

/-!
Query strings between a client and a server.

The client's URI parser percent-encodes the characters that a URI may not contain and
keeps the others, escapes included. The server splits the query into parameters and
reads a plus sign as a space and an escape as the byte it names. Texts are lists of
characters; what the server reads is a list of bytes.
-/

namespace PercentEncoding

def utf8 (text : List Char) : List UInt8 := text.flatMap String.utf8EncodeChar

theorem utf8_injective : Function.Injective utf8 := by
  intro text text' h
  have hbytes : (String.ofList text).toByteArray = (String.ofList text').toByteArray := by
    rw [String.toByteArray_ofList, String.toByteArray_ofList]
    exact congrArg List.toByteArray h
  exact String.ofList_injective (String.toByteArray_inj.mp hbytes)

def hexDigit (n : Nat) : Char := Char.ofNat (if n < 10 then 0x30 + n else 0x37 + n)

def hexValue (c : Char) : Option Nat :=
  if '0' ≤ c ∧ c ≤ '9' then some (c.toNat - 0x30)
  else if 'A' ≤ c ∧ c ≤ 'F' then some (c.toNat - 0x37)
  else if 'a' ≤ c ∧ c ≤ 'f' then some (c.toNat - 0x57)
  else none

def encodeByte (b : UInt8) : List Char := ['%', hexDigit (b.toNat / 16), hexDigit (b.toNat % 16)]

def encodeBytes (bytes : List UInt8) : List Char := bytes.flatMap encodeByte

/-- The text begins with two hexadecimal digits. -/
def twoHex : List Char → Bool
  | a :: b :: _ => (hexValue a).isSome && (hexValue b).isSome
  | _ => false

/-- The client's part: an escape and a legal character are kept, any other is encoded. -/
def normalize (legal : Char → Bool) : List Char → List Char
  | [] => []
  | c :: rest =>
      if (c = '%' ∧ twoHex rest = true) ∨ (c ≠ '%' ∧ legal c = true) then
        c :: normalize legal rest
      else encodeBytes (String.utf8EncodeChar c) ++ normalize legal rest

def readChar (c : Char) : List UInt8 := if c = '+' then [0x20] else String.utf8EncodeChar c

/-- The byte that three characters stand for when they are an escape. -/
def escape (c a b : Char) : Option UInt8 :=
  if c = '%' then
    (hexValue a).bind fun high => (hexValue b).map fun low => UInt8.ofNat (16 * high + low)
  else none

/-- The server's part. -/
def decode : List Char → List UInt8
  | c :: a :: b :: rest =>
      match escape c a b with
      | some byte => byte :: decode rest
      | none => readChar c ++ decode (a :: b :: rest)
  | c :: rest => readChar c ++ decode rest
  | [] => []

theorem decode_cons {c : Char} (hc : c ≠ '%') (rest : List Char) :
    decode (c :: rest) = readChar c ++ decode rest := by
  cases rest with
  | nil => rfl
  | cons a rest =>
      cases rest with
      | nil => rfl
      | cons b rest => simp only [decode, escape, hc, if_false]

theorem decode_escape {a b : Char} {high low : Nat} (ha : hexValue a = some high)
    (hb : hexValue b = some low) (rest : List Char) :
    decode ('%' :: a :: b :: rest) = UInt8.ofNat (16 * high + low) :: decode rest := by
  simp only [decode, escape, ha, hb, if_true, Option.bind_some, Option.map_some]

theorem hexValue_hexDigit {n : Nat} (h : n < 16) : hexValue (hexDigit n) = some n := by
  have hall : ∀ m < 16, hexValue (hexDigit m) = some m := by decide
  exact hall n h

theorem decode_encodeByte (b : UInt8) (rest : List Char) :
    decode (encodeByte b ++ rest) = b :: decode rest := by
  have hb : b.toNat < 256 := b.toNat_lt
  have hbyte : 16 * (b.toNat / 16) + b.toNat % 16 = b.toNat := Nat.div_add_mod _ _
  have hhigh := hexValue_hexDigit (n := b.toNat / 16) (by omega)
  have hlow := hexValue_hexDigit (n := b.toNat % 16) (by omega)
  simp only [encodeByte, List.cons_append, List.nil_append]
  rw [decode_escape hhigh hlow, hbyte, UInt8.ofNat_toNat]

theorem decode_encodeBytes (bytes : List UInt8) (rest : List Char) :
    decode (encodeBytes bytes ++ rest) = bytes ++ decode rest := by
  induction bytes with
  | nil => rfl
  | cons b bytes ih =>
      simp only [encodeBytes, List.flatMap_cons, List.append_assoc] at ih ⊢
      rw [decode_encodeByte, ih, List.cons_append]

section Received
variable (legal : Char → Bool)

def received (text : List Char) : List UInt8 := decode (normalize legal text)

/-- The delimiters of a query are kept, and so are the digits of its escapes. -/
structure KeepsDelimiters : Prop where
  hex : ∀ c, (hexValue c).isSome = true → legal c = true
  plus : legal '+' = true
  ampersand : legal '&' = true
  equals : legal '=' = true

variable {legal} (hlegal : KeepsDelimiters legal)

theorem ne_percent_of_hex {c : Char} (h : (hexValue c).isSome = true) : c ≠ '%' := by
  intro heq
  rw [heq] at h
  cases h

theorem ne_plus_of_hex {c : Char} (h : (hexValue c).isSome = true) : c ≠ '+' := by
  intro heq
  rw [heq] at h
  cases h

theorem normalize_legal {c : Char} (hc : c ≠ '%') (h : legal c = true) (rest : List Char) :
    normalize legal (c :: rest) = c :: normalize legal rest := by
  simp only [normalize, hc, h, ne_eq, not_false_eq_true, and_self, or_true, if_true]

include hlegal

theorem received_hex {c : Char} (h : (hexValue c).isSome = true) (rest : List Char) :
    received legal (c :: rest) = String.utf8EncodeChar c ++ received legal rest := by
  have hc := ne_percent_of_hex h
  simp only [received, normalize_legal hc (hlegal.hex c h), decode_cons hc, readChar,
    ne_plus_of_hex h, if_false]

/-- An escape is read as fewer bytes than its characters are. -/
theorem length_received_escape {rest : List Char} (h : twoHex rest = true) :
    (received legal ('%' :: rest)).length < (received legal rest).length := by
  match rest, h with
  | a :: b :: rest, h =>
      obtain ⟨ha, hb⟩ := Bool.and_eq_true_iff.mp h
      obtain ⟨high, hhigh⟩ := Option.isSome_iff_exists.mp ha
      obtain ⟨low, hlow⟩ := Option.isSome_iff_exists.mp hb
      have hkept : normalize legal ('%' :: a :: b :: rest) =
          '%' :: a :: b :: normalize legal rest := by
        rw [normalize, if_pos (Or.inl ⟨rfl, h⟩),
          normalize_legal (ne_percent_of_hex ha) (hlegal.hex a ha),
          normalize_legal (ne_percent_of_hex hb) (hlegal.hex b hb)]
      have hsizea := a.utf8Size_pos
      have hsizeb := b.utf8Size_pos
      rw [received_hex hlegal ha, received_hex hlegal hb]
      simp only [received, hkept, decode_escape hhigh hlow, List.length_append, List.length_cons,
        String.length_utf8EncodeChar]
      omega

theorem received_cons {c : Char} {rest : List Char}
    (h : ¬ (c = '%' ∧ twoHex rest = true)) :
    received legal (c :: rest) = readChar c ++ received legal rest := by
  by_cases hkept : c ≠ '%' ∧ legal c = true
  · simp only [received, normalize_legal hkept.1 hkept.2, decode_cons hkept.1]
  · have hread : readChar c = String.utf8EncodeChar c := by
      simp only [readChar]
      split
      · rename_i hc
        subst hc
        exact absurd ⟨by decide, hlegal.plus⟩ hkept
      · rfl
    simp only [received, normalize, h, hkept, or_self, if_false, decode_encodeBytes, hread]

omit hlegal

theorem length_readChar_le (c : Char) :
    (readChar c).length ≤ (String.utf8EncodeChar c).length := by
  simp only [readChar]
  split
  · rename_i hc
    subst hc
    exact Nat.le_refl 1
  · exact Nat.le_refl _

include hlegal

theorem length_received_le (text : List Char) :
    (received legal text).length ≤ (utf8 text).length := by
  induction text with
  | nil => exact Nat.le_refl 0
  | cons c rest ih =>
      simp only [utf8, List.flatMap_cons, List.length_append] at ih ⊢
      by_cases h : c = '%' ∧ twoHex rest = true
      · rw [h.1]
        have := length_received_escape hlegal h.2
        omega
      · rw [received_cons hlegal h, List.length_append]
        have := length_readChar_le c
        omega

omit hlegal

/-- Nothing in the text means anything but itself: no plus sign and no escape. -/
def Verbatim (text : List Char) : Prop :=
  '+' ∉ text ∧ ∀ a b, (hexValue a).isSome = true → (hexValue b).isSome = true →
    ¬ ['%', a, b] <:+: text

theorem twoHex_iff {rest : List Char} : twoHex rest = true ↔
    ∃ a b, (hexValue a).isSome = true ∧ (hexValue b).isSome = true ∧ [a, b] <+: rest := by
  match rest with
  | [] | [_] => simp [twoHex]
  | a :: b :: rest => simp [twoHex]

theorem verbatim_cons {c : Char} {rest : List Char} : Verbatim (c :: rest) ↔
    c ≠ '+' ∧ ¬ (c = '%' ∧ twoHex rest = true) ∧ Verbatim rest := by
  simp only [Verbatim, List.infix_cons_iff, List.cons_prefix_cons, twoHex_iff, List.mem_cons]
  constructor
  · intro h
    refine ⟨fun hc => h.1 (Or.inl hc.symm), ?_, fun hr => h.1 (Or.inr hr), ?_⟩
    · intro hescape
      obtain ⟨hc, a, b, ha, hb, hprefix⟩ := hescape
      exact h.2 a b ha hb (Or.inl ⟨hc.symm, hprefix⟩)
    · exact fun a b ha hb hinfix => h.2 a b ha hb (Or.inr hinfix)
  · intro h
    refine ⟨?_, ?_⟩
    · intro hplus
      exact hplus.elim (fun hc => h.1 hc.symm) h.2.2.1
    · intro a b ha hb hinfix
      cases hinfix with
      | inl hhead => exact h.2.1 ⟨hhead.1.symm, a, b, ha, hb, hhead.2⟩
      | inr hrest => exact h.2.2.2 a b ha hb hrest

theorem verbatim_nil : Verbatim [] := by
  simp [Verbatim]

include hlegal

/-- The server reads back exactly the texts in which nothing means anything else. -/
theorem received_eq_iff (text : List Char) :
    received legal text = utf8 text ↔ Verbatim text := by
  induction text with
  | nil => exact iff_of_true rfl verbatim_nil
  | cons c rest ih =>
      rw [verbatim_cons]
      by_cases h : c = '%' ∧ twoHex rest = true
      · refine iff_of_false ?_ fun hall => hall.2.1 h
        intro heq
        have hlength := congrArg List.length heq
        have hescape := length_received_escape hlegal h.2
        have hle := length_received_le hlegal rest
        rw [h.1] at hlength
        simp only [utf8, List.flatMap_cons, List.length_append] at hlength hle
        omega
      · rw [received_cons hlegal h, utf8, List.flatMap_cons]
        by_cases hc : c = '+'
        · subst hc
          refine iff_of_false ?_ fun hall => hall.1 rfl
          intro heq
          have hhead : (0x20 : UInt8) = 0x2B := (List.cons.inj heq).1
          exact absurd hhead (by decide)
        · rw [readChar, if_neg hc, List.append_cancel_left_eq]
          exact ih.trans (by simp [hc, h])

omit hlegal

theorem twoHex_append_delimiter {d : Char} (hd : hexValue d = none) (text rest : List Char) :
    twoHex (text ++ d :: rest) = twoHex text := by
  match text with
  | [] =>
      cases rest with
      | nil => rfl
      | cons a rest => simp [twoHex, hd]
  | [a] => simp [twoHex, hd]
  | a :: b :: text => rfl

theorem normalize_append_delimiter {d : Char} (hd : hexValue d = none) (hne : d ≠ '%')
    (hlegal : legal d = true) (text rest : List Char) :
    normalize legal (text ++ d :: rest) = normalize legal text ++ d :: normalize legal rest := by
  induction text with
  | nil => exact normalize_legal hne hlegal rest
  | cons c text ih =>
      simp only [List.cons_append, normalize, twoHex_append_delimiter hd]
      split
      · rw [ih, List.cons_append]
      · rw [ih, List.append_assoc]

theorem hexValue_of_mem_encodeBytes {bytes : List UInt8} {c : Char}
    (h : c ∈ encodeBytes bytes) : c = '%' ∨ (hexValue c).isSome = true := by
  obtain ⟨b, -, hb⟩ := List.mem_flatMap.mp h
  have hlt : b.toNat < 256 := b.toNat_lt
  simp only [encodeByte, List.mem_cons, List.not_mem_nil, or_false] at hb
  refine hb.imp_right ?_
  intro hdigit
  cases hdigit with
  | inl hhigh => rw [hhigh, hexValue_hexDigit (by omega), Option.isSome_some]
  | inr hlow => rw [hlow, hexValue_hexDigit (by omega), Option.isSome_some]

theorem mem_of_mem_normalize {d : Char} (hd : hexValue d = none) (hne : d ≠ '%')
    {text : List Char} (h : d ∈ normalize legal text) : d ∈ text := by
  induction text with
  | nil => exact h
  | cons c text ih =>
      simp only [normalize] at h
      split at h
      · cases List.mem_cons.mp h with
        | inl heq => exact heq ▸ List.mem_cons_self
        | inr hrest => exact List.mem_cons_of_mem c (ih hrest)
      · cases List.mem_append.mp h with
        | inl hencoded =>
            cases hexValue_of_mem_encodeBytes hencoded with
            | inl hpercent => exact absurd hpercent hne
            | inr hhex =>
                rw [hd] at hhex
                cases hhex
        | inr hrest => exact List.mem_cons_of_mem c (ih hrest)

end Received

/-- The piece is split at its first '='. -/
def parameter (piece : List Char) : List UInt8 × List UInt8 :=
  (decode (piece.takeWhile (· ≠ '=')), decode (piece.dropWhile (· ≠ '=')).tail)

def parameters (query : List Char) : List (List UInt8 × List UInt8) :=
  ((query.splitOn '&').filter (· ≠ [])).map parameter

theorem parameter_append {name : List Char} (h : '=' ∉ name) (value : List Char) :
    parameter (name ++ '=' :: value) = (decode name, decode value) := by
  have hname : ∀ c ∈ name, (decide (c ≠ '=')) = true := by
    intro c hc
    exact decide_eq_true fun heq => h (heq ▸ hc)
  rw [parameter, List.takeWhile_append_of_pos hname, List.dropWhile_append_of_pos hname]
  simp

theorem parameters_single {piece : List Char} (hpiece : '&' ∉ piece) (hne : piece ≠ []) :
    parameters piece = [parameter piece] := by
  have hsplit : piece.splitOn '&' = [piece] := by
    apply List.splitOnP_eq_singleton
    intro c hc
    exact beq_false_of_ne fun heq => hpiece (heq ▸ hc)
  simp [parameters, hsplit, hne]

theorem parameters_append {piece : List Char} (hpiece : '&' ∉ piece) (hne : piece ≠ [])
    (rest : List Char) :
    parameters (piece ++ '&' :: rest) = parameter piece :: parameters rest := by
  have hsplit : (piece ++ '&' :: rest).splitOn '&' = piece :: rest.splitOn '&' := by
    refine List.splitOnP_append_cons_of_forall_mem ?_ '&' rfl rest
    intro c hc
    exact beq_false_of_ne fun heq => hpiece (heq ▸ hc)
  simp [parameters, hsplit, hne]

/-- A request without the fragment, which is not sent. -/
structure Uri where
  base : List Char
  query : List Char
  deriving DecidableEq

def Uri.parse (legal : Char → Bool) (url : List Char) : Uri :=
  let sent := url.takeWhile (· ≠ '#')
  ⟨sent.takeWhile (· ≠ '?'), normalize legal (sent.dropWhile (· ≠ '?')).tail⟩

theorem parse_append (legal : Char → Bool) {base : List Char} (hquestion : '?' ∉ base)
    (hhash : '#' ∉ base) (query : List Char) :
    Uri.parse legal (base ++ '?' :: query) =
      ⟨base, normalize legal (query.takeWhile (· ≠ '#'))⟩ := by
  have hsent : ∀ c ∈ base, (decide (c ≠ '#')) = true := by
    intro c hc
    exact decide_eq_true fun heq => hhash (heq ▸ hc)
  have hbase : ∀ c ∈ base, (decide (c ≠ '?')) = true := by
    intro c hc
    exact decide_eq_true fun heq => hquestion (heq ▸ hc)
  simp only [Uri.parse]
  rw [List.takeWhile_append_of_pos hsent, List.takeWhile_cons_of_pos (by decide),
    List.takeWhile_append_of_pos hbase, List.dropWhile_append_of_pos hbase]
  simp

section Splice
variable {legal : Char → Bool} (hlegal : KeepsDelimiters legal)
include hlegal

theorem parameter_normalize {name : List Char} (hname : '=' ∉ name) (value : List Char) :
    parameter (normalize legal (name ++ '=' :: value)) =
      (received legal name, received legal value) := by
  rw [normalize_append_delimiter rfl (by decide) hlegal.equals, parameter_append]
  · rfl
  · exact fun h => hname (mem_of_mem_normalize rfl (by decide) h)

theorem parameters_one {name value : List Char} (hname : '=' ∉ name)
    (hpiece : '&' ∉ name ++ '=' :: value) :
    parameters (normalize legal (name ++ '=' :: value)) =
      [(received legal name, received legal value)] := by
  rw [parameters_single, parameter_normalize hlegal hname]
  · exact fun h => hpiece (mem_of_mem_normalize rfl (by decide) h)
  · rw [normalize_append_delimiter rfl (by decide) hlegal.equals]
    simp

theorem parameters_cons {name value : List Char} (hname : '=' ∉ name)
    (hpiece : '&' ∉ name ++ '=' :: value) (rest : List Char) :
    parameters (normalize legal (name ++ '=' :: value ++ '&' :: rest)) =
      (received legal name, received legal value) :: parameters (normalize legal rest) := by
  rw [normalize_append_delimiter rfl (by decide) hlegal.ampersand, parameters_append,
    parameter_normalize hlegal hname]
  · exact fun h => hpiece (mem_of_mem_normalize rfl (by decide) h)
  · rw [normalize_append_delimiter rfl (by decide) hlegal.equals]
    simp

omit hlegal

theorem exists_delimiter {text : List Char} (h : '#' ∈ text ∨ '&' ∈ text) :
    ∃ front d back, text = front ++ d :: back ∧ '#' ∉ front ∧ '&' ∉ front ∧
      (d = '#' ∨ d = '&') := by
  induction text with
  | nil => simp at h
  | cons c text ih =>
      by_cases hc : c = '#' ∨ c = '&'
      · exact ⟨[], c, text, rfl, List.not_mem_nil, List.not_mem_nil, hc⟩
      · have hrest : '#' ∈ text ∨ '&' ∈ text := by
          simp only [List.mem_cons] at h
          grind
        obtain ⟨front, d, back, heq, hhash, hamp, hd⟩ := ih hrest
        refine ⟨c :: front, d, back, by rw [heq, List.cons_append], ?_, ?_, hd⟩
        · simp only [List.mem_cons]
          grind
        · simp only [List.mem_cons]
          grind

include hlegal

/-- The first parameter that the server reads ends at the first delimiter of the text. -/
theorem parameters_head {name : List Char} (front back rest : List Char) {d : Char}
    (hname : '=' ∉ name)
    (hhash : '#' ∉ name ++ '=' :: front) (hamp : '&' ∉ name ++ '=' :: front)
    (hd : d = '#' ∨ d = '&') :
    (parameters (normalize legal
        ((name ++ '=' :: (front ++ d :: back) ++ '&' :: rest).takeWhile (· ≠ '#')))).head? =
      some (received legal name, received legal front) := by
  have hkept : ∀ c ∈ name ++ '=' :: front, (decide (c ≠ '#')) = true := by
    intro c hc
    exact decide_eq_true fun heq => hhash (heq ▸ hc)
  have hsplit : name ++ '=' :: (front ++ d :: back) ++ '&' :: rest =
      (name ++ '=' :: front) ++ d :: (back ++ '&' :: rest) := by
    simp
  rw [hsplit, List.takeWhile_append_of_pos hkept]
  cases hd with
  | inl hcut =>
      subst hcut
      rw [List.takeWhile_cons_of_neg (by decide), List.append_nil, parameters_one hlegal hname hamp]
      rfl
  | inr hcut =>
      subst hcut
      rw [List.takeWhile_cons_of_pos (by decide), parameters_cons hlegal hname hamp]
      rfl

/-- A text put into a query as the value of its first parameter is read back, with the
parameters after it, exactly when it has no delimiter and nothing in it means anything
but itself. -/
theorem splice_iff {name text rest : List Char} (hname : '=' ∉ name ∧ '&' ∉ name ∧ '#' ∉ name)
    (hrest : '#' ∉ rest) :
    parameters (normalize legal
        ((name ++ '=' :: text ++ '&' :: rest).takeWhile (· ≠ '#'))) =
      (received legal name, utf8 text) :: parameters (normalize legal rest) ↔
    '#' ∉ text ∧ '&' ∉ text ∧ Verbatim text := by
  by_cases hdelimiter : '#' ∈ text ∨ '&' ∈ text
  · refine iff_of_false ?_ fun h => hdelimiter.elim h.1 h.2.1
    obtain ⟨front, d, back, rfl, hhash, hamp, hd⟩ := exists_delimiter hdelimiter
    intro heq
    have hhead := parameters_head hlegal front back rest hname.1
      (by simp [hname.2.2, hhash]) (by simp [hname.2.1, hamp]) hd
    rw [heq, List.head?_cons, Option.some.injEq, Prod.mk.injEq] at hhead
    have hlength := congrArg List.length hhead.2
    have hle := length_received_le hlegal front
    have hpos := d.utf8Size_pos
    simp only [utf8, List.flatMap_append, List.flatMap_cons, List.length_append,
      String.length_utf8EncodeChar] at hlength hle
    omega
  · obtain ⟨hhash, hamp⟩ := not_or.mp hdelimiter
    have hsent : (name ++ '=' :: text ++ '&' :: rest).takeWhile (· ≠ '#') =
        name ++ '=' :: text ++ '&' :: rest := by
      rw [List.takeWhile_eq_self_iff]
      intro c hc
      refine decide_eq_true fun heq => ?_
      subst heq
      simp [hname.2.2, hhash, hrest] at hc
    rw [hsent, parameters_cons hlegal hname.1 (by simp [hname.2.1, hamp]), List.cons_eq_cons,
      Prod.mk.injEq]
    simp only [true_and, and_true, received_eq_iff hlegal, hhash, hamp, not_false_eq_true]

end Splice

end PercentEncoding
