import Mathlib.Data.List.DropRight

/-!
# Base64

Three bytes are written as four characters of an alphabet of 64, and what is left of the last
three is padded. The reader is the lenient one: it passes over characters that are not of the
alphabet, and it stops at the padding that completes a group of four.

`decode_encode` says that it reads back what was written. `urlDecode_unpadded` says the same of
the alphabet for addresses, where the padding is taken off and put back by the length.
-/

namespace OptionChain.Base64

/-- The character of a value below 64. -/
def symbol (value : Nat) : Char :=
  if value < 26 then Char.ofNat (65 + value)
  else if value < 52 then Char.ofNat (71 + value)
  else if value < 62 then Char.ofNat (value - 4)
  else if value = 62 then '+'
  else '/'

def valueOf (c : Char) : Option Nat :=
  if 65 ≤ c.toNat ∧ c.toNat ≤ 90 then some (c.toNat - 65)
  else if 97 ≤ c.toNat ∧ c.toNat ≤ 122 then some (c.toNat - 71)
  else if 48 ≤ c.toNat ∧ c.toNat ≤ 57 then some (c.toNat + 4)
  else if c = '+' then some 62
  else if c = '/' then some 63
  else none

def encode : List UInt8 → List Char
  | a :: b :: c :: rest =>
      symbol (a.toNat / 4) :: symbol (a.toNat % 4 * 16 + b.toNat / 16) ::
        symbol (b.toNat % 16 * 4 + c.toNat / 64) :: symbol (c.toNat % 64) :: encode rest
  | [a, b] =>
      [symbol (a.toNat / 4), symbol (a.toNat % 4 * 16 + b.toNat / 16),
        symbol (b.toNat % 16 * 4), '=']
  | [a] => [symbol (a.toNat / 4), symbol (a.toNat % 4 * 16), '=', '=']
  | [] => []

/-- How far the reader is in a group of four, with the bits that it holds back. -/
inductive Quad where
  | start
  | one (left : Nat)
  | two (left : Nat)
  | three (left : Nat)
deriving DecidableEq

/-- `quad_pos`. -/
def Quad.position : Quad → Nat
  | .start => 0
  | .one _ => 1
  | .two _ => 2
  | .three _ => 3

/-- The byte that a value completes, and the group after it. -/
def Quad.take (value : Nat) : Quad → Option UInt8 × Quad
  | .start => (none, .one value)
  | .one left => (some (UInt8.ofNat (left * 4 + value / 16)), .two (value % 16))
  | .two left => (some (UInt8.ofNat (left * 16 + value / 4)), .three (value % 4))
  | .three left => (some (UInt8.ofNat (left * 64 + value)), .start)

/-- The loop of the reader, with the group and the paddings that it has counted. -/
def read (quad : Quad) (pads : Nat) : List Char → Option (List UInt8)
  | [] => if quad = .start then some [] else none
  | c :: rest =>
      if c = '=' then
        if 2 ≤ quad.position then
          if 4 ≤ quad.position + (pads + 1) then some [] else read quad (pads + 1) rest
        else read quad pads rest
      else
        match valueOf c with
        | none => read quad pads rest
        | some value =>
            (read (quad.take value).2 0 rest).map ((quad.take value).1.toList ++ ·)

/-- Text that is not ASCII is refused, and so is text that breaks off in a group. -/
def decode (text : List Char) : Option (List UInt8) :=
  if text.all fun c => c.toNat < 128 then read .start 0 text else none

/-! ## Reading what was written -/

theorem symbol_spec : ∀ value < 64,
    valueOf (symbol value) = some value ∧ symbol value ≠ '=' ∧ (symbol value).toNat < 128 := by
  decide +kernel

theorem read_symbol (quad : Quad) (pads : Nat) {value : Nat} (small : value < 64)
    (rest : List Char) : read quad pads (symbol value :: rest) =
      (read (quad.take value).2 0 rest).map ((quad.take value).1.toList ++ ·) := by
  obtain ⟨known, unpadded, -⟩ := symbol_spec value small
  rw [read, if_neg unpadded, known]

/-- A byte is put together again from its two parts. -/
theorem byte_parts (byte : UInt8) {whole : Nat} (parts : whole = byte.toNat) :
    UInt8.ofNat whole = byte := by
  rw [parts, UInt8.ofNat_toNat]

theorem byte_small (byte : UInt8) : byte.toNat < 256 := byte.toNat_lt_size

theorem read_encode (bytes : List UInt8) (pads : Nat) :
    read .start pads (encode bytes) = some bytes := by
  induction bytes using encode.induct generalizing pads with
  | case1 a b c rest inductionHypothesis =>
    have first := byte_small a
    have second := byte_small b
    have third := byte_small c
    rw [encode, read_symbol _ _ (by omega), read_symbol _ _ (by omega),
      read_symbol _ _ (by omega), read_symbol _ _ (by omega)]
    simp only [Quad.take]
    rw [inductionHypothesis, byte_parts a (by omega), byte_parts b (by omega),
      byte_parts c (by omega)]
    rfl
  | case2 a b =>
    have first := byte_small a
    have second := byte_small b
    rw [encode, read_symbol _ _ (by omega), read_symbol _ _ (by omega),
      read_symbol _ _ (by omega)]
    simp only [Quad.take]
    rw [byte_parts a (by omega), byte_parts b (by omega)]
    rfl
  | case3 a =>
    have first := byte_small a
    rw [encode, read_symbol _ _ (by omega), read_symbol _ _ (by omega)]
    simp only [Quad.take]
    rw [byte_parts a (by omega)]
    rfl
  | case4 => rfl

theorem encode_ascii (bytes : List UInt8) : ∀ c ∈ encode bytes, c.toNat < 128 := by
  have ascii : ∀ value < 64, (symbol value).toNat < 128 := fun value small =>
    (symbol_spec value small).2.2
  induction bytes using encode.induct with
  | case1 a b c rest inductionHypothesis =>
    have first := byte_small a
    have second := byte_small b
    have third := byte_small c
    simp only [encode, List.mem_cons]
    rintro char (rfl | rfl | rfl | rfl | later)
    · exact ascii _ (by omega)
    · exact ascii _ (by omega)
    · exact ascii _ (by omega)
    · exact ascii _ (by omega)
    · exact inductionHypothesis char later
  | case2 a b =>
    have first := byte_small a
    have second := byte_small b
    simp only [encode, List.mem_cons, List.not_mem_nil, or_false]
    rintro char (rfl | rfl | rfl | rfl)
    · exact ascii _ (by omega)
    · exact ascii _ (by omega)
    · exact ascii _ (by omega)
    · decide
  | case3 a =>
    have first := byte_small a
    simp only [encode, List.mem_cons, List.not_mem_nil, or_false]
    rintro char (rfl | rfl | rfl | rfl)
    · exact ascii _ (by omega)
    · exact ascii _ (by omega)
    · decide
    · decide
  | case4 =>
    intro char found
    cases found

theorem decode_encode (bytes : List UInt8) : decode (encode bytes) = some bytes := by
  rw [decode, if_pos (List.all_eq_true.mpr fun c found =>
    decide_eq_true (encode_ascii bytes c found)), read_encode]

/-- Only nothing is written as nothing. -/
theorem encode_eq_nil_iff {bytes : List UInt8} : encode bytes = [] ↔ bytes = [] := by
  constructor
  · intro empty
    have read := decode_encode bytes
    rw [empty] at read
    exact (Option.some.inj read).symm
  · rintro rfl
    rfl

/-! ## The alphabet for addresses -/

def toUrl (c : Char) : Char := if c = '+' then '-' else if c = '/' then '_' else c

def ofUrl (c : Char) : Char := if c = '-' then '+' else if c = '_' then '/' else c

/-- `urlsafe_b64encode` without the padding. -/
def unpadded (bytes : List UInt8) : List Char :=
  ((encode bytes).map toUrl).rdropWhile (· = '=')

/-- `urlsafe_b64decode`. -/
def urlDecode (text : List Char) : Option (List UInt8) := decode (text.map ofUrl)

/-- The characters of a code that are no padding. -/
def body : List UInt8 → List Char
  | a :: b :: c :: rest =>
      symbol (a.toNat / 4) :: symbol (a.toNat % 4 * 16 + b.toNat / 16) ::
        symbol (b.toNat % 16 * 4 + c.toNat / 64) :: symbol (c.toNat % 64) :: body rest
  | [a, b] =>
      [symbol (a.toNat / 4), symbol (a.toNat % 4 * 16 + b.toNat / 16),
        symbol (b.toNat % 16 * 4)]
  | [a] => [symbol (a.toNat / 4), symbol (a.toNat % 4 * 16)]
  | [] => []

theorem encode_body (bytes : List UInt8) :
    ∃ pads, encode bytes = body bytes ++ List.replicate pads '=' := by
  induction bytes using encode.induct with
  | case1 a b c rest inductionHypothesis =>
    obtain ⟨pads, same⟩ := inductionHypothesis
    exact ⟨pads, by rw [encode, body, same]; rfl⟩
  | case2 a b => exact ⟨1, rfl⟩
  | case3 a => exact ⟨2, rfl⟩
  | case4 => exact ⟨0, rfl⟩

/-- A code without its padding is read to the end whatever completes its last group. -/
theorem read_body (bytes : List UInt8) (pads : Nat) :
    read .start pads (body bytes ++ List.replicate (4 - (body bytes).length % 4) '=') =
      some bytes := by
  induction bytes using encode.induct generalizing pads with
  | case1 a b c rest inductionHypothesis =>
    have first := byte_small a
    have second := byte_small b
    have third := byte_small c
    have length : (body (a :: b :: c :: rest)).length % 4 = (body rest).length % 4 := by
      simp only [body, List.length_cons]
      omega
    rw [length, body, List.cons_append, List.cons_append, List.cons_append, List.cons_append,
      read_symbol _ _ (by omega), read_symbol _ _ (by omega), read_symbol _ _ (by omega),
      read_symbol _ _ (by omega)]
    simp only [Quad.take]
    rw [inductionHypothesis, byte_parts a (by omega), byte_parts b (by omega),
      byte_parts c (by omega)]
    rfl
  | case2 a b =>
    have first := byte_small a
    have second := byte_small b
    rw [body, List.cons_append, List.cons_append, List.cons_append, read_symbol _ _ (by omega),
      read_symbol _ _ (by omega), read_symbol _ _ (by omega)]
    simp only [Quad.take]
    rw [byte_parts a (by omega), byte_parts b (by omega)]
    rfl
  | case3 a =>
    have first := byte_small a
    rw [body, List.cons_append, List.cons_append, read_symbol _ _ (by omega),
      read_symbol _ _ (by omega)]
    simp only [Quad.take]
    rw [byte_parts a (by omega)]
    rfl
  | case4 => rfl

theorem body_subset (bytes : List UInt8) : ∀ c ∈ body bytes, ∃ value < 64, c = symbol value := by
  induction bytes using encode.induct with
  | case1 a b c rest inductionHypothesis =>
    have first := byte_small a
    have second := byte_small b
    have third := byte_small c
    simp only [body, List.mem_cons]
    rintro char (rfl | rfl | rfl | rfl | later)
    · exact ⟨_, by omega, rfl⟩
    · exact ⟨_, by omega, rfl⟩
    · exact ⟨_, by omega, rfl⟩
    · exact ⟨_, by omega, rfl⟩
    · exact inductionHypothesis char later
  | case2 a b =>
    have first := byte_small a
    have second := byte_small b
    simp only [body, List.mem_cons, List.not_mem_nil, or_false]
    rintro char (rfl | rfl | rfl)
    · exact ⟨_, by omega, rfl⟩
    · exact ⟨_, by omega, rfl⟩
    · exact ⟨_, by omega, rfl⟩
  | case3 a =>
    have first := byte_small a
    simp only [body, List.mem_cons, List.not_mem_nil, or_false]
    rintro char (rfl | rfl)
    · exact ⟨_, by omega, rfl⟩
    · exact ⟨_, by omega, rfl⟩
  | case4 =>
    intro char found
    cases found

theorem toUrl_spec : ∀ value < 64,
    toUrl (symbol value) ≠ '=' ∧ ofUrl (toUrl (symbol value)) = symbol value := by
  decide +kernel

theorem rdropWhile_pads (text : List Char) (unpadded : '=' ∉ text) (pads : Nat) :
    (text ++ List.replicate pads '=').rdropWhile (· = '=') = text := by
  induction pads with
  | zero =>
    rw [List.replicate_zero, List.append_nil, List.rdropWhile_eq_self_iff]
    intro some last
    have padding : text.getLast some = '=' := by simpa using last
    exact unpadded (padding ▸ List.getLast_mem some)
  | succ pads inductionHypothesis =>
    rw [List.replicate_succ', ← List.append_assoc, List.rdropWhile_concat_pos _ _ _ (by simp),
      inductionHypothesis]

theorem unpadded_body (bytes : List UInt8) : unpadded bytes = (body bytes).map toUrl := by
  obtain ⟨pads, same⟩ := encode_body bytes
  have clean : '=' ∉ (body bytes).map toUrl := by
    intro found
    obtain ⟨char, member, padding⟩ := List.mem_map.mp found
    obtain ⟨value, small, rfl⟩ := body_subset bytes char member
    exact (toUrl_spec value small).1 padding
  rw [unpadded, same, List.map_append, List.map_replicate]
  exact rdropWhile_pads _ clean pads

/-- Padded up to a multiple of four, and by four where nothing is missing, what was written is
read back. -/
theorem urlDecode_unpadded (bytes : List UInt8) :
    urlDecode (unpadded bytes ++ List.replicate (4 - (unpadded bytes).length % 4) '=') =
      some bytes := by
  have back : ((body bytes).map toUrl).map ofUrl = body bytes := by
    rw [List.map_map]
    refine (List.map_congr_left fun char member => ?_).trans (List.map_id _)
    obtain ⟨value, small, rfl⟩ := body_subset bytes char member
    exact (toUrl_spec value small).2
  have padding : ∀ count, (List.replicate count '=').map ofUrl = List.replicate count '=' :=
    fun count => List.map_replicate
  have ascii : ∀ count, (body bytes ++ List.replicate count '=').all
      (fun c => decide (c.toNat < 128)) = true := by
    intro count
    rw [List.all_eq_true]
    intro char member
    rcases List.mem_append.mp member with inside | pad
    · obtain ⟨value, small, rfl⟩ := body_subset bytes char inside
      exact decide_eq_true (symbol_spec value small).2.2
    · rw [List.eq_of_mem_replicate pad]
      decide
  rw [unpadded_body, List.length_map, urlDecode, List.map_append, back, padding, decode,
    if_pos (ascii _), read_body]

end OptionChain.Base64
