/-
The lines of a text.

Lines are divided as bytes, before it is known whether they are text.  The byte
of a line feed writes no part of any other character, so the lines of a text are
texts again: those that the line feeds among its characters divide.
-/
import TextAdventure.Input

namespace TextAdventure
namespace Text

/-- The characters up to and including each line feed, and what follows the
last. -/
def charLines : List Char → List (List Char)
  | [] => []
  | c :: rest =>
    if c = '\n' then [c] :: charLines rest
    else match charLines rest with
      | [] => [[c]]
      | line :: others => (c :: line) :: others

def encodeChars (cs : List Char) : List UInt8 := cs.flatMap String.utf8EncodeChar

theorem encode_eq (s : String) : encode s = encodeChars s.toList := by
  rw [encode, ← String.utf8Encode_toList]
  exact List.toList_data_toByteArray

theorem decode_encodeChars (cs : List Char) :
    decode (encodeChars cs) = some (String.ofList cs) := by
  have h := decode_encode (String.ofList cs)
  rwa [encode_eq, String.toList_ofList] at h

/-- The byte 10 writes a line feed and is part of nothing else. -/
theorem ten_mem_utf8EncodeChar {c : Char} (h : 10 ∈ String.utf8EncodeChar c) : c = '\n' := by
  have hbyte : ∀ n : Nat, (10 : UInt8) = UInt8.ofNat n → n % 256 = 10 := by
    intro n hn
    have := congrArg UInt8.toNat hn
    rw [UInt8.toNat_ofNat'] at this
    exact this.symm
  have hval : c.val.toNat = 10 := by
    unfold String.utf8EncodeChar at h
    dsimp only at h
    -- a byte of a longer code is 128 at least
    split at h
    · have := hbyte _ (List.mem_singleton.1 h)
      omega
    · split at h
      · simp only [List.mem_cons, List.not_mem_nil, or_false] at h
        rcases h with h | h <;> have := hbyte _ h <;> omega
      · split at h
        · simp only [List.mem_cons, List.not_mem_nil, or_false] at h
          rcases h with h | h | h <;> have := hbyte _ h <;> omega
        · simp only [List.mem_cons, List.not_mem_nil, or_false] at h
          rcases h with h | h | h | h <;> have := hbyte _ h <;> omega
  exact Char.ext (UInt32.toNat_inj.1 hval)

/-- Bytes without a line feed are put before the first line of what follows. -/
theorem byteLines_append {bytes : List UInt8} (hne : bytes ≠ []) (hten : 10 ∉ bytes)
    (rest : List UInt8) :
    byteLines (bytes ++ rest) =
      match byteLines rest with
      | [] => [bytes]
      | line :: others => (bytes ++ line) :: others := by
  induction bytes with
  | nil => exact absurd rfl hne
  | cons b more ih =>
    rw [List.mem_cons, not_or] at hten
    obtain ⟨hb, hmore⟩ := hten
    rw [List.cons_append, byteLines, if_neg (Ne.symm hb)]
    by_cases hnil : more = []
    · subst hnil
      rfl
    · rw [ih hnil hmore]
      cases byteLines rest <;> rfl

theorem byteLines_encodeChars (cs : List Char) :
    byteLines (encodeChars cs) = (charLines cs).map encodeChars := by
  induction cs with
  | nil => rfl
  | cons c rest ih =>
    show byteLines (String.utf8EncodeChar c ++ encodeChars rest) = _
    rw [charLines]
    by_cases hc : c = '\n'
    · subst hc
      have hcode : String.utf8EncodeChar '\n' = [10] := by decide
      rw [hcode, List.singleton_append, byteLines, if_pos rfl, if_pos rfl, ih]
      rfl
    · have hne : String.utf8EncodeChar c ≠ [] := by
        intro hnil
        have := String.length_utf8EncodeChar c
        rw [hnil, List.length_nil] at this
        exact absurd this.symm (Nat.pos_iff_ne_zero.1 c.utf8Size_pos)
      have hten : 10 ∉ String.utf8EncodeChar c := fun h => hc (ten_mem_utf8EncodeChar h)
      rw [if_neg hc, byteLines_append hne hten, ih]
      cases charLines rest with
      | nil => simp [encodeChars]
      | cons line others => rfl

end Text

open Text

/-- The lines of a text are texts. -/
theorem linesOfBytes_encode (text : String) :
    linesOfBytes (encode text) = (charLines text.toList).map fun cs => .ok (String.ofList cs) := by
  rw [linesOfBytes, encode_eq, byteLines_encodeChars, List.map_map]
  refine List.map_congr_left fun cs _ => ?_
  show lineOfBytes (encodeChars cs) = _
  rw [lineOfBytes, decode_encodeChars]

end TextAdventure
