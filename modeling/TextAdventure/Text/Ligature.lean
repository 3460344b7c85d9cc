/-
Letters that are drawn as one shape with the letters before them.

A text is read from its end, so a shape is known by its last letter and grows to
the left.
-/
import TextAdventure.Text.CharWidth

namespace TextAdventure
namespace Text

/-- The joiner, which takes no column and joins what stands around it. -/
def joiner : Char := '\u200D'

/-- The end of a shape that the letters before it may complete. -/
inductive Ligature where
  /-- An Arabic alef, which a lam takes up. -/
  | alef
  /-- A Hebrew lamed, and whether a joiner stands before it. -/
  | lamed (joined : Bool)
  /-- A Khmer letter, which a coeng sign puts below the letter before. -/
  | subscript
  /-- A Buginese ya, and whether a joiner stands before it. -/
  | ya (joined : Bool)
  /-- A Buginese vowel sign i before a joined ya. -/
  | vowelYa
  /-- A Tifinagh consonant, and whether a joiner stands before it. -/
  | consonant (joined : Bool)
  /-- A Tifinagh consonant after the sign that joins it to another. -/
  | boundConsonant
  /-- A Lisu tone letter, of those that come second. -/
  | tone
  /-- An Orkhon i, and whether a joiner stands before it. -/
  | orkhonI (joined : Bool)
  /-- A Kirat Rai vowel sign e. -/
  | vowelE
  /-- A Kirat Rai vowel sign ai, or the two signs e that it is made of. -/
  | vowelAi
deriving DecidableEq, Repr

namespace Ligature

def alefs : CharSet :=
  ⟨[
    0x622, 0x624, 0x625, 0x626, 0x627, 0x628, 0x671, 0x674, 0x675, 0x676, 0x773, 0x775, 0x870,
    0x883]⟩

def lams : CharSet :=
  ⟨[
    0x644, 0x645, 0x6B5, 0x6B9, 0x76A, 0x76B, 0x8A6, 0x8A7, 0x8C7, 0x8C8]⟩

/-- The characters without width that part a lam from its alef.  The others
are drawn over the shape. -/
def partings : CharSet :=
  ⟨[
    0x605, 0x606, 0x890, 0x892, 0x8E2, 0x8E3, 0x9BE, 0x9BF, 0x9D7, 0x9D8, 0xB3E, 0xB3F, 0xB57,
    0xB58, 0xBBE, 0xBBF, 0xBD7, 0xBD8, 0xCC0, 0xCC1, 0xCC2, 0xCC3, 0xCC7, 0xCC9, 0xCCA, 0xCCC,
    0xCD5, 0xCD7, 0xD3E, 0xD3F, 0xD4E, 0xD4F, 0xD57, 0xD58, 0xDCF, 0xDD0, 0xDDF, 0xDE0, 0x1160,
    0x1200, 0x1715, 0x1716, 0x1734, 0x1735, 0x180E, 0x180F, 0x1B35, 0x1B36, 0x1B3B, 0x1B3C,
    0x1B3D, 0x1B3E, 0x1B43, 0x1B45, 0x1BAA, 0x1BAB, 0x1BF2, 0x1BF4, 0x200C, 0x200E, 0x2065,
    0x206A, 0x302E, 0x3030, 0x3164, 0x3165, 0xA8FA, 0xA8FB, 0xA953, 0xA954, 0xA9C0, 0xA9C1,
    0xD7B0, 0xD7C7, 0xD7CB, 0xD7FC, 0xFFA0, 0xFFA1, 0xFFF0, 0xFFF9, 0x111C0, 0x111C1, 0x111C2,
    0x111C4, 0x11235, 0x11236, 0x1133E, 0x1133F, 0x1134D, 0x1134E, 0x11357, 0x11358, 0x113B8,
    0x113B9, 0x113C2, 0x113C3, 0x113C5, 0x113C6, 0x113C7, 0x113CA, 0x113CF, 0x113D0, 0x113D1,
    0x113D2, 0x114B0, 0x114B1, 0x114BD, 0x114BE, 0x115AF, 0x115B0, 0x116B6, 0x116B7, 0x11930,
    0x11931, 0x1193D, 0x1193E, 0x1193F, 0x11940, 0x11941, 0x11942, 0x11A84, 0x11A8A, 0x11D46,
    0x11D47, 0x11F02, 0x11F03, 0x11F41, 0x11F42, 0x16FF0, 0x16FF2, 0x1D165, 0x1D167, 0x1D16D,
    0x1D173, 0x1D250, 0x1D253, 0x1D25F, 0x1D260, 0x1D280, 0x1D282, 0xE0000, 0xE0001, 0xE0002,
    0xE0020, 0xE0080, 0xE0100, 0xE01F0, 0xE1000]⟩

/-- The Khmer letters that have a form below the line. -/
def subscripts : CharSet :=
  ⟨[
    0x1780, 0x1783, 0x1784, 0x1788, 0x1789, 0x178D, 0x178E, 0x1794, 0x1795, 0x1799, 0x179B,
    0x179E, 0x17A0, 0x17A1, 0x17A2, 0x17A3, 0x17A7, 0x17A8, 0x17AB, 0x17AD, 0x17AF, 0x17B0]⟩

def consonants : CharSet :=
  ⟨[
    0x2D31, 0x2D66, 0x2D6F, 0x2D70]⟩

/-- The marks that are never drawn and part no letters: the grapheme joiner,
silent vowels and the variation selectors. -/
def silentMarks : CharSet :=
  ⟨[
    0x34F, 0x350, 0x17B4, 0x17B6, 0x180B, 0x180E, 0x180F, 0x1810, 0xFE00, 0xFE10, 0xE0100, 0xE01F0]⟩

/-- The ligature that may end in a letter. -/
def ofChar? (c : Char) : Option Ligature :=
  if alefs.contains c then some .alef
  else if c = '\u05DC' then some (.lamed false)
  else if subscripts.contains c then some .subscript
  else if c = '\u1A10' then some (.ya false)
  else if consonants.contains c then some (.consonant false)
  else if c = '\uA4FC' ∨ c = '\uA4FD' then some .tone
  else if c.toNat = 0x10C03 then some (.orkhonI false)
  else if c.toNat = 0x16D67 then some .vowelE
  else if c.toNat = 0x16D68 then some .vowelAi
  else none

/-- A joiner before the ligature. -/
def join : Ligature → Ligature
  | lamed _ => lamed true
  | ya _ => ya true
  | consonant _ => consonant true
  | orkhonI _ => orkhonI true
  | l => l

/-- What a letter before the ligature adds to its columns, and what it leaves
for the letters before it.  A letter that has no part in it gives nothing. -/
def take? (c : Char) : Ligature → Option (Int × Option Ligature)
  | alef =>
    if lams.contains c then some (0, none)
    else if zeroWidth.contains c && !partings.contains c then some (0, some alef)
    else none
  | lamed joined => if joined ∧ c = '\u05D0' then some (0, none) else none
  | subscript => if c = '\u17D2' then some (-1, none) else none
  | ya joined => if joined ∧ c = '\u1A17' then some (0, some vowelYa) else none
  | vowelYa => if c = '\u1A15' then some (0, none) else none
  | consonant joined =>
    if c = '\u2D7F' then some (1, some boundConsonant)
    else if joined ∧ consonants.contains c then some (0, none)
    else none
  | boundConsonant => if consonants.contains c then some (-1, none) else none
  | tone => if '\uA4F8' ≤ c ∧ c ≤ '\uA4FB' then some (0, none) else none
  | orkhonI joined => if joined ∧ c.toNat = 0x10C32 then some (0, none) else none
  | vowelE =>
    if c.toNat = 0x16D63 ∨ c.toNat = 0x16D69 then some (0, none)
    else if c.toNat = 0x16D67 then some (0, some vowelAi)
    else if c.toNat = 0x16D68 then some (1, some vowelE)
    else none
  | vowelAi => if c.toNat = 0x16D63 then some (0, none) else none

/-- Whether silent marks and selectors may stand inside the shape.  The Kirat
Rai vowel signs are one sign only where nothing parts them. -/
def isLoose : Ligature → Bool
  | vowelE => false
  | vowelAi => false
  | _ => true

/-- What a character before the ligature adds and leaves.  A joiner does not
part letters, save a lam from its alef. -/
def before? (c : Char) (l : Ligature) : Option (Int × Option Ligature) :=
  if l.isLoose ∧ silentMarks.contains c then some (0, some l)
  else if l.isLoose ∧ l ≠ alef ∧ c = joiner then some (0, some l.join)
  else l.take? c

end Ligature

end Text
end TextAdventure
