/-
Clusters: characters that are read as one, such as a letter with its marks.

A line is divided from its start by the rules for extended grapheme clusters.
Whether a cluster goes on with the next character depends on the character
before it and on three things that are being built up: a pair of flag letters, a
picture joined to another, and a consonant joined to another.
-/
import TextAdventure.Text.CharWidth
import TextAdventure.Text.Ligature
import TextAdventure.Text.Picture

namespace TextAdventure
namespace Text

/-! ## Characters -/

/-- The characters that always stand alone. -/
def controls : CharSet :=
  ⟨[
    0x0, 0x20, 0x7F, 0xA0, 0xAD, 0xAE, 0x61C, 0x61D, 0x180E, 0x180F, 0x200B, 0x200C, 0x200E,
    0x2010, 0x2028, 0x202F, 0x2060, 0x2070, 0xFEFF, 0xFF00, 0xFFF0, 0xFFFC, 0x13430, 0x13440,
    0x1BCA0, 0x1BCA4, 0x1D173, 0x1D17B, 0xE0000, 0xE0020, 0xE0080, 0xE0100, 0xE01F0, 0xE1000]⟩

/-- The signs that belong to the character after them. -/
def leadingSigns : CharSet :=
  ⟨[
    0x600, 0x606, 0x6DD, 0x6DE, 0x70F, 0x710, 0x890, 0x892, 0x8E2, 0x8E3, 0xD4E, 0xD4F, 0x110BD,
    0x110BE, 0x110CD, 0x110CE, 0x111C2, 0x111C4, 0x113D1, 0x113D2, 0x1193F, 0x11940, 0x11941,
    0x11942, 0x11A84, 0x11A8A, 0x11D46, 0x11D47, 0x11F02, 0x11F03]⟩

/-- The signs that take columns and belong to the character before them. -/
def spacingSigns : CharSet :=
  ⟨[
    0x903, 0x904, 0x93B, 0x93C, 0x93E, 0x941, 0x949, 0x94D, 0x94E, 0x950, 0x982, 0x984, 0x9BF,
    0x9C1, 0x9C7, 0x9C9, 0x9CB, 0x9CD, 0xA03, 0xA04, 0xA3E, 0xA41, 0xA83, 0xA84, 0xABE, 0xAC1,
    0xAC9, 0xACA, 0xACB, 0xACD, 0xB02, 0xB04, 0xB40, 0xB41, 0xB47, 0xB49, 0xB4B, 0xB4D, 0xBBF,
    0xBC0, 0xBC1, 0xBC3, 0xBC6, 0xBC9, 0xBCA, 0xBCD, 0xC01, 0xC04, 0xC41, 0xC45, 0xC82, 0xC84,
    0xCBE, 0xCBF, 0xCC1, 0xCC2, 0xCC3, 0xCC5, 0xCF3, 0xCF4, 0xD02, 0xD04, 0xD3F, 0xD41, 0xD46,
    0xD49, 0xD4A, 0xD4D, 0xD82, 0xD84, 0xDD0, 0xDD2, 0xDD8, 0xDDF, 0xDF2, 0xDF4, 0xE33, 0xE34,
    0xEB3, 0xEB4, 0xF3E, 0xF40, 0xF7F, 0xF80, 0x1031, 0x1032, 0x103B, 0x103D, 0x1056, 0x1058,
    0x1084, 0x1085, 0x17B6, 0x17B7, 0x17BE, 0x17C6, 0x17C7, 0x17C9, 0x1923, 0x1927, 0x1929,
    0x192C, 0x1930, 0x1932, 0x1933, 0x1939, 0x1A19, 0x1A1B, 0x1A55, 0x1A56, 0x1A57, 0x1A58,
    0x1A6D, 0x1A73, 0x1B04, 0x1B05, 0x1B3E, 0x1B42, 0x1B82, 0x1B83, 0x1BA1, 0x1BA2, 0x1BA6,
    0x1BA8, 0x1BE7, 0x1BE8, 0x1BEA, 0x1BED, 0x1BEE, 0x1BEF, 0x1C24, 0x1C2C, 0x1C34, 0x1C36,
    0x1CE1, 0x1CE2, 0x1CF7, 0x1CF8, 0xA823, 0xA825, 0xA827, 0xA828, 0xA880, 0xA882, 0xA8B4,
    0xA8C4, 0xA952, 0xA953, 0xA983, 0xA984, 0xA9B4, 0xA9B6, 0xA9BA, 0xA9BC, 0xA9BE, 0xA9C0,
    0xAA2F, 0xAA31, 0xAA33, 0xAA35, 0xAA4D, 0xAA4E, 0xAAEB, 0xAAEC, 0xAAEE, 0xAAF0, 0xAAF5,
    0xAAF6, 0xABE3, 0xABE5, 0xABE6, 0xABE8, 0xABE9, 0xABEB, 0xABEC, 0xABED, 0x11000, 0x11001,
    0x11002, 0x11003, 0x11082, 0x11083, 0x110B0, 0x110B3, 0x110B7, 0x110B9, 0x1112C, 0x1112D,
    0x11145, 0x11147, 0x11182, 0x11183, 0x111B3, 0x111B6, 0x111BF, 0x111C0, 0x111CE, 0x111CF,
    0x1122C, 0x1122F, 0x11232, 0x11234, 0x112E0, 0x112E3, 0x11302, 0x11304, 0x1133F, 0x11340,
    0x11341, 0x11345, 0x11347, 0x11349, 0x1134B, 0x1134D, 0x11362, 0x11364, 0x113B9, 0x113BB,
    0x113CA, 0x113CB, 0x113CC, 0x113CE, 0x11435, 0x11438, 0x11440, 0x11442, 0x11445, 0x11446,
    0x114B1, 0x114B3, 0x114B9, 0x114BA, 0x114BB, 0x114BD, 0x114BE, 0x114BF, 0x114C1, 0x114C2,
    0x115B0, 0x115B2, 0x115B8, 0x115BC, 0x115BE, 0x115BF, 0x11630, 0x11633, 0x1163B, 0x1163D,
    0x1163E, 0x1163F, 0x116AC, 0x116AD, 0x116AE, 0x116B0, 0x1171E, 0x1171F, 0x11726, 0x11727,
    0x1182C, 0x1182F, 0x11838, 0x11839, 0x11931, 0x11936, 0x11937, 0x11939, 0x11940, 0x11941,
    0x11942, 0x11943, 0x119D1, 0x119D4, 0x119DC, 0x119E0, 0x119E4, 0x119E5, 0x11A39, 0x11A3A,
    0x11A57, 0x11A59, 0x11A97, 0x11A98, 0x11B61, 0x11B62, 0x11B65, 0x11B66, 0x11B67, 0x11B68,
    0x11C2F, 0x11C30, 0x11C3E, 0x11C3F, 0x11CA9, 0x11CAA, 0x11CB1, 0x11CB2, 0x11CB4, 0x11CB5,
    0x11D8A, 0x11D8F, 0x11D93, 0x11D95, 0x11D96, 0x11D97, 0x11EF5, 0x11EF7, 0x11F03, 0x11F04,
    0x11F34, 0x11F36, 0x11F3E, 0x11F40, 0x1612A, 0x1612D, 0x16F51, 0x16F88]⟩

/-- The characters without columns that belong to no other character. -/
def unattached : CharSet :=
  ⟨[0x3164, 0x3165, 0xA8FA, 0xA8FB, 0xFFA0, 0xFFA1]⟩

/-- The marks that take columns: a joining sign, voicing marks and the tones of
the skin. -/
def shownMarks : CharSet :=
  ⟨[0x2D7F, 0x2D80, 0xFF9E, 0xFFA0, 0x1F3FB, 0x1F400]⟩

def isMark (c : Char) : Bool :=
  (zeroWidth.contains c && !unattached.contains c) || shownMarks.contains c

/-- The pictographs, and the code points that are kept free for more. -/
def pictorials : CharSet :=
  ⟨[
    0xA9, 0xAA, 0xAE, 0xAF, 0x203C, 0x203D, 0x2049, 0x204A, 0x2122, 0x2123, 0x2139, 0x213A,
    0x2194, 0x219A, 0x21A9, 0x21AB, 0x231A, 0x231C, 0x2328, 0x2329, 0x23CF, 0x23D0, 0x23E9,
    0x23F4, 0x23F8, 0x23FB, 0x24C2, 0x24C3, 0x25AA, 0x25AC, 0x25B6, 0x25B7, 0x25C0, 0x25C1,
    0x25FB, 0x25FF, 0x2600, 0x2605, 0x260E, 0x260F, 0x2611, 0x2612, 0x2614, 0x2616, 0x2618,
    0x2619, 0x261D, 0x261E, 0x2620, 0x2621, 0x2622, 0x2624, 0x2626, 0x2627, 0x262A, 0x262B,
    0x262E, 0x2630, 0x2638, 0x263B, 0x2640, 0x2641, 0x2642, 0x2643, 0x2648, 0x2654, 0x265F,
    0x2661, 0x2663, 0x2664, 0x2665, 0x2667, 0x2668, 0x2669, 0x267B, 0x267C, 0x267E, 0x2680,
    0x2692, 0x2698, 0x2699, 0x269A, 0x269B, 0x269D, 0x26A0, 0x26A2, 0x26A7, 0x26A8, 0x26AA,
    0x26AC, 0x26B0, 0x26B2, 0x26BD, 0x26BF, 0x26C4, 0x26C6, 0x26C8, 0x26C9, 0x26CE, 0x26D0,
    0x26D1, 0x26D2, 0x26D3, 0x26D5, 0x26E9, 0x26EB, 0x26F0, 0x26F6, 0x26F7, 0x26FB, 0x26FD,
    0x26FE, 0x2702, 0x2703, 0x2705, 0x2706, 0x2708, 0x270E, 0x270F, 0x2710, 0x2712, 0x2713,
    0x2714, 0x2715, 0x2716, 0x2717, 0x271D, 0x271E, 0x2721, 0x2722, 0x2728, 0x2729, 0x2733,
    0x2735, 0x2744, 0x2745, 0x2747, 0x2748, 0x274C, 0x274D, 0x274E, 0x274F, 0x2753, 0x2756,
    0x2757, 0x2758, 0x2763, 0x2765, 0x2795, 0x2798, 0x27A1, 0x27A2, 0x27B0, 0x27B1, 0x27BF,
    0x27C0, 0x2934, 0x2936, 0x2B05, 0x2B08, 0x2B1B, 0x2B1D, 0x2B50, 0x2B51, 0x2B55, 0x2B56,
    0x3030, 0x3031, 0x303D, 0x303E, 0x3297, 0x3298, 0x3299, 0x329A, 0x1F004, 0x1F005, 0x1F02C,
    0x1F030, 0x1F094, 0x1F0A0, 0x1F0AF, 0x1F0B1, 0x1F0C0, 0x1F0C1, 0x1F0CF, 0x1F0D1, 0x1F0F6,
    0x1F100, 0x1F170, 0x1F172, 0x1F17E, 0x1F180, 0x1F18E, 0x1F18F, 0x1F191, 0x1F19B, 0x1F1AE,
    0x1F1E6, 0x1F201, 0x1F210, 0x1F21A, 0x1F21B, 0x1F22F, 0x1F230, 0x1F232, 0x1F23B, 0x1F23C,
    0x1F240, 0x1F249, 0x1F260, 0x1F266, 0x1F322, 0x1F324, 0x1F394, 0x1F396, 0x1F398, 0x1F399,
    0x1F39C, 0x1F39E, 0x1F3F1, 0x1F3F3, 0x1F3F6, 0x1F3F7, 0x1F3FB, 0x1F400, 0x1F4FE, 0x1F4FF,
    0x1F53E, 0x1F549, 0x1F54F, 0x1F550, 0x1F568, 0x1F56F, 0x1F571, 0x1F573, 0x1F57B, 0x1F587,
    0x1F588, 0x1F58A, 0x1F58E, 0x1F590, 0x1F591, 0x1F595, 0x1F597, 0x1F5A4, 0x1F5A6, 0x1F5A8,
    0x1F5A9, 0x1F5B1, 0x1F5B3, 0x1F5BC, 0x1F5BD, 0x1F5C2, 0x1F5C5, 0x1F5D1, 0x1F5D4, 0x1F5DC,
    0x1F5DF, 0x1F5E1, 0x1F5E2, 0x1F5E3, 0x1F5E4, 0x1F5E8, 0x1F5E9, 0x1F5EF, 0x1F5F0, 0x1F5F3,
    0x1F5F4, 0x1F5FA, 0x1F650, 0x1F680, 0x1F6C6, 0x1F6CB, 0x1F6D3, 0x1F6D5, 0x1F6E6, 0x1F6E9,
    0x1F6EA, 0x1F6EB, 0x1F6F1, 0x1F6F3, 0x1F700, 0x1F7DA, 0x1F800, 0x1F80C, 0x1F810, 0x1F848,
    0x1F850, 0x1F85A, 0x1F860, 0x1F888, 0x1F890, 0x1F8AE, 0x1F8B0, 0x1F8BC, 0x1F8C0, 0x1F8C2,
    0x1F8D0, 0x1F8D9, 0x1F900, 0x1F90C, 0x1F93B, 0x1F93C, 0x1F946, 0x1F947, 0x1FA00, 0x1FA58,
    0x1FA60, 0x1FA6E, 0x1FB00, 0x1FC00, 0x1FFFE]⟩

/-- The consonants that can be joined to one before them. -/
def joinableConsonants : CharSet :=
  ⟨[
    0x915, 0x93A, 0x958, 0x960, 0x978, 0x980, 0x995, 0x9A9, 0x9AA, 0x9B1, 0x9B2, 0x9B3, 0x9B6,
    0x9BA, 0x9DC, 0x9DE, 0x9DF, 0x9E0, 0x9F0, 0x9F2, 0xA95, 0xAA9, 0xAAA, 0xAB1, 0xAB2, 0xAB4,
    0xAB5, 0xABA, 0xAF9, 0xAFA, 0xB15, 0xB29, 0xB2A, 0xB31, 0xB32, 0xB34, 0xB35, 0xB3A, 0xB5C,
    0xB5E, 0xB5F, 0xB60, 0xB71, 0xB72, 0xC15, 0xC29, 0xC2A, 0xC3A, 0xC58, 0xC5B, 0xD15, 0xD3B,
    0x1000, 0x102B, 0x103F, 0x1040, 0x1050, 0x1056, 0x105A, 0x105E, 0x1061, 0x1062, 0x1065,
    0x1067, 0x106E, 0x1071, 0x1075, 0x1082, 0x108E, 0x108F, 0x1780, 0x17B4, 0x1A20, 0x1A55,
    0x1B0B, 0x1B0D, 0x1B13, 0x1B34, 0x1B45, 0x1B4D, 0x1B83, 0x1BA1, 0x1BAE, 0x1BB0, 0x1BBB,
    0x1BBE, 0xA989, 0xA98C, 0xA98F, 0xA9B3, 0xA9E0, 0xA9E5, 0xA9E7, 0xA9F0, 0xA9FA, 0xA9FF,
    0xAA60, 0xAA70, 0xAA71, 0xAA74, 0xAA7A, 0xAA7B, 0xAA7E, 0xAA80, 0xAAE0, 0xAAEB, 0xABC0,
    0xABDB, 0x10A00, 0x10A01, 0x10A10, 0x10A14, 0x10A15, 0x10A18, 0x10A19, 0x10A36, 0x11103,
    0x11127, 0x11144, 0x11145, 0x11147, 0x11148, 0x11380, 0x1138A, 0x1138B, 0x1138C, 0x1138E,
    0x1138F, 0x11390, 0x113B6, 0x11900, 0x11907, 0x11909, 0x1190A, 0x1190C, 0x11914, 0x11915,
    0x11917, 0x11918, 0x11930, 0x11A00, 0x11A01, 0x11A0B, 0x11A33, 0x11A50, 0x11A51, 0x11A5C,
    0x11A84, 0x11F04, 0x11F11, 0x11F12, 0x11F34]⟩

def consonantJoiners : CharSet :=
  ⟨[
    0x94D, 0x94E, 0x9CD, 0x9CE, 0xACD, 0xACE, 0xB4D, 0xB4E, 0xC4D, 0xC4E, 0xD4D, 0xD4E, 0x1039,
    0x103A, 0x17D2, 0x17D3, 0x1A60, 0x1A61, 0x1B44, 0x1B45, 0x1BAB, 0x1BAC, 0xA9C0, 0xA9C1,
    0xAAF6, 0xAAF7, 0x10A3F, 0x10A40, 0x11133, 0x11134, 0x113D0, 0x113D1, 0x1193E, 0x1193F,
    0x11A47, 0x11A48, 0x11A99, 0x11A9A, 0x11F42, 0x11F43]⟩

/-- The sign that keeps characters apart. -/
def nonJoiner : Char := '\u200C'

/-! ## Parts of syllables -/

/-- What a character is to the characters beside it. -/
inductive Part where
  | control
  /-- A mark on the character before it. -/
  | mark
  | joiner
  | flagLetter
  | leadingSign
  | spacingSign
  /-- The parts of a Korean syllable, and syllables of two and of three parts. -/
  | initial
  | medial
  | final
  | openSyllable
  | closedSyllable
  | other
  deriving DecidableEq, Repr

namespace Part

def initials : CharSet :=
  ⟨[0x1100, 0x1160, 0xA960, 0xA97D]⟩

def medials : CharSet :=
  ⟨[0x1160, 0x11A8, 0xD7B0, 0xD7C7, 0x16D63, 0x16D64, 0x16D67, 0x16D6B]⟩

def finals : CharSet :=
  ⟨[0x11A8, 0x1200, 0xD7CB, 0xD7FC]⟩

/-- The syllables stand in order, and one in 28 has no final part. -/
def syllable? (c : Char) : Option Part :=
  if 0xAC00 ≤ c.toNat ∧ c.toNat ≤ 0xD7A3 then
    some (if (c.toNat - 0xAC00) % 28 = 0 then openSyllable else closedSyllable)
  else none

def ofChar (c : Char) : Part :=
  if controls.contains c then control
  else if c = Text.joiner then joiner
  else if isFlagLetter c then flagLetter
  else if leadingSigns.contains c then leadingSign
  else if spacingSigns.contains c then spacingSign
  else if initials.contains c then initial
  else if medials.contains c then medial
  else if finals.contains c then final
  else if isMark c then mark
  else (syllable? c).getD other

/-- Whether the first part goes on with the second in one syllable. -/
def inSyllable : Part → Part → Bool
  | initial, initial | initial, medial | initial, openSyllable | initial, closedSyllable => true
  | openSyllable, medial | openSyllable, final | medial, medial | medial, final => true
  | closedSyllable, final | final, final => true
  | _, _ => false

/-- Whether a part belongs to any character before it. -/
def isAttached : Part → Bool
  | mark | joiner | spacingSign => true
  | _ => false

end Part

/-! ## Clusters -/

/-- How far two characters are joined. -/
inductive Link where
  | none
  /-- The first one has been read. -/
  | opened
  /-- What joins it to a second one has been read. -/
  | joined
  deriving DecidableEq, Repr

/-- What the end of a cluster lets it go on with. -/
structure ClusterEnd where
  part : Part
  /-- Whether a flag letter waits for its second. -/
  halfFlag : Bool
  picture : Link
  consonant : Link

namespace ClusterEnd

/-- The link between pictures after a character. -/
def pictureAfter (c : Char) (link : Link) : Link :=
  if pictorials.contains c then .opened
  else match Part.ofChar c, link with
    | .mark, .opened => .opened
    | .joiner, .opened => .joined
    | _, _ => .none

/-- The link between consonants after a character. -/
def consonantAfter (c : Char) (link : Link) : Link :=
  if joinableConsonants.contains c then .opened
  else if link = .none ∨ c = nonJoiner then .none
  else if consonantJoiners.contains c then .joined
  else match Part.ofChar c with
    | .mark | .joiner => link
    | _ => .none

def next (e : ClusterEnd) (c : Char) : ClusterEnd where
  part := .ofChar c
  halfFlag := isFlagLetter c && !e.halfFlag
  picture := pictureAfter c e.picture
  consonant := consonantAfter c e.consonant

def ofChar (c : Char) : ClusterEnd :=
  next ⟨.control, false, .none, .none⟩ c

def takes (e : ClusterEnd) (c : Char) : Bool :=
  let part := Part.ofChar c
  if e.part = .control ∨ part = .control then false
  else e.part.inSyllable part || part.isAttached || e.part = .leadingSign
    || (e.halfFlag && part = .flagLetter)
    || (e.picture = .joined && pictorials.contains c)
    || (e.consonant = .joined && joinableConsonants.contains c)

end ClusterEnd

structure Clusters where
  /-- The clusters that are complete, the last one first. -/
  complete : List (List Char)
  /-- The characters of the cluster that may go on, the last one first. -/
  current : List Char
  ending : ClusterEnd

namespace Clusters

def start (c : Char) : Clusters := ⟨[], [c], .ofChar c⟩

def add (k : Clusters) (c : Char) : Clusters :=
  if k.ending.takes c then ⟨k.complete, c :: k.current, k.ending.next c⟩
  else ⟨k.current.reverse :: k.complete, [c], .ofChar c⟩

def toList (k : Clusters) : List (List Char) :=
  (k.current.reverse :: k.complete).reverse

end Clusters

def clusters : List Char → List (List Char)
  | [] => []
  | c :: rest => (rest.foldl Clusters.add (.start c)).toList

end Text
end TextAdventure
