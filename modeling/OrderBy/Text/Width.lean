/-
  OrderBy.Text.Width — how many columns a text takes on a terminal.

  A character takes one column; none if it is a control character, is drawn
  over the one before it, or only directs how others are drawn; and two if it
  belongs to the wide scripts and signs.

  Two characters change the width of others.  A joiner draws the character
  after it into the one before it, so that it takes no column of its own.  A
  selector asks for the colourful form of the sign before it, which is one
  column wider if the sign has such a form and is narrow without it.
-/
import OrderBy.Text.Mark

namespace OrderBy.Text

/-! ## §1. Characters of no column and of two -/

/-- The characters without a column that are no marks: controls, signs that only direct how others
are drawn, and the places kept for such signs. -/
def silentSigns : Ranges :=
  [(0x0, 0x1F), (0x7F, 0x9F), (0x61C, 0x61C), (0x1160, 0x11FF), (0x180E, 0x180E), (0x200B, 0x200F),
   (0x2028, 0x202E), (0x2060, 0x206F), (0x3164, 0x3164), (0xD7B0, 0xD7FF), (0xFEFF, 0xFEFF),
   (0xFFA0, 0xFFA0), (0xFFF0, 0xFFFB), (0x13430, 0x1343F), (0x1BCA0, 0x1BCA3), (0x1D173, 0x1D17A),
   (0x1F3FB, 0x1F3FF), (0xE0000, 0xE0FFF)]

/-- The characters of two columns. -/
def doubleWidth : Ranges :=
  [(0x1100, 0x115F), (0x231A, 0x231B), (0x2329, 0x232A), (0x23E9, 0x23EC), (0x23F0, 0x23F0),
   (0x23F3, 0x23F3), (0x25FD, 0x25FE), (0x2614, 0x2615), (0x2630, 0x2637), (0x2648, 0x2653),
   (0x267F, 0x267F), (0x268A, 0x268F), (0x2693, 0x2693), (0x26A1, 0x26A1), (0x26AA, 0x26AB),
   (0x26BD, 0x26BE), (0x26C4, 0x26C5), (0x26CE, 0x26CE), (0x26D4, 0x26D4), (0x26EA, 0x26EA),
   (0x26F2, 0x26F3), (0x26F5, 0x26F5), (0x26FA, 0x26FA), (0x26FD, 0x26FD), (0x2705, 0x2705),
   (0x270A, 0x270B), (0x2728, 0x2728), (0x274C, 0x274C), (0x274E, 0x274E), (0x2753, 0x2755),
   (0x2757, 0x2757), (0x2795, 0x2797), (0x27B0, 0x27B0), (0x27BF, 0x27BF), (0x2B1B, 0x2B1C),
   (0x2B50, 0x2B50), (0x2B55, 0x2B55), (0x2E80, 0x2E99), (0x2E9B, 0x2EF3), (0x2F00, 0x2FD5),
   (0x2FF0, 0x3029), (0x3030, 0x303E), (0x3041, 0x3096), (0x309B, 0x30FF), (0x3105, 0x312F),
   (0x3131, 0x318E), (0x3190, 0x31E5), (0x31EF, 0x321E), (0x3220, 0x3247), (0x3250, 0xA48C),
   (0xA490, 0xA4C6), (0xA960, 0xA97C), (0xAC00, 0xD7A3), (0xF900, 0xFAFF), (0xFE10, 0xFE19),
   (0xFE30, 0xFE52), (0xFE54, 0xFE66), (0xFE68, 0xFE6B), (0xFF01, 0xFF60), (0xFFE0, 0xFFE6),
   (0x16FE0, 0x16FE3), (0x16FF2, 0x16FF6), (0x17000, 0x18CD5), (0x18CFF, 0x18D1E),
   (0x18D80, 0x18DF2), (0x1AFF0, 0x1AFF3), (0x1AFF5, 0x1AFFB), (0x1AFFD, 0x1AFFE),
   (0x1B000, 0x1B122), (0x1B132, 0x1B132), (0x1B150, 0x1B152), (0x1B155, 0x1B155),
   (0x1B164, 0x1B167), (0x1B170, 0x1B2FB), (0x1D300, 0x1D356), (0x1D360, 0x1D376),
   (0x1F004, 0x1F004), (0x1F0CF, 0x1F0CF), (0x1F18E, 0x1F18E), (0x1F191, 0x1F19A),
   (0x1F200, 0x1F202), (0x1F210, 0x1F23B), (0x1F240, 0x1F248), (0x1F250, 0x1F251),
   (0x1F260, 0x1F265), (0x1F300, 0x1F320), (0x1F32D, 0x1F335), (0x1F337, 0x1F37C),
   (0x1F37E, 0x1F393), (0x1F3A0, 0x1F3CA), (0x1F3CF, 0x1F3D3), (0x1F3E0, 0x1F3F0),
   (0x1F3F4, 0x1F3F4), (0x1F3F8, 0x1F3FA), (0x1F400, 0x1F43E), (0x1F440, 0x1F440),
   (0x1F442, 0x1F4FC), (0x1F4FF, 0x1F53D), (0x1F54B, 0x1F54E), (0x1F550, 0x1F567),
   (0x1F57A, 0x1F57A), (0x1F595, 0x1F596), (0x1F5A4, 0x1F5A4), (0x1F5FB, 0x1F64F),
   (0x1F680, 0x1F6C5), (0x1F6CC, 0x1F6CC), (0x1F6D0, 0x1F6D2), (0x1F6D5, 0x1F6D8),
   (0x1F6DC, 0x1F6DF), (0x1F6EB, 0x1F6EC), (0x1F6F4, 0x1F6FC), (0x1F7E0, 0x1F7EB),
   (0x1F7F0, 0x1F7F0), (0x1F90C, 0x1F93A), (0x1F93C, 0x1F945), (0x1F947, 0x1F9FF),
   (0x1FA70, 0x1FA7C), (0x1FA80, 0x1FA8A), (0x1FA8E, 0x1FAC6), (0x1FAC8, 0x1FAC8),
   (0x1FACD, 0x1FADC), (0x1FADF, 0x1FAEA), (0x1FAEF, 0x1FAF8), (0x20000, 0x2FFFD),
   (0x30000, 0x3FFFD)]

/-- The narrow signs that have a wide colourful form. -/
def colourfulSigns : Ranges :=
  [(0x23, 0x23), (0x2A, 0x2A), (0x30, 0x39), (0xA9, 0xA9), (0xAE, 0xAE), (0x203C, 0x203C),
   (0x2049, 0x2049), (0x2122, 0x2122), (0x2139, 0x2139), (0x2194, 0x2199), (0x21A9, 0x21AA),
   (0x2328, 0x2328), (0x23CF, 0x23CF), (0x23ED, 0x23EF), (0x23F1, 0x23F2), (0x23F8, 0x23FA),
   (0x24C2, 0x24C2), (0x25AA, 0x25AB), (0x25B6, 0x25B6), (0x25C0, 0x25C0), (0x25FB, 0x25FC),
   (0x2600, 0x2604), (0x260E, 0x260E), (0x2611, 0x2611), (0x2618, 0x2618), (0x261D, 0x261D),
   (0x2620, 0x2620), (0x2622, 0x2623), (0x2626, 0x2626), (0x262A, 0x262A), (0x262E, 0x262F),
   (0x2638, 0x263A), (0x2640, 0x2640), (0x2642, 0x2642), (0x265F, 0x2660), (0x2663, 0x2663),
   (0x2665, 0x2666), (0x2668, 0x2668), (0x267B, 0x267B), (0x267E, 0x267E), (0x2692, 0x2692),
   (0x2694, 0x2697), (0x2699, 0x2699), (0x269B, 0x269C), (0x26A0, 0x26A0), (0x26A7, 0x26A7),
   (0x26B0, 0x26B1), (0x26C8, 0x26C8), (0x26CF, 0x26CF), (0x26D1, 0x26D1), (0x26D3, 0x26D3),
   (0x26E9, 0x26E9), (0x26F0, 0x26F1), (0x26F4, 0x26F4), (0x26F7, 0x26F9), (0x2702, 0x2702),
   (0x2708, 0x2709), (0x270C, 0x270D), (0x270F, 0x270F), (0x2712, 0x2712), (0x2714, 0x2714),
   (0x2716, 0x2716), (0x271D, 0x271D), (0x2721, 0x2721), (0x2733, 0x2734), (0x2744, 0x2744),
   (0x2747, 0x2747), (0x2763, 0x2764), (0x27A1, 0x27A1), (0x2934, 0x2935), (0x2B05, 0x2B07),
   (0x1F170, 0x1F171), (0x1F17E, 0x1F17F), (0x1F321, 0x1F321), (0x1F324, 0x1F32C),
   (0x1F336, 0x1F336), (0x1F37D, 0x1F37D), (0x1F396, 0x1F397), (0x1F399, 0x1F39B),
   (0x1F39E, 0x1F39F), (0x1F3CB, 0x1F3CE), (0x1F3D4, 0x1F3DF), (0x1F3F3, 0x1F3F3),
   (0x1F3F5, 0x1F3F5), (0x1F3F7, 0x1F3F7), (0x1F43F, 0x1F43F), (0x1F441, 0x1F441),
   (0x1F4FD, 0x1F4FD), (0x1F549, 0x1F54A), (0x1F56F, 0x1F570), (0x1F573, 0x1F579),
   (0x1F587, 0x1F587), (0x1F58A, 0x1F58D), (0x1F590, 0x1F590), (0x1F5A5, 0x1F5A5),
   (0x1F5A8, 0x1F5A8), (0x1F5B1, 0x1F5B2), (0x1F5BC, 0x1F5BC), (0x1F5C2, 0x1F5C4),
   (0x1F5D1, 0x1F5D3), (0x1F5DC, 0x1F5DE), (0x1F5E1, 0x1F5E1), (0x1F5E3, 0x1F5E3),
   (0x1F5E8, 0x1F5E8), (0x1F5EF, 0x1F5EF), (0x1F5F3, 0x1F5F3), (0x1F5FA, 0x1F5FA),
   (0x1F6CB, 0x1F6CB), (0x1F6CD, 0x1F6CF), (0x1F6E0, 0x1F6E5), (0x1F6E9, 0x1F6E9),
   (0x1F6F0, 0x1F6F0), (0x1F6F3, 0x1F6F3)]

/-! ## §2. Widths -/

/-- **The columns of a character** on its own. -/
def charWidth (c : Char) : Nat :=
  if 0x20 ≤ c.toNat && c.toNat ≤ 0x7E then 1
  else if silentSigns.holds c || isMark c then 0
  else if doubleWidth.holds c then 2
  else 1

/-- The character that draws the next one into the one before it. -/
def joiner : Char := '\u200D'

/-- The character that asks for a colourful form. -/
def selector : Char := '\uFE0F'

/-- The columns that a selector adds after a character. -/
def selectorWidth : Option Char → Nat
  | some c => if colourfulSigns.holds c then 1 else 0
  | none => 0

/-- The columns of what follows the character that was measured last. -/
def widthFrom : (last : Option Char) → List Char → Nat
  | _, [] => 0
  | last, [c] => if c = joiner then 0 else if c = selector then selectorWidth last else charWidth c
  | last, c :: d :: rest =>
    if c = joiner then widthFrom last rest
    else if c = selector then selectorWidth last + widthFrom none (d :: rest)
    else if charWidth c = 0 then widthFrom last (d :: rest)
    else charWidth c + widthFrom (some c) (d :: rest)

/-- **The columns of a text.** -/
def width (cs : List Char) : Nat := widthFrom none cs

/-! ## §3. Clusters -/

/-- **A cluster**: characters that are drawn together, with the columns they take. -/
structure Cluster where
  /-- The characters. -/
  chars : List Char
  /-- The columns. -/
  columns : Nat
  deriving DecidableEq, Repr

/-- Put characters to the end of a cluster. -/
def Cluster.join (cluster : Cluster) (cs : List Char) (columns : Nat) : Cluster :=
  { chars := cluster.chars ++ cs, columns := cluster.columns + columns }

/-- The clusters of what follows a cluster under way and the character that was measured last. -/
def clustersFrom (cluster : Cluster) : (last : Option Char) → List Char → List Cluster
  | _, [] => [cluster]
  | last, [c] =>
    if c = joiner then [cluster.join [c] 0]
    else if c = selector then [cluster.join [c] (selectorWidth last)]
    else if charWidth c = 0 then [cluster.join [c] 0]
    else [cluster, ⟨[c], charWidth c⟩]
  | last, c :: d :: rest =>
    if c = joiner then clustersFrom (cluster.join [c, d] 0) last rest
    else if c = selector then
      clustersFrom (cluster.join [c] (selectorWidth last)) none (d :: rest)
    else if charWidth c = 0 then clustersFrom (cluster.join [c] 0) last (d :: rest)
    else cluster :: clustersFrom ⟨[c], charWidth c⟩ (some c) (d :: rest)

/-- **The clusters of a text.** -/
def clusters : List Char → List Cluster
  | [] => []
  | c :: rest =>
    if charWidth c = 0 then clustersFrom ⟨[c], 0⟩ none rest
    else clustersFrom ⟨[c], charWidth c⟩ (some c) rest

end OrderBy.Text
