import Catalogue.Text.Joining

/-!
# Characters of names of hosts

The name of a host is read with allowances for how it may be typed: letter case and typographic
variants make no difference, and characters that cannot be seen count for nothing.
`Catalogue.Host.letters?` says what a character is read as, if it has a place in a name at all. What
is in a name already read, has to be read as itself (`Catalogue.Host.isSettled`).

The tables are of the mapping for names in version 17 of the standard. They may hold code points
without a character besides. A character that stands for others outside of ASCII is kept as it is,
for only the ASCII characters of a name are looked at any further.
-/

namespace Catalogue

namespace Host

/-! ### Tables -/

/-- Runs of characters that stand for ASCII characters: the first and the last of a run, and what
the first stands for. -/
def foldedRuns : List (Nat × Nat × Char) := [
  (0xAA, 0xAA, 'a'), (0xB2, 0xB3, '2'), (0xB9, 0xB9, '1'), (0xBA, 0xBA, 'o'), (0x17F, 0x17F, 's'),
  (0x2B0, 0x2B0, 'h'), (0x2B2, 0x2B2, 'j'), (0x2B3, 0x2B3, 'r'), (0x2B7, 0x2B7, 'w'),
  (0x2B8, 0x2B8, 'y'), (0x2E1, 0x2E1, 'l'), (0x2E2, 0x2E2, 's'), (0x2E3, 0x2E3, 'x'),
  (0x1D2C, 0x1D2C, 'a'), (0x1D2E, 0x1D2E, 'b'), (0x1D30, 0x1D31, 'd'), (0x1D33, 0x1D3A, 'g'),
  (0x1D3C, 0x1D3C, 'o'), (0x1D3E, 0x1D3E, 'p'), (0x1D3F, 0x1D3F, 'r'), (0x1D40, 0x1D41, 't'),
  (0x1D42, 0x1D42, 'w'), (0x1D43, 0x1D43, 'a'), (0x1D47, 0x1D47, 'b'), (0x1D48, 0x1D49, 'd'),
  (0x1D4D, 0x1D4D, 'g'), (0x1D4F, 0x1D4F, 'k'), (0x1D50, 0x1D50, 'm'), (0x1D52, 0x1D52, 'o'),
  (0x1D56, 0x1D56, 'p'), (0x1D57, 0x1D58, 't'), (0x1D5B, 0x1D5B, 'v'), (0x1D62, 0x1D62, 'i'),
  (0x1D63, 0x1D63, 'r'), (0x1D64, 0x1D65, 'u'), (0x1D9C, 0x1D9C, 'c'), (0x1DA0, 0x1DA0, 'f'),
  (0x1DBB, 0x1DBB, 'z'), (0x2070, 0x2070, '0'), (0x2071, 0x2071, 'i'), (0x2074, 0x2079, '4'),
  (0x207F, 0x207F, 'n'), (0x2080, 0x2089, '0'), (0x2090, 0x2090, 'a'), (0x2091, 0x2091, 'e'),
  (0x2092, 0x2092, 'o'), (0x2093, 0x2093, 'x'), (0x2095, 0x2095, 'h'), (0x2096, 0x2099, 'k'),
  (0x209A, 0x209A, 'p'), (0x209B, 0x209C, 's'), (0x2102, 0x2102, 'c'), (0x210A, 0x210B, 'g'),
  (0x210C, 0x210C, 'h'), (0x210D, 0x210D, 'h'), (0x210E, 0x210E, 'h'), (0x2110, 0x2110, 'i'),
  (0x2111, 0x2111, 'i'), (0x2112, 0x2112, 'l'), (0x2113, 0x2113, 'l'), (0x2115, 0x2115, 'n'),
  (0x2119, 0x211B, 'p'), (0x211C, 0x211C, 'r'), (0x211D, 0x211D, 'r'), (0x2124, 0x2124, 'z'),
  (0x2128, 0x2128, 'z'), (0x212A, 0x212A, 'k'), (0x212C, 0x212D, 'b'), (0x212F, 0x212F, 'e'),
  (0x2130, 0x2131, 'e'), (0x2133, 0x2133, 'm'), (0x2134, 0x2134, 'o'), (0x2139, 0x2139, 'i'),
  (0x2145, 0x2145, 'd'), (0x2146, 0x2147, 'd'), (0x2148, 0x2149, 'i'), (0x2160, 0x2160, 'i'),
  (0x2164, 0x2164, 'v'), (0x2169, 0x2169, 'x'), (0x216C, 0x216C, 'l'), (0x216D, 0x216E, 'c'),
  (0x216F, 0x216F, 'm'), (0x2170, 0x2170, 'i'), (0x2174, 0x2174, 'v'), (0x2179, 0x2179, 'x'),
  (0x217C, 0x217C, 'l'), (0x217D, 0x217E, 'c'), (0x217F, 0x217F, 'm'), (0x2460, 0x2468, '1'),
  (0x24B6, 0x24CF, 'a'), (0x24D0, 0x24E9, 'a'), (0x24EA, 0x24EA, '0'), (0x2C7C, 0x2C7C, 'j'),
  (0x2C7D, 0x2C7D, 'v'), (0x3002, 0x3002, '.'), (0xA7F1, 0xA7F1, 's'), (0xA7F2, 0xA7F2, 'c'),
  (0xA7F3, 0xA7F3, 'f'), (0xA7F4, 0xA7F4, 'q'), (0xFE63, 0xFE63, '-'), (0xFF01, 0xFF5E, '!'),
  (0xFF61, 0xFF61, '.'), (0x107A5, 0x107A5, 'q'), (0x1CCD6, 0x1CCEF, 'a'), (0x1CCF0, 0x1CCF9, '0'),
  (0x1D400, 0x1D419, 'a'), (0x1D41A, 0x1D433, 'a'), (0x1D434, 0x1D44D, 'a'),
  (0x1D44E, 0x1D467, 'a'), (0x1D468, 0x1D481, 'a'), (0x1D482, 0x1D49B, 'a'),
  (0x1D49C, 0x1D4B5, 'a'), (0x1D4B6, 0x1D4CF, 'a'), (0x1D4D0, 0x1D4E9, 'a'),
  (0x1D4EA, 0x1D503, 'a'), (0x1D504, 0x1D51C, 'a'), (0x1D51E, 0x1D537, 'a'),
  (0x1D538, 0x1D550, 'a'), (0x1D552, 0x1D56B, 'a'), (0x1D56C, 0x1D585, 'a'),
  (0x1D586, 0x1D59F, 'a'), (0x1D5A0, 0x1D5B9, 'a'), (0x1D5BA, 0x1D5D3, 'a'),
  (0x1D5D4, 0x1D5ED, 'a'), (0x1D5EE, 0x1D607, 'a'), (0x1D608, 0x1D621, 'a'),
  (0x1D622, 0x1D63B, 'a'), (0x1D63C, 0x1D655, 'a'), (0x1D656, 0x1D66F, 'a'),
  (0x1D670, 0x1D689, 'a'), (0x1D68A, 0x1D6A3, 'a'), (0x1D7CE, 0x1D7D7, '0'),
  (0x1D7D8, 0x1D7E1, '0'), (0x1D7E2, 0x1D7EB, '0'), (0x1D7EC, 0x1D7F5, '0'),
  (0x1D7F6, 0x1D7FF, '0'), (0x1F12B, 0x1F12B, 'c'), (0x1F12C, 0x1F12C, 'r'),
  (0x1F130, 0x1F149, 'a'), (0x1FBF0, 0x1FBF9, '0')]

/-- Runs of characters that stand for numbers of two digits: the first and the last of a run, and
what the first stands for. -/
def numberRuns : List (Nat × Nat × Nat) := [
  (0x2469, 0x2473, 10), (0x3251, 0x325F, 21), (0x32B1, 0x32BF, 36)]

/-- The ranges of characters that count for nothing. -/
def silentRanges : List (Nat × Nat) := [
  (0xAD, 0xAD), (0x34F, 0x34F), (0x115F, 0x1160), (0x17B4, 0x17B5), (0x180B, 0x180F),
  (0x200B, 0x200B), (0x2060, 0x2064), (0x206A, 0x206F), (0x3164, 0x3164), (0xFE00, 0xFE0F),
  (0xFEFF, 0xFEFF), (0xFFA0, 0xFFA0), (0x1BCA0, 0x1BCA3), (0x1D173, 0x1D17A), (0xE0100, 0xE01EF)]

/-- The ranges above ASCII of characters that stand for a text with a forbidden character. -/
def forbiddenRanges : List (Nat × Nat) := [
  (0xA0, 0xA0), (0xA8, 0xA8), (0xAF, 0xAF), (0xB4, 0xB4), (0xB8, 0xB8), (0x2D8, 0x2DD),
  (0x37A, 0x37A), (0x384, 0x385), (0x1FBD, 0x1FBD), (0x1FBF, 0x1FC1), (0x1FCD, 0x1FCF),
  (0x1FDD, 0x1FDF), (0x1FED, 0x1FEE), (0x1FFD, 0x1FFE), (0x2000, 0x200A), (0x2017, 0x2017),
  (0x202F, 0x202F), (0x203E, 0x203E), (0x2047, 0x2049), (0x205F, 0x205F), (0x2100, 0x2101),
  (0x2105, 0x2106), (0x2A74, 0x2A74), (0x3000, 0x3000), (0x309B, 0x309C), (0xFC5E, 0xFC63),
  (0xFDFA, 0xFDFB), (0xFE13, 0xFE13), (0xFE16, 0xFE16), (0xFE47, 0xFE4C), (0xFE55, 0xFE56),
  (0xFE5F, 0xFE5F), (0xFE64, 0xFE65), (0xFE68, 0xFE68), (0xFE6A, 0xFE6B), (0xFE70, 0xFE70),
  (0xFE72, 0xFE72), (0xFE74, 0xFE74), (0xFE76, 0xFE76), (0xFE78, 0xFE78), (0xFE7A, 0xFE7A),
  (0xFE7C, 0xFE7C), (0xFE7E, 0xFE7E), (0xFF03, 0xFF03), (0xFF05, 0xFF05), (0xFF0F, 0xFF0F),
  (0xFF1A, 0xFF1A), (0xFF1C, 0xFF1C), (0xFF1E, 0xFF20), (0xFF3B, 0xFF3E), (0xFF5C, 0xFF5C),
  (0xFFE3, 0xFFE3)]

/-- The ranges of characters that can be seen and have no place in a name all the same. -/
def oustedRanges : List (Nat × Nat) := [
  (0x2024, 0x2026), (0x2488, 0x249B), (0x2FF0, 0x2FFF), (0x31EF, 0x31EF), (0x33C2, 0x33C2),
  (0x33C7, 0x33C7), (0x33D8, 0x33D8), (0xFE12, 0xFE12), (0xFE19, 0xFE19), (0xFE30, 0xFE30),
  (0xFE52, 0xFE52), (0xFFFC, 0xFFFD), (0x1F100, 0x1F100)]

/-- The ranges of characters that stand for others, in steps of one or two code points. -/
def variantRanges : List (Nat × Nat × Nat) := [
  (0xA0, 0xA0, 1), (0xA8, 0xAA, 2), (0xAF, 0xAF, 1), (0xB2, 0xB5, 1), (0xB8, 0xBA, 1),
  (0xBC, 0xBE, 1), (0xC0, 0xD6, 1), (0xD8, 0xDE, 1), (0x100, 0x130, 2), (0x132, 0x134, 1),
  (0x136, 0x136, 1), (0x139, 0x13D, 2), (0x13F, 0x141, 1), (0x143, 0x147, 2), (0x149, 0x14A, 1),
  (0x14C, 0x176, 2), (0x178, 0x179, 1), (0x17B, 0x17F, 2), (0x181, 0x182, 1), (0x184, 0x184, 1),
  (0x186, 0x187, 1), (0x189, 0x18B, 1), (0x18E, 0x191, 1), (0x193, 0x194, 1), (0x196, 0x198, 1),
  (0x19C, 0x19D, 1), (0x19F, 0x1A0, 1), (0x1A2, 0x1A4, 2), (0x1A6, 0x1A7, 1), (0x1A9, 0x1A9, 1),
  (0x1AC, 0x1AC, 1), (0x1AE, 0x1AF, 1), (0x1B1, 0x1B3, 1), (0x1B5, 0x1B5, 1), (0x1B7, 0x1B8, 1),
  (0x1BC, 0x1BC, 1), (0x1C4, 0x1CD, 1), (0x1CF, 0x1DB, 2), (0x1DE, 0x1EE, 2), (0x1F1, 0x1F4, 1),
  (0x1F6, 0x1F8, 1), (0x1FA, 0x232, 2), (0x23A, 0x23B, 1), (0x23D, 0x23E, 1), (0x241, 0x241, 1),
  (0x243, 0x246, 1), (0x248, 0x24E, 2), (0x2B0, 0x2B8, 1), (0x2D8, 0x2DD, 1), (0x2E0, 0x2E4, 1),
  (0x340, 0x341, 1), (0x343, 0x345, 1), (0x370, 0x376, 2), (0x37A, 0x37A, 1), (0x37E, 0x38F, 1),
  (0x391, 0x3AB, 1), (0x3CF, 0x3D6, 1), (0x3D8, 0x3EE, 2), (0x3F0, 0x3F2, 1), (0x3F4, 0x3F5, 1),
  (0x3F7, 0x3F7, 1), (0x3F9, 0x3FA, 1), (0x3FD, 0x42F, 1), (0x460, 0x480, 2), (0x48A, 0x4BE, 2),
  (0x4C0, 0x4C1, 1), (0x4C3, 0x4CD, 2), (0x4D0, 0x52E, 2), (0x531, 0x556, 1), (0x587, 0x587, 1),
  (0x675, 0x678, 1), (0x958, 0x95F, 1), (0x9DC, 0x9DF, 1), (0xA33, 0xA33, 1), (0xA36, 0xA36, 1),
  (0xA59, 0xA5B, 1), (0xA5E, 0xA5E, 1), (0xB5C, 0xB5D, 1), (0xE33, 0xE33, 1), (0xEB3, 0xEB3, 1),
  (0xEDC, 0xEDD, 1), (0xF0C, 0xF0C, 1), (0xF43, 0xF43, 1), (0xF4D, 0xF4D, 1), (0xF52, 0xF52, 1),
  (0xF57, 0xF57, 1), (0xF5C, 0xF5C, 1), (0xF69, 0xF69, 1), (0xF73, 0xF73, 1), (0xF75, 0xF79, 1),
  (0xF81, 0xF81, 1), (0xF93, 0xF93, 1), (0xF9D, 0xF9D, 1), (0xFA2, 0xFA2, 1), (0xFA7, 0xFA7, 1),
  (0xFAC, 0xFAC, 1), (0xFB9, 0xFB9, 1), (0x10A0, 0x10CD, 1), (0x10FC, 0x10FC, 1),
  (0x13F8, 0x13FD, 1), (0x1C80, 0x1C89, 1), (0x1C90, 0x1CBF, 1), (0x1D2C, 0x1D2E, 1),
  (0x1D30, 0x1D3A, 1), (0x1D3C, 0x1D4D, 1), (0x1D4F, 0x1D6A, 1), (0x1D78, 0x1D78, 1),
  (0x1D9B, 0x1DBF, 1), (0x1E00, 0x1E94, 2), (0x1E9A, 0x1E9B, 1), (0x1E9E, 0x1EFE, 2),
  (0x1F08, 0x1F0F, 1), (0x1F18, 0x1F1D, 1), (0x1F28, 0x1F2F, 1), (0x1F38, 0x1F3F, 1),
  (0x1F48, 0x1F4D, 1), (0x1F59, 0x1F5F, 1), (0x1F68, 0x1F6F, 1), (0x1F71, 0x1F7B, 2),
  (0x1F7D, 0x1FAF, 1), (0x1FB2, 0x1FB4, 1), (0x1FB7, 0x1FC4, 1), (0x1FC7, 0x1FCF, 1),
  (0x1FD3, 0x1FD3, 1), (0x1FD8, 0x1FDF, 1), (0x1FE3, 0x1FE3, 1), (0x1FE8, 0x1FF4, 1),
  (0x1FF7, 0x200A, 1), (0x2011, 0x2011, 1), (0x2017, 0x2017, 1), (0x202F, 0x202F, 1),
  (0x2033, 0x2034, 1), (0x2036, 0x2037, 1), (0x203C, 0x203E, 2), (0x2047, 0x2049, 1),
  (0x2057, 0x2057, 1), (0x205F, 0x209C, 1), (0x20A8, 0x20A8, 1), (0x2100, 0x2103, 1),
  (0x2105, 0x2107, 1), (0x2109, 0x2113, 1), (0x2115, 0x2116, 1), (0x2119, 0x211D, 1),
  (0x2120, 0x2122, 1), (0x2124, 0x2128, 2), (0x212A, 0x212D, 1), (0x212F, 0x2139, 1),
  (0x213B, 0x2140, 1), (0x2145, 0x2149, 1), (0x2150, 0x217F, 1), (0x2183, 0x2183, 1),
  (0x2189, 0x2189, 1), (0x222C, 0x222D, 1), (0x222F, 0x2230, 1), (0x2329, 0x232A, 1),
  (0x2460, 0x24EA, 1), (0x2A0C, 0x2A0C, 1), (0x2A74, 0x2A76, 1), (0x2ADC, 0x2ADC, 1),
  (0x2C00, 0x2C2F, 1), (0x2C60, 0x2C60, 1), (0x2C62, 0x2C64, 1), (0x2C67, 0x2C6B, 2),
  (0x2C6D, 0x2C70, 1), (0x2C72, 0x2C72, 1), (0x2C75, 0x2C75, 1), (0x2C7C, 0x2C80, 1),
  (0x2C82, 0x2CE2, 2), (0x2CEB, 0x2CED, 2), (0x2CF2, 0x2CF2, 1), (0x2D6F, 0x2D6F, 1),
  (0x2E9F, 0x2E9F, 1), (0x2EF3, 0x3000, 1), (0x3002, 0x3002, 1), (0x3036, 0x3036, 1),
  (0x3038, 0x303A, 1), (0x309B, 0x309C, 1), (0x309F, 0x309F, 1), (0x30FF, 0x30FF, 1),
  (0x3131, 0x318E, 1), (0x3192, 0x319F, 1), (0x3200, 0x3247, 1), (0x3250, 0x327E, 1),
  (0x3280, 0x33FF, 1), (0xA640, 0xA66C, 2), (0xA680, 0xA69A, 2), (0xA69C, 0xA69D, 1),
  (0xA722, 0xA72E, 2), (0xA732, 0xA770, 2), (0xA779, 0xA77B, 2), (0xA77D, 0xA77E, 1),
  (0xA780, 0xA786, 2), (0xA78B, 0xA78D, 2), (0xA790, 0xA792, 2), (0xA796, 0xA7A8, 2),
  (0xA7AA, 0xA7AE, 1), (0xA7B0, 0xA7B4, 1), (0xA7B6, 0xA7C2, 2), (0xA7C4, 0xA7C7, 1),
  (0xA7C9, 0xA7C9, 1), (0xA7CB, 0xA7CC, 1), (0xA7CE, 0xA7DA, 2), (0xA7DC, 0xA7F5, 1),
  (0xA7F8, 0xA7F9, 1), (0xAB5C, 0xAB5F, 1), (0xAB69, 0xAB69, 1), (0xAB70, 0xABBF, 1),
  (0xF900, 0xFA0D, 1), (0xFA10, 0xFA12, 2), (0xFA15, 0xFA1E, 1), (0xFA20, 0xFA22, 2),
  (0xFA25, 0xFA26, 1), (0xFA2A, 0xFB1D, 1), (0xFB1F, 0xFBB1, 1), (0xFBD3, 0xFD3D, 1),
  (0xFD50, 0xFD8F, 1), (0xFD92, 0xFDC7, 1), (0xFDF0, 0xFDFC, 1), (0xFE10, 0xFE18, 1),
  (0xFE31, 0xFE44, 1), (0xFE47, 0xFE72, 1), (0xFE74, 0xFFEE, 1), (0x10400, 0x10427, 1),
  (0x104B0, 0x104D3, 1), (0x10570, 0x10595, 1), (0x10781, 0x107BA, 1), (0x10C80, 0x10CB2, 1),
  (0x10D50, 0x10D65, 1), (0x118A0, 0x118BF, 1), (0x16E40, 0x16E5F, 1), (0x16EA0, 0x16EB8, 1),
  (0x1CCD6, 0x1CCF9, 1), (0x1D15E, 0x1D164, 1), (0x1D1BB, 0x1D1C0, 1), (0x1D400, 0x1D7FF, 1),
  (0x1E030, 0x1E06D, 1), (0x1E900, 0x1E921, 1), (0x1EE00, 0x1EEBB, 1), (0x1F101, 0x1F10A, 1),
  (0x1F110, 0x1F12E, 1), (0x1F130, 0x1F14F, 1), (0x1F16A, 0x1F16C, 1), (0x1F190, 0x1F190, 1),
  (0x1F200, 0x1F251, 1), (0x1FBF0, 0x1FBF9, 1), (0x2F800, 0x2FA1D, 1)]

/-! ### Reading a character -/

/-- An ASCII character that no name may hold. -/
def isForbidden (c : Char) : Bool :=
  c.toNat ≤ 0x20 || c.toNat = 0x7F || "%#/:<>?@[\\]^|".toList.contains c

/-- A character counts for nothing in a name. -/
def isSilent (c : Char) : Bool := Text.inRanges silentRanges c.toNat

/-- A character above ASCII that has no place in a name. -/
def isOusted (c : Char) : Bool :=
  Text.inRanges forbiddenRanges c.toNat || Text.inRanges oustedRanges c.toNat ||
    (Text.isUnprintable c && !Text.isMark c && !isSilent c && c ≠ Text.joiner &&
      c ≠ Text.nonJoiner)

/-- What a character above ASCII stands for, if that is ASCII. -/
def folded? (c : Char) : Option (List Char) :=
  let n := c.toNat
  match foldedRuns.find? fun r => r.1 ≤ n && n ≤ r.2.1 with
  | some r => some [(Char.ofNat (r.2.2.toNat + (n - r.1))).toLower]
  | none =>
    (numberRuns.find? fun r => r.1 ≤ n && n ≤ r.2.1).map fun r =>
      Nat.toDigits 10 (r.2.2 + (n - r.1))

/-- What a character of a name is **read as**; none if it has no place in a name. -/
def letters? (c : Char) : Option (List Char) :=
  if c.toNat < 0x80 then if isForbidden c then none else some [c.toLower]
  else if isSilent c then some []
  else if isOusted c then none
  else some ((folded? c).getD [c])

/-- A character above ASCII stands for others. -/
def isVariant (c : Char) : Bool :=
  variantRanges.any fun r => r.1 ≤ c.toNat && c.toNat ≤ r.2.1 && (c.toNat - r.1) % r.2.2 == 0

/-- A character is **settled**: it is read as itself. -/
def isSettled (c : Char) : Bool := letters? c = some [c] && !isVariant c

end Host

end Catalogue
