import ApiScaffold.Text.CodePoint

/-!
# Base forms of characters

Names in a document may be written with accents, ligatures, full-width letters
and the like.  `baseForm` replaces a character by its compatibility
decomposition (Unicode 14) and drops the marks that combine with a letter, so
that `é` becomes `e` and `ﬁ` becomes `fi`.

Names only tell ASCII letters, ASCII digits and blanks apart.  The table
therefore lists the characters whose decomposition holds an ASCII character or
a blank, or nothing but marks; every other character stands for itself.  ASCII
characters decompose to themselves.
-/

namespace ApiScaffold.Text

/-- The marks that combine with a letter: their combining class is not zero. -/
def combiningMarks : List (Nat × Nat) :=
  [(0x300, 0x34E), (0x350, 0x36F), (0x483, 0x487), (0x591, 0x5BD), (0x5BF, 0x5BF), (0x5C1, 0x5C2),
   (0x5C4, 0x5C5), (0x5C7, 0x5C7), (0x610, 0x61A), (0x64B, 0x65F), (0x670, 0x670), (0x6D6, 0x6DC),
   (0x6DF, 0x6E4), (0x6E7, 0x6E8), (0x6EA, 0x6ED), (0x711, 0x711), (0x730, 0x74A), (0x7EB, 0x7F3),
   (0x7FD, 0x7FD), (0x816, 0x819), (0x81B, 0x823), (0x825, 0x827), (0x829, 0x82D), (0x859, 0x85B),
   (0x898, 0x89F), (0x8CA, 0x8E1), (0x8E3, 0x8FF), (0x93C, 0x93C), (0x94D, 0x94D), (0x951, 0x954),
   (0x9BC, 0x9BC), (0x9CD, 0x9CD), (0x9FE, 0x9FE), (0xA3C, 0xA3C), (0xA4D, 0xA4D), (0xABC, 0xABC),
   (0xACD, 0xACD), (0xB3C, 0xB3C), (0xB4D, 0xB4D), (0xBCD, 0xBCD), (0xC3C, 0xC3C), (0xC4D, 0xC4D),
   (0xC55, 0xC56), (0xCBC, 0xCBC), (0xCCD, 0xCCD), (0xD3B, 0xD3C), (0xD4D, 0xD4D), (0xDCA, 0xDCA),
   (0xE38, 0xE3A), (0xE48, 0xE4B), (0xEB8, 0xEBA), (0xEC8, 0xECB), (0xF18, 0xF19), (0xF35, 0xF35),
   (0xF37, 0xF37), (0xF39, 0xF39), (0xF71, 0xF72), (0xF74, 0xF74), (0xF7A, 0xF7D), (0xF80, 0xF80),
   (0xF82, 0xF84), (0xF86, 0xF87), (0xFC6, 0xFC6), (0x1037, 0x1037), (0x1039, 0x103A),
   (0x108D, 0x108D), (0x135D, 0x135F), (0x1714, 0x1715), (0x1734, 0x1734), (0x17D2, 0x17D2),
   (0x17DD, 0x17DD), (0x18A9, 0x18A9), (0x1939, 0x193B), (0x1A17, 0x1A18), (0x1A60, 0x1A60),
   (0x1A75, 0x1A7C), (0x1A7F, 0x1A7F), (0x1AB0, 0x1ABD), (0x1ABF, 0x1ACE), (0x1B34, 0x1B34),
   (0x1B44, 0x1B44), (0x1B6B, 0x1B73), (0x1BAA, 0x1BAB), (0x1BE6, 0x1BE6), (0x1BF2, 0x1BF3),
   (0x1C37, 0x1C37), (0x1CD0, 0x1CD2), (0x1CD4, 0x1CE0), (0x1CE2, 0x1CE8), (0x1CED, 0x1CED),
   (0x1CF4, 0x1CF4), (0x1CF8, 0x1CF9), (0x1DC0, 0x1DFF), (0x20D0, 0x20DC), (0x20E1, 0x20E1),
   (0x20E5, 0x20F0), (0x2CEF, 0x2CF1), (0x2D7F, 0x2D7F), (0x2DE0, 0x2DFF), (0x302A, 0x302F),
   (0x3099, 0x309A), (0xA66F, 0xA66F), (0xA674, 0xA67D), (0xA69E, 0xA69F), (0xA6F0, 0xA6F1),
   (0xA806, 0xA806), (0xA82C, 0xA82C), (0xA8C4, 0xA8C4), (0xA8E0, 0xA8F1), (0xA92B, 0xA92D),
   (0xA953, 0xA953), (0xA9B3, 0xA9B3), (0xA9C0, 0xA9C0), (0xAAB0, 0xAAB0), (0xAAB2, 0xAAB4),
   (0xAAB7, 0xAAB8), (0xAABE, 0xAABF), (0xAAC1, 0xAAC1), (0xAAF6, 0xAAF6), (0xABED, 0xABED),
   (0xFB1E, 0xFB1E), (0xFE20, 0xFE2F), (0x101FD, 0x101FD), (0x102E0, 0x102E0), (0x10376, 0x1037A),
   (0x10A0D, 0x10A0D), (0x10A0F, 0x10A0F), (0x10A38, 0x10A3A), (0x10A3F, 0x10A3F),
   (0x10AE5, 0x10AE6), (0x10D24, 0x10D27), (0x10EAB, 0x10EAC), (0x10F46, 0x10F50),
   (0x10F82, 0x10F85), (0x11046, 0x11046), (0x11070, 0x11070), (0x1107F, 0x1107F),
   (0x110B9, 0x110BA), (0x11100, 0x11102), (0x11133, 0x11134), (0x11173, 0x11173),
   (0x111C0, 0x111C0), (0x111CA, 0x111CA), (0x11235, 0x11236), (0x112E9, 0x112EA),
   (0x1133B, 0x1133C), (0x1134D, 0x1134D), (0x11366, 0x1136C), (0x11370, 0x11374),
   (0x11442, 0x11442), (0x11446, 0x11446), (0x1145E, 0x1145E), (0x114C2, 0x114C3),
   (0x115BF, 0x115C0), (0x1163F, 0x1163F), (0x116B6, 0x116B7), (0x1172B, 0x1172B),
   (0x11839, 0x1183A), (0x1193D, 0x1193E), (0x11943, 0x11943), (0x119E0, 0x119E0),
   (0x11A34, 0x11A34), (0x11A47, 0x11A47), (0x11A99, 0x11A99), (0x11C3F, 0x11C3F),
   (0x11D42, 0x11D42), (0x11D44, 0x11D45), (0x11D97, 0x11D97), (0x16AF0, 0x16AF4),
   (0x16B30, 0x16B36), (0x16FF0, 0x16FF1), (0x1BC9E, 0x1BC9E), (0x1D165, 0x1D169),
   (0x1D16D, 0x1D172), (0x1D17B, 0x1D182), (0x1D185, 0x1D18B), (0x1D1AA, 0x1D1AD),
   (0x1D242, 0x1D244), (0x1E000, 0x1E006), (0x1E008, 0x1E018), (0x1E01B, 0x1E021),
   (0x1E023, 0x1E024), (0x1E026, 0x1E02A), (0x1E130, 0x1E136), (0x1E2AE, 0x1E2AE),
   (0x1E2EC, 0x1E2EF), (0x1E8D0, 0x1E8D6), (0x1E944, 0x1E94A)]

/-- Runs of characters that decompose to one character each.  An entry holds the
first and the last code point of the run, the character of the first, and how far
the character moves from one to the next. -/
def baseRuns : List (Nat × Nat × Nat × Nat) :=
  [(0xA0, 0xA0, 0x20, 0), (0xA8, 0xA8, 0x20, 0), (0xAA, 0xAA, 0x61, 0), (0xAF, 0xAF, 0x20, 0),
   (0xB2, 0xB3, 0x32, 1), (0xB4, 0xB4, 0x20, 0), (0xB8, 0xB8, 0x20, 0), (0xB9, 0xB9, 0x31, 0),
   (0xBA, 0xBA, 0x6F, 0), (0xC0, 0xC5, 0x41, 0), (0xC7, 0xC7, 0x43, 0), (0xC8, 0xCB, 0x45, 0),
   (0xCC, 0xCF, 0x49, 0), (0xD1, 0xD2, 0x4E, 1), (0xD3, 0xD6, 0x4F, 0), (0xD9, 0xDC, 0x55, 0),
   (0xDD, 0xDD, 0x59, 0), (0xE0, 0xE5, 0x61, 0), (0xE7, 0xE7, 0x63, 0), (0xE8, 0xEB, 0x65, 0),
   (0xEC, 0xEF, 0x69, 0), (0xF1, 0xF2, 0x6E, 1), (0xF3, 0xF6, 0x6F, 0), (0xF9, 0xFC, 0x75, 0),
   (0xFD, 0xFD, 0x79, 0), (0xFF, 0xFF, 0x79, 0), (0x100, 0x100, 0x41, 0), (0x101, 0x101, 0x61, 0),
   (0x102, 0x102, 0x41, 0), (0x103, 0x103, 0x61, 0), (0x104, 0x104, 0x41, 0),
   (0x105, 0x105, 0x61, 0), (0x106, 0x106, 0x43, 0), (0x107, 0x107, 0x63, 0),
   (0x108, 0x108, 0x43, 0), (0x109, 0x109, 0x63, 0), (0x10A, 0x10A, 0x43, 0),
   (0x10B, 0x10B, 0x63, 0), (0x10C, 0x10C, 0x43, 0), (0x10D, 0x10D, 0x63, 0),
   (0x10E, 0x10E, 0x44, 0), (0x10F, 0x10F, 0x64, 0), (0x112, 0x112, 0x45, 0),
   (0x113, 0x113, 0x65, 0), (0x114, 0x114, 0x45, 0), (0x115, 0x115, 0x65, 0),
   (0x116, 0x116, 0x45, 0), (0x117, 0x117, 0x65, 0), (0x118, 0x118, 0x45, 0),
   (0x119, 0x119, 0x65, 0), (0x11A, 0x11A, 0x45, 0), (0x11B, 0x11B, 0x65, 0),
   (0x11C, 0x11C, 0x47, 0), (0x11D, 0x11D, 0x67, 0), (0x11E, 0x11E, 0x47, 0),
   (0x11F, 0x11F, 0x67, 0), (0x120, 0x120, 0x47, 0), (0x121, 0x121, 0x67, 0),
   (0x122, 0x122, 0x47, 0), (0x123, 0x123, 0x67, 0), (0x124, 0x124, 0x48, 0),
   (0x125, 0x125, 0x68, 0), (0x128, 0x128, 0x49, 0), (0x129, 0x129, 0x69, 0),
   (0x12A, 0x12A, 0x49, 0), (0x12B, 0x12B, 0x69, 0), (0x12C, 0x12C, 0x49, 0),
   (0x12D, 0x12D, 0x69, 0), (0x12E, 0x12E, 0x49, 0), (0x12F, 0x12F, 0x69, 0),
   (0x130, 0x130, 0x49, 0), (0x134, 0x134, 0x4A, 0), (0x135, 0x135, 0x6A, 0),
   (0x136, 0x136, 0x4B, 0), (0x137, 0x137, 0x6B, 0), (0x139, 0x139, 0x4C, 0),
   (0x13A, 0x13A, 0x6C, 0), (0x13B, 0x13B, 0x4C, 0), (0x13C, 0x13C, 0x6C, 0),
   (0x13D, 0x13D, 0x4C, 0), (0x13E, 0x13E, 0x6C, 0), (0x143, 0x143, 0x4E, 0),
   (0x144, 0x144, 0x6E, 0), (0x145, 0x145, 0x4E, 0), (0x146, 0x146, 0x6E, 0),
   (0x147, 0x147, 0x4E, 0), (0x148, 0x148, 0x6E, 0), (0x14C, 0x14C, 0x4F, 0),
   (0x14D, 0x14D, 0x6F, 0), (0x14E, 0x14E, 0x4F, 0), (0x14F, 0x14F, 0x6F, 0),
   (0x150, 0x150, 0x4F, 0), (0x151, 0x151, 0x6F, 0), (0x154, 0x154, 0x52, 0),
   (0x155, 0x155, 0x72, 0), (0x156, 0x156, 0x52, 0), (0x157, 0x157, 0x72, 0),
   (0x158, 0x158, 0x52, 0), (0x159, 0x159, 0x72, 0), (0x15A, 0x15A, 0x53, 0),
   (0x15B, 0x15B, 0x73, 0), (0x15C, 0x15C, 0x53, 0), (0x15D, 0x15D, 0x73, 0),
   (0x15E, 0x15E, 0x53, 0), (0x15F, 0x15F, 0x73, 0), (0x160, 0x160, 0x53, 0),
   (0x161, 0x161, 0x73, 0), (0x162, 0x162, 0x54, 0), (0x163, 0x163, 0x74, 0),
   (0x164, 0x164, 0x54, 0), (0x165, 0x165, 0x74, 0), (0x168, 0x168, 0x55, 0),
   (0x169, 0x169, 0x75, 0), (0x16A, 0x16A, 0x55, 0), (0x16B, 0x16B, 0x75, 0),
   (0x16C, 0x16C, 0x55, 0), (0x16D, 0x16D, 0x75, 0), (0x16E, 0x16E, 0x55, 0),
   (0x16F, 0x16F, 0x75, 0), (0x170, 0x170, 0x55, 0), (0x171, 0x171, 0x75, 0),
   (0x172, 0x172, 0x55, 0), (0x173, 0x173, 0x75, 0), (0x174, 0x174, 0x57, 0),
   (0x175, 0x175, 0x77, 0), (0x176, 0x176, 0x59, 0), (0x177, 0x177, 0x79, 0),
   (0x178, 0x179, 0x59, 1), (0x17A, 0x17A, 0x7A, 0), (0x17B, 0x17B, 0x5A, 0),
   (0x17C, 0x17C, 0x7A, 0), (0x17D, 0x17D, 0x5A, 0), (0x17E, 0x17E, 0x7A, 0),
   (0x17F, 0x17F, 0x73, 0), (0x1A0, 0x1A0, 0x4F, 0), (0x1A1, 0x1A1, 0x6F, 0),
   (0x1AF, 0x1AF, 0x55, 0), (0x1B0, 0x1B0, 0x75, 0), (0x1CD, 0x1CD, 0x41, 0),
   (0x1CE, 0x1CE, 0x61, 0), (0x1CF, 0x1CF, 0x49, 0), (0x1D0, 0x1D0, 0x69, 0),
   (0x1D1, 0x1D1, 0x4F, 0), (0x1D2, 0x1D2, 0x6F, 0), (0x1D3, 0x1D3, 0x55, 0),
   (0x1D4, 0x1D4, 0x75, 0), (0x1D5, 0x1D5, 0x55, 0), (0x1D6, 0x1D6, 0x75, 0),
   (0x1D7, 0x1D7, 0x55, 0), (0x1D8, 0x1D8, 0x75, 0), (0x1D9, 0x1D9, 0x55, 0),
   (0x1DA, 0x1DA, 0x75, 0), (0x1DB, 0x1DB, 0x55, 0), (0x1DC, 0x1DC, 0x75, 0),
   (0x1DE, 0x1DE, 0x41, 0), (0x1DF, 0x1DF, 0x61, 0), (0x1E0, 0x1E0, 0x41, 0),
   (0x1E1, 0x1E1, 0x61, 0), (0x1E6, 0x1E6, 0x47, 0), (0x1E7, 0x1E7, 0x67, 0),
   (0x1E8, 0x1E8, 0x4B, 0), (0x1E9, 0x1E9, 0x6B, 0), (0x1EA, 0x1EA, 0x4F, 0),
   (0x1EB, 0x1EB, 0x6F, 0), (0x1EC, 0x1EC, 0x4F, 0), (0x1ED, 0x1ED, 0x6F, 0),
   (0x1F0, 0x1F0, 0x6A, 0), (0x1F4, 0x1F4, 0x47, 0), (0x1F5, 0x1F5, 0x67, 0),
   (0x1F8, 0x1F8, 0x4E, 0), (0x1F9, 0x1F9, 0x6E, 0), (0x1FA, 0x1FA, 0x41, 0),
   (0x1FB, 0x1FB, 0x61, 0), (0x200, 0x200, 0x41, 0), (0x201, 0x201, 0x61, 0),
   (0x202, 0x202, 0x41, 0), (0x203, 0x203, 0x61, 0), (0x204, 0x204, 0x45, 0),
   (0x205, 0x205, 0x65, 0), (0x206, 0x206, 0x45, 0), (0x207, 0x207, 0x65, 0),
   (0x208, 0x208, 0x49, 0), (0x209, 0x209, 0x69, 0), (0x20A, 0x20A, 0x49, 0),
   (0x20B, 0x20B, 0x69, 0), (0x20C, 0x20C, 0x4F, 0), (0x20D, 0x20D, 0x6F, 0),
   (0x20E, 0x20E, 0x4F, 0), (0x20F, 0x20F, 0x6F, 0), (0x210, 0x210, 0x52, 0),
   (0x211, 0x211, 0x72, 0), (0x212, 0x212, 0x52, 0), (0x213, 0x213, 0x72, 0),
   (0x214, 0x214, 0x55, 0), (0x215, 0x215, 0x75, 0), (0x216, 0x216, 0x55, 0),
   (0x217, 0x217, 0x75, 0), (0x218, 0x218, 0x53, 0), (0x219, 0x219, 0x73, 0),
   (0x21A, 0x21A, 0x54, 0), (0x21B, 0x21B, 0x74, 0), (0x21E, 0x21E, 0x48, 0),
   (0x21F, 0x21F, 0x68, 0), (0x226, 0x226, 0x41, 0), (0x227, 0x227, 0x61, 0),
   (0x228, 0x228, 0x45, 0), (0x229, 0x229, 0x65, 0), (0x22A, 0x22A, 0x4F, 0),
   (0x22B, 0x22B, 0x6F, 0), (0x22C, 0x22C, 0x4F, 0), (0x22D, 0x22D, 0x6F, 0),
   (0x22E, 0x22E, 0x4F, 0), (0x22F, 0x22F, 0x6F, 0), (0x230, 0x230, 0x4F, 0),
   (0x231, 0x231, 0x6F, 0), (0x232, 0x232, 0x59, 0), (0x233, 0x233, 0x79, 0),
   (0x2B0, 0x2B0, 0x68, 0), (0x2B2, 0x2B2, 0x6A, 0), (0x2B3, 0x2B3, 0x72, 0),
   (0x2B7, 0x2B7, 0x77, 0), (0x2B8, 0x2B8, 0x79, 0), (0x2D8, 0x2DD, 0x20, 0),
   (0x2E1, 0x2E1, 0x6C, 0), (0x2E2, 0x2E2, 0x73, 0), (0x2E3, 0x2E3, 0x78, 0),
   (0x37A, 0x37A, 0x20, 0), (0x37E, 0x37E, 0x3B, 0), (0x384, 0x385, 0x20, 0),
   (0x1D2C, 0x1D2C, 0x41, 0), (0x1D2E, 0x1D2E, 0x42, 0), (0x1D30, 0x1D31, 0x44, 1),
   (0x1D33, 0x1D3A, 0x47, 1), (0x1D3C, 0x1D3C, 0x4F, 0), (0x1D3E, 0x1D3E, 0x50, 0),
   (0x1D3F, 0x1D3F, 0x52, 0), (0x1D40, 0x1D41, 0x54, 1), (0x1D42, 0x1D42, 0x57, 0),
   (0x1D43, 0x1D43, 0x61, 0), (0x1D47, 0x1D47, 0x62, 0), (0x1D48, 0x1D49, 0x64, 1),
   (0x1D4D, 0x1D4D, 0x67, 0), (0x1D4F, 0x1D4F, 0x6B, 0), (0x1D50, 0x1D50, 0x6D, 0),
   (0x1D52, 0x1D52, 0x6F, 0), (0x1D56, 0x1D56, 0x70, 0), (0x1D57, 0x1D58, 0x74, 1),
   (0x1D5B, 0x1D5B, 0x76, 0), (0x1D62, 0x1D62, 0x69, 0), (0x1D63, 0x1D63, 0x72, 0),
   (0x1D64, 0x1D65, 0x75, 1), (0x1D9C, 0x1D9C, 0x63, 0), (0x1DA0, 0x1DA0, 0x66, 0),
   (0x1DBB, 0x1DBB, 0x7A, 0), (0x1E00, 0x1E00, 0x41, 0), (0x1E01, 0x1E01, 0x61, 0),
   (0x1E02, 0x1E02, 0x42, 0), (0x1E03, 0x1E03, 0x62, 0), (0x1E04, 0x1E04, 0x42, 0),
   (0x1E05, 0x1E05, 0x62, 0), (0x1E06, 0x1E06, 0x42, 0), (0x1E07, 0x1E07, 0x62, 0),
   (0x1E08, 0x1E08, 0x43, 0), (0x1E09, 0x1E09, 0x63, 0), (0x1E0A, 0x1E0A, 0x44, 0),
   (0x1E0B, 0x1E0B, 0x64, 0), (0x1E0C, 0x1E0C, 0x44, 0), (0x1E0D, 0x1E0D, 0x64, 0),
   (0x1E0E, 0x1E0E, 0x44, 0), (0x1E0F, 0x1E0F, 0x64, 0), (0x1E10, 0x1E10, 0x44, 0),
   (0x1E11, 0x1E11, 0x64, 0), (0x1E12, 0x1E12, 0x44, 0), (0x1E13, 0x1E13, 0x64, 0),
   (0x1E14, 0x1E14, 0x45, 0), (0x1E15, 0x1E15, 0x65, 0), (0x1E16, 0x1E16, 0x45, 0),
   (0x1E17, 0x1E17, 0x65, 0), (0x1E18, 0x1E18, 0x45, 0), (0x1E19, 0x1E19, 0x65, 0),
   (0x1E1A, 0x1E1A, 0x45, 0), (0x1E1B, 0x1E1B, 0x65, 0), (0x1E1C, 0x1E1C, 0x45, 0),
   (0x1E1D, 0x1E1D, 0x65, 0), (0x1E1E, 0x1E1E, 0x46, 0), (0x1E1F, 0x1E1F, 0x66, 0),
   (0x1E20, 0x1E20, 0x47, 0), (0x1E21, 0x1E21, 0x67, 0), (0x1E22, 0x1E22, 0x48, 0),
   (0x1E23, 0x1E23, 0x68, 0), (0x1E24, 0x1E24, 0x48, 0), (0x1E25, 0x1E25, 0x68, 0),
   (0x1E26, 0x1E26, 0x48, 0), (0x1E27, 0x1E27, 0x68, 0), (0x1E28, 0x1E28, 0x48, 0),
   (0x1E29, 0x1E29, 0x68, 0), (0x1E2A, 0x1E2A, 0x48, 0), (0x1E2B, 0x1E2B, 0x68, 0),
   (0x1E2C, 0x1E2C, 0x49, 0), (0x1E2D, 0x1E2D, 0x69, 0), (0x1E2E, 0x1E2E, 0x49, 0),
   (0x1E2F, 0x1E2F, 0x69, 0), (0x1E30, 0x1E30, 0x4B, 0), (0x1E31, 0x1E31, 0x6B, 0),
   (0x1E32, 0x1E32, 0x4B, 0), (0x1E33, 0x1E33, 0x6B, 0), (0x1E34, 0x1E34, 0x4B, 0),
   (0x1E35, 0x1E35, 0x6B, 0), (0x1E36, 0x1E36, 0x4C, 0), (0x1E37, 0x1E37, 0x6C, 0),
   (0x1E38, 0x1E38, 0x4C, 0), (0x1E39, 0x1E39, 0x6C, 0), (0x1E3A, 0x1E3A, 0x4C, 0),
   (0x1E3B, 0x1E3B, 0x6C, 0), (0x1E3C, 0x1E3C, 0x4C, 0), (0x1E3D, 0x1E3D, 0x6C, 0),
   (0x1E3E, 0x1E3E, 0x4D, 0), (0x1E3F, 0x1E3F, 0x6D, 0), (0x1E40, 0x1E40, 0x4D, 0),
   (0x1E41, 0x1E41, 0x6D, 0), (0x1E42, 0x1E42, 0x4D, 0), (0x1E43, 0x1E43, 0x6D, 0),
   (0x1E44, 0x1E44, 0x4E, 0), (0x1E45, 0x1E45, 0x6E, 0), (0x1E46, 0x1E46, 0x4E, 0),
   (0x1E47, 0x1E47, 0x6E, 0), (0x1E48, 0x1E48, 0x4E, 0), (0x1E49, 0x1E49, 0x6E, 0),
   (0x1E4A, 0x1E4A, 0x4E, 0), (0x1E4B, 0x1E4B, 0x6E, 0), (0x1E4C, 0x1E4C, 0x4F, 0),
   (0x1E4D, 0x1E4D, 0x6F, 0), (0x1E4E, 0x1E4E, 0x4F, 0), (0x1E4F, 0x1E4F, 0x6F, 0),
   (0x1E50, 0x1E50, 0x4F, 0), (0x1E51, 0x1E51, 0x6F, 0), (0x1E52, 0x1E52, 0x4F, 0),
   (0x1E53, 0x1E53, 0x6F, 0), (0x1E54, 0x1E54, 0x50, 0), (0x1E55, 0x1E55, 0x70, 0),
   (0x1E56, 0x1E56, 0x50, 0), (0x1E57, 0x1E57, 0x70, 0), (0x1E58, 0x1E58, 0x52, 0),
   (0x1E59, 0x1E59, 0x72, 0), (0x1E5A, 0x1E5A, 0x52, 0), (0x1E5B, 0x1E5B, 0x72, 0),
   (0x1E5C, 0x1E5C, 0x52, 0), (0x1E5D, 0x1E5D, 0x72, 0), (0x1E5E, 0x1E5E, 0x52, 0),
   (0x1E5F, 0x1E5F, 0x72, 0), (0x1E60, 0x1E60, 0x53, 0), (0x1E61, 0x1E61, 0x73, 0),
   (0x1E62, 0x1E62, 0x53, 0), (0x1E63, 0x1E63, 0x73, 0), (0x1E64, 0x1E64, 0x53, 0),
   (0x1E65, 0x1E65, 0x73, 0), (0x1E66, 0x1E66, 0x53, 0), (0x1E67, 0x1E67, 0x73, 0),
   (0x1E68, 0x1E68, 0x53, 0), (0x1E69, 0x1E69, 0x73, 0), (0x1E6A, 0x1E6A, 0x54, 0),
   (0x1E6B, 0x1E6B, 0x74, 0), (0x1E6C, 0x1E6C, 0x54, 0), (0x1E6D, 0x1E6D, 0x74, 0),
   (0x1E6E, 0x1E6E, 0x54, 0), (0x1E6F, 0x1E6F, 0x74, 0), (0x1E70, 0x1E70, 0x54, 0),
   (0x1E71, 0x1E71, 0x74, 0), (0x1E72, 0x1E72, 0x55, 0), (0x1E73, 0x1E73, 0x75, 0),
   (0x1E74, 0x1E74, 0x55, 0), (0x1E75, 0x1E75, 0x75, 0), (0x1E76, 0x1E76, 0x55, 0),
   (0x1E77, 0x1E77, 0x75, 0), (0x1E78, 0x1E78, 0x55, 0), (0x1E79, 0x1E79, 0x75, 0),
   (0x1E7A, 0x1E7A, 0x55, 0), (0x1E7B, 0x1E7B, 0x75, 0), (0x1E7C, 0x1E7C, 0x56, 0),
   (0x1E7D, 0x1E7D, 0x76, 0), (0x1E7E, 0x1E7E, 0x56, 0), (0x1E7F, 0x1E7F, 0x76, 0),
   (0x1E80, 0x1E80, 0x57, 0), (0x1E81, 0x1E81, 0x77, 0), (0x1E82, 0x1E82, 0x57, 0),
   (0x1E83, 0x1E83, 0x77, 0), (0x1E84, 0x1E84, 0x57, 0), (0x1E85, 0x1E85, 0x77, 0),
   (0x1E86, 0x1E86, 0x57, 0), (0x1E87, 0x1E87, 0x77, 0), (0x1E88, 0x1E88, 0x57, 0),
   (0x1E89, 0x1E89, 0x77, 0), (0x1E8A, 0x1E8A, 0x58, 0), (0x1E8B, 0x1E8B, 0x78, 0),
   (0x1E8C, 0x1E8C, 0x58, 0), (0x1E8D, 0x1E8D, 0x78, 0), (0x1E8E, 0x1E8E, 0x59, 0),
   (0x1E8F, 0x1E8F, 0x79, 0), (0x1E90, 0x1E90, 0x5A, 0), (0x1E91, 0x1E91, 0x7A, 0),
   (0x1E92, 0x1E92, 0x5A, 0), (0x1E93, 0x1E93, 0x7A, 0), (0x1E94, 0x1E94, 0x5A, 0),
   (0x1E95, 0x1E95, 0x7A, 0), (0x1E96, 0x1E96, 0x68, 0), (0x1E97, 0x1E97, 0x74, 0),
   (0x1E98, 0x1E98, 0x77, 0), (0x1E99, 0x1E99, 0x79, 0), (0x1E9B, 0x1E9B, 0x73, 0),
   (0x1EA0, 0x1EA0, 0x41, 0), (0x1EA1, 0x1EA1, 0x61, 0), (0x1EA2, 0x1EA2, 0x41, 0),
   (0x1EA3, 0x1EA3, 0x61, 0), (0x1EA4, 0x1EA4, 0x41, 0), (0x1EA5, 0x1EA5, 0x61, 0),
   (0x1EA6, 0x1EA6, 0x41, 0), (0x1EA7, 0x1EA7, 0x61, 0), (0x1EA8, 0x1EA8, 0x41, 0),
   (0x1EA9, 0x1EA9, 0x61, 0), (0x1EAA, 0x1EAA, 0x41, 0), (0x1EAB, 0x1EAB, 0x61, 0),
   (0x1EAC, 0x1EAC, 0x41, 0), (0x1EAD, 0x1EAD, 0x61, 0), (0x1EAE, 0x1EAE, 0x41, 0),
   (0x1EAF, 0x1EAF, 0x61, 0), (0x1EB0, 0x1EB0, 0x41, 0), (0x1EB1, 0x1EB1, 0x61, 0),
   (0x1EB2, 0x1EB2, 0x41, 0), (0x1EB3, 0x1EB3, 0x61, 0), (0x1EB4, 0x1EB4, 0x41, 0),
   (0x1EB5, 0x1EB5, 0x61, 0), (0x1EB6, 0x1EB6, 0x41, 0), (0x1EB7, 0x1EB7, 0x61, 0),
   (0x1EB8, 0x1EB8, 0x45, 0), (0x1EB9, 0x1EB9, 0x65, 0), (0x1EBA, 0x1EBA, 0x45, 0),
   (0x1EBB, 0x1EBB, 0x65, 0), (0x1EBC, 0x1EBC, 0x45, 0), (0x1EBD, 0x1EBD, 0x65, 0),
   (0x1EBE, 0x1EBE, 0x45, 0), (0x1EBF, 0x1EBF, 0x65, 0), (0x1EC0, 0x1EC0, 0x45, 0),
   (0x1EC1, 0x1EC1, 0x65, 0), (0x1EC2, 0x1EC2, 0x45, 0), (0x1EC3, 0x1EC3, 0x65, 0),
   (0x1EC4, 0x1EC4, 0x45, 0), (0x1EC5, 0x1EC5, 0x65, 0), (0x1EC6, 0x1EC6, 0x45, 0),
   (0x1EC7, 0x1EC7, 0x65, 0), (0x1EC8, 0x1EC8, 0x49, 0), (0x1EC9, 0x1EC9, 0x69, 0),
   (0x1ECA, 0x1ECA, 0x49, 0), (0x1ECB, 0x1ECB, 0x69, 0), (0x1ECC, 0x1ECC, 0x4F, 0),
   (0x1ECD, 0x1ECD, 0x6F, 0), (0x1ECE, 0x1ECE, 0x4F, 0), (0x1ECF, 0x1ECF, 0x6F, 0),
   (0x1ED0, 0x1ED0, 0x4F, 0), (0x1ED1, 0x1ED1, 0x6F, 0), (0x1ED2, 0x1ED2, 0x4F, 0),
   (0x1ED3, 0x1ED3, 0x6F, 0), (0x1ED4, 0x1ED4, 0x4F, 0), (0x1ED5, 0x1ED5, 0x6F, 0),
   (0x1ED6, 0x1ED6, 0x4F, 0), (0x1ED7, 0x1ED7, 0x6F, 0), (0x1ED8, 0x1ED8, 0x4F, 0),
   (0x1ED9, 0x1ED9, 0x6F, 0), (0x1EDA, 0x1EDA, 0x4F, 0), (0x1EDB, 0x1EDB, 0x6F, 0),
   (0x1EDC, 0x1EDC, 0x4F, 0), (0x1EDD, 0x1EDD, 0x6F, 0), (0x1EDE, 0x1EDE, 0x4F, 0),
   (0x1EDF, 0x1EDF, 0x6F, 0), (0x1EE0, 0x1EE0, 0x4F, 0), (0x1EE1, 0x1EE1, 0x6F, 0),
   (0x1EE2, 0x1EE2, 0x4F, 0), (0x1EE3, 0x1EE3, 0x6F, 0), (0x1EE4, 0x1EE4, 0x55, 0),
   (0x1EE5, 0x1EE5, 0x75, 0), (0x1EE6, 0x1EE6, 0x55, 0), (0x1EE7, 0x1EE7, 0x75, 0),
   (0x1EE8, 0x1EE8, 0x55, 0), (0x1EE9, 0x1EE9, 0x75, 0), (0x1EEA, 0x1EEA, 0x55, 0),
   (0x1EEB, 0x1EEB, 0x75, 0), (0x1EEC, 0x1EEC, 0x55, 0), (0x1EED, 0x1EED, 0x75, 0),
   (0x1EEE, 0x1EEE, 0x55, 0), (0x1EEF, 0x1EEF, 0x75, 0), (0x1EF0, 0x1EF0, 0x55, 0),
   (0x1EF1, 0x1EF1, 0x75, 0), (0x1EF2, 0x1EF2, 0x59, 0), (0x1EF3, 0x1EF3, 0x79, 0),
   (0x1EF4, 0x1EF4, 0x59, 0), (0x1EF5, 0x1EF5, 0x79, 0), (0x1EF6, 0x1EF6, 0x59, 0),
   (0x1EF7, 0x1EF7, 0x79, 0), (0x1EF8, 0x1EF8, 0x59, 0), (0x1EF9, 0x1EF9, 0x79, 0),
   (0x1FBD, 0x1FBD, 0x20, 0), (0x1FBF, 0x1FC1, 0x20, 0), (0x1FCD, 0x1FCF, 0x20, 0),
   (0x1FDD, 0x1FDF, 0x20, 0), (0x1FED, 0x1FEE, 0x20, 0), (0x1FEF, 0x1FEF, 0x60, 0),
   (0x1FFD, 0x1FFE, 0x20, 0), (0x2000, 0x200A, 0x20, 0), (0x2017, 0x2017, 0x20, 0),
   (0x2024, 0x2024, 0x2E, 0), (0x202F, 0x202F, 0x20, 0), (0x203E, 0x203E, 0x20, 0),
   (0x205F, 0x205F, 0x20, 0), (0x2070, 0x2070, 0x30, 0), (0x2071, 0x2071, 0x69, 0),
   (0x2074, 0x2079, 0x34, 1), (0x207A, 0x207A, 0x2B, 0), (0x207C, 0x207C, 0x3D, 0),
   (0x207D, 0x207E, 0x28, 1), (0x207F, 0x207F, 0x6E, 0), (0x2080, 0x2089, 0x30, 1),
   (0x208A, 0x208A, 0x2B, 0), (0x208C, 0x208C, 0x3D, 0), (0x208D, 0x208E, 0x28, 1),
   (0x2090, 0x2090, 0x61, 0), (0x2091, 0x2091, 0x65, 0), (0x2092, 0x2092, 0x6F, 0),
   (0x2093, 0x2093, 0x78, 0), (0x2095, 0x2095, 0x68, 0), (0x2096, 0x2099, 0x6B, 1),
   (0x209A, 0x209A, 0x70, 0), (0x209B, 0x209C, 0x73, 1), (0x2102, 0x2102, 0x43, 0),
   (0x210A, 0x210A, 0x67, 0), (0x210B, 0x210D, 0x48, 0), (0x210E, 0x210E, 0x68, 0),
   (0x2110, 0x2111, 0x49, 0), (0x2112, 0x2112, 0x4C, 0), (0x2113, 0x2113, 0x6C, 0),
   (0x2115, 0x2115, 0x4E, 0), (0x2119, 0x211B, 0x50, 1), (0x211C, 0x211D, 0x52, 0),
   (0x2124, 0x2124, 0x5A, 0), (0x2128, 0x2128, 0x5A, 0), (0x212A, 0x212A, 0x4B, 0),
   (0x212B, 0x212D, 0x41, 1), (0x212F, 0x212F, 0x65, 0), (0x2130, 0x2131, 0x45, 1),
   (0x2133, 0x2133, 0x4D, 0), (0x2134, 0x2134, 0x6F, 0), (0x2139, 0x2139, 0x69, 0),
   (0x2145, 0x2145, 0x44, 0), (0x2146, 0x2147, 0x64, 1), (0x2148, 0x2149, 0x69, 1),
   (0x2160, 0x2160, 0x49, 0), (0x2164, 0x2164, 0x56, 0), (0x2169, 0x2169, 0x58, 0),
   (0x216C, 0x216C, 0x4C, 0), (0x216D, 0x216E, 0x43, 1), (0x216F, 0x216F, 0x4D, 0),
   (0x2170, 0x2170, 0x69, 0), (0x2174, 0x2174, 0x76, 0), (0x2179, 0x2179, 0x78, 0),
   (0x217C, 0x217C, 0x6C, 0), (0x217D, 0x217E, 0x63, 1), (0x217F, 0x217F, 0x6D, 0),
   (0x2260, 0x2260, 0x3D, 0), (0x226E, 0x226E, 0x3C, 0), (0x226F, 0x226F, 0x3E, 0),
   (0x2460, 0x2468, 0x31, 1), (0x24B6, 0x24CF, 0x41, 1), (0x24D0, 0x24E9, 0x61, 1),
   (0x24EA, 0x24EA, 0x30, 0), (0x2C7C, 0x2C7C, 0x6A, 0), (0x2C7D, 0x2C7D, 0x56, 0),
   (0x3000, 0x3000, 0x20, 0), (0x309B, 0x309C, 0x20, 0), (0xA7F2, 0xA7F2, 0x43, 0),
   (0xA7F3, 0xA7F3, 0x46, 0), (0xA7F4, 0xA7F4, 0x51, 0), (0xFB29, 0xFB29, 0x2B, 0),
   (0xFC5E, 0xFC63, 0x20, 0), (0xFE10, 0xFE10, 0x2C, 0), (0xFE13, 0xFE14, 0x3A, 1),
   (0xFE15, 0xFE15, 0x21, 0), (0xFE16, 0xFE16, 0x3F, 0), (0xFE33, 0xFE34, 0x5F, 0),
   (0xFE35, 0xFE36, 0x28, 1), (0xFE37, 0xFE37, 0x7B, 0), (0xFE38, 0xFE38, 0x7D, 0),
   (0xFE47, 0xFE47, 0x5B, 0), (0xFE48, 0xFE48, 0x5D, 0), (0xFE49, 0xFE4C, 0x20, 0),
   (0xFE4D, 0xFE4F, 0x5F, 0), (0xFE50, 0xFE50, 0x2C, 0), (0xFE52, 0xFE52, 0x2E, 0),
   (0xFE54, 0xFE54, 0x3B, 0), (0xFE55, 0xFE55, 0x3A, 0), (0xFE56, 0xFE56, 0x3F, 0),
   (0xFE57, 0xFE57, 0x21, 0), (0xFE59, 0xFE5A, 0x28, 1), (0xFE5B, 0xFE5B, 0x7B, 0),
   (0xFE5C, 0xFE5C, 0x7D, 0), (0xFE5F, 0xFE5F, 0x23, 0), (0xFE60, 0xFE60, 0x26, 0),
   (0xFE61, 0xFE62, 0x2A, 1), (0xFE63, 0xFE63, 0x2D, 0), (0xFE64, 0xFE64, 0x3C, 0),
   (0xFE65, 0xFE65, 0x3E, 0), (0xFE66, 0xFE66, 0x3D, 0), (0xFE68, 0xFE68, 0x5C, 0),
   (0xFE69, 0xFE6A, 0x24, 1), (0xFE6B, 0xFE6B, 0x40, 0), (0xFE70, 0xFE70, 0x20, 0),
   (0xFE72, 0xFE72, 0x20, 0), (0xFE74, 0xFE74, 0x20, 0), (0xFE76, 0xFE76, 0x20, 0),
   (0xFE78, 0xFE78, 0x20, 0), (0xFE7A, 0xFE7A, 0x20, 0), (0xFE7C, 0xFE7C, 0x20, 0),
   (0xFE7E, 0xFE7E, 0x20, 0), (0xFF01, 0xFF5E, 0x21, 1), (0xFFE3, 0xFFE3, 0x20, 0),
   (0x107A5, 0x107A5, 0x71, 0), (0x1D400, 0x1D419, 0x41, 1), (0x1D41A, 0x1D433, 0x61, 1),
   (0x1D434, 0x1D44D, 0x41, 1), (0x1D44E, 0x1D454, 0x61, 1), (0x1D456, 0x1D467, 0x69, 1),
   (0x1D468, 0x1D481, 0x41, 1), (0x1D482, 0x1D49B, 0x61, 1), (0x1D49C, 0x1D49C, 0x41, 0),
   (0x1D49E, 0x1D49F, 0x43, 1), (0x1D4A2, 0x1D4A2, 0x47, 0), (0x1D4A5, 0x1D4A6, 0x4A, 1),
   (0x1D4A9, 0x1D4AC, 0x4E, 1), (0x1D4AE, 0x1D4B5, 0x53, 1), (0x1D4B6, 0x1D4B9, 0x61, 1),
   (0x1D4BB, 0x1D4BB, 0x66, 0), (0x1D4BD, 0x1D4C3, 0x68, 1), (0x1D4C5, 0x1D4CF, 0x70, 1),
   (0x1D4D0, 0x1D4E9, 0x41, 1), (0x1D4EA, 0x1D503, 0x61, 1), (0x1D504, 0x1D505, 0x41, 1),
   (0x1D507, 0x1D50A, 0x44, 1), (0x1D50D, 0x1D514, 0x4A, 1), (0x1D516, 0x1D51C, 0x53, 1),
   (0x1D51E, 0x1D537, 0x61, 1), (0x1D538, 0x1D539, 0x41, 1), (0x1D53B, 0x1D53E, 0x44, 1),
   (0x1D540, 0x1D544, 0x49, 1), (0x1D546, 0x1D546, 0x4F, 0), (0x1D54A, 0x1D550, 0x53, 1),
   (0x1D552, 0x1D56B, 0x61, 1), (0x1D56C, 0x1D585, 0x41, 1), (0x1D586, 0x1D59F, 0x61, 1),
   (0x1D5A0, 0x1D5B9, 0x41, 1), (0x1D5BA, 0x1D5D3, 0x61, 1), (0x1D5D4, 0x1D5ED, 0x41, 1),
   (0x1D5EE, 0x1D607, 0x61, 1), (0x1D608, 0x1D621, 0x41, 1), (0x1D622, 0x1D63B, 0x61, 1),
   (0x1D63C, 0x1D655, 0x41, 1), (0x1D656, 0x1D66F, 0x61, 1), (0x1D670, 0x1D689, 0x41, 1),
   (0x1D68A, 0x1D6A3, 0x61, 1), (0x1D7CE, 0x1D7D7, 0x30, 1), (0x1D7D8, 0x1D7E1, 0x30, 1),
   (0x1D7E2, 0x1D7EB, 0x30, 1), (0x1D7EC, 0x1D7F5, 0x30, 1), (0x1D7F6, 0x1D7FF, 0x30, 1),
   (0x1F12B, 0x1F12B, 0x43, 0), (0x1F12C, 0x1F12C, 0x52, 0), (0x1F130, 0x1F149, 0x41, 1),
   (0x1FBF0, 0x1FBF9, 0x30, 1)]

/-- Characters that decompose to several characters, or to marks only. -/
def baseSequences : List (Nat × String) :=
  [(0xBC, "1\u20444"), (0xBD, "1\u20442"), (0xBE, "3\u20444"), (0x132, "IJ"), (0x133, "ij"),
   (0x13F, "L\xb7"), (0x140, "l\xb7"), (0x149, "\u02bcn"), (0x1C4, "DZ"), (0x1C5, "Dz"),
   (0x1C6, "dz"), (0x1C7, "LJ"), (0x1C8, "Lj"), (0x1C9, "lj"), (0x1CA, "NJ"), (0x1CB, "Nj"),
   (0x1CC, "nj"), (0x1F1, "DZ"), (0x1F2, "Dz"), (0x1F3, "dz"), (0xF73, ""), (0xF75, ""),
   (0xF81, ""), (0x1E9A, "a\u02be"), (0x2025, ".."), (0x2026, "..."), (0x203C, "!!"),
   (0x2047, "??"), (0x2048, "?!"), (0x2049, "!?"), (0x20A8, "Rs"), (0x2100, "a/c"),
   (0x2101, "a/s"), (0x2103, "\xb0C"), (0x2105, "c/o"), (0x2106, "c/u"), (0x2109, "\xb0F"),
   (0x2116, "No"), (0x2120, "SM"), (0x2121, "TEL"), (0x2122, "TM"), (0x213B, "FAX"),
   (0x2150, "1\u20447"), (0x2151, "1\u20449"), (0x2152, "1\u204410"), (0x2153, "1\u20443"),
   (0x2154, "2\u20443"), (0x2155, "1\u20445"), (0x2156, "2\u20445"), (0x2157, "3\u20445"),
   (0x2158, "4\u20445"), (0x2159, "1\u20446"), (0x215A, "5\u20446"), (0x215B, "1\u20448"),
   (0x215C, "3\u20448"), (0x215D, "5\u20448"), (0x215E, "7\u20448"), (0x215F, "1\u2044"),
   (0x2161, "II"), (0x2162, "III"), (0x2163, "IV"), (0x2165, "VI"), (0x2166, "VII"),
   (0x2167, "VIII"), (0x2168, "IX"), (0x216A, "XI"), (0x216B, "XII"), (0x2171, "ii"),
   (0x2172, "iii"), (0x2173, "iv"), (0x2175, "vi"), (0x2176, "vii"), (0x2177, "viii"),
   (0x2178, "ix"), (0x217A, "xi"), (0x217B, "xii"), (0x2189, "0\u20443"), (0x2469, "10"),
   (0x246A, "11"), (0x246B, "12"), (0x246C, "13"), (0x246D, "14"), (0x246E, "15"), (0x246F, "16"),
   (0x2470, "17"), (0x2471, "18"), (0x2472, "19"), (0x2473, "20"), (0x2474, "(1)"),
   (0x2475, "(2)"), (0x2476, "(3)"), (0x2477, "(4)"), (0x2478, "(5)"), (0x2479, "(6)"),
   (0x247A, "(7)"), (0x247B, "(8)"), (0x247C, "(9)"), (0x247D, "(10)"), (0x247E, "(11)"),
   (0x247F, "(12)"), (0x2480, "(13)"), (0x2481, "(14)"), (0x2482, "(15)"), (0x2483, "(16)"),
   (0x2484, "(17)"), (0x2485, "(18)"), (0x2486, "(19)"), (0x2487, "(20)"), (0x2488, "1."),
   (0x2489, "2."), (0x248A, "3."), (0x248B, "4."), (0x248C, "5."), (0x248D, "6."), (0x248E, "7."),
   (0x248F, "8."), (0x2490, "9."), (0x2491, "10."), (0x2492, "11."), (0x2493, "12."),
   (0x2494, "13."), (0x2495, "14."), (0x2496, "15."), (0x2497, "16."), (0x2498, "17."),
   (0x2499, "18."), (0x249A, "19."), (0x249B, "20."), (0x249C, "(a)"), (0x249D, "(b)"),
   (0x249E, "(c)"), (0x249F, "(d)"), (0x24A0, "(e)"), (0x24A1, "(f)"), (0x24A2, "(g)"),
   (0x24A3, "(h)"), (0x24A4, "(i)"), (0x24A5, "(j)"), (0x24A6, "(k)"), (0x24A7, "(l)"),
   (0x24A8, "(m)"), (0x24A9, "(n)"), (0x24AA, "(o)"), (0x24AB, "(p)"), (0x24AC, "(q)"),
   (0x24AD, "(r)"), (0x24AE, "(s)"), (0x24AF, "(t)"), (0x24B0, "(u)"), (0x24B1, "(v)"),
   (0x24B2, "(w)"), (0x24B3, "(x)"), (0x24B4, "(y)"), (0x24B5, "(z)"), (0x2A74, "::="),
   (0x2A75, "=="), (0x2A76, "==="), (0x3200, "(\u1100)"), (0x3201, "(\u1102)"),
   (0x3202, "(\u1103)"), (0x3203, "(\u1105)"), (0x3204, "(\u1106)"), (0x3205, "(\u1107)"),
   (0x3206, "(\u1109)"), (0x3207, "(\u110b)"), (0x3208, "(\u110c)"), (0x3209, "(\u110e)"),
   (0x320A, "(\u110f)"), (0x320B, "(\u1110)"), (0x320C, "(\u1111)"), (0x320D, "(\u1112)"),
   (0x320E, "(\u1100\u1161)"), (0x320F, "(\u1102\u1161)"), (0x3210, "(\u1103\u1161)"),
   (0x3211, "(\u1105\u1161)"), (0x3212, "(\u1106\u1161)"), (0x3213, "(\u1107\u1161)"),
   (0x3214, "(\u1109\u1161)"), (0x3215, "(\u110b\u1161)"), (0x3216, "(\u110c\u1161)"),
   (0x3217, "(\u110e\u1161)"), (0x3218, "(\u110f\u1161)"), (0x3219, "(\u1110\u1161)"),
   (0x321A, "(\u1111\u1161)"), (0x321B, "(\u1112\u1161)"), (0x321C, "(\u110c\u116e)"),
   (0x321D, "(\u110b\u1169\u110c\u1165\u11ab)"), (0x321E, "(\u110b\u1169\u1112\u116e)"),
   (0x3220, "(\u4e00)"), (0x3221, "(\u4e8c)"), (0x3222, "(\u4e09)"), (0x3223, "(\u56db)"),
   (0x3224, "(\u4e94)"), (0x3225, "(\u516d)"), (0x3226, "(\u4e03)"), (0x3227, "(\u516b)"),
   (0x3228, "(\u4e5d)"), (0x3229, "(\u5341)"), (0x322A, "(\u6708)"), (0x322B, "(\u706b)"),
   (0x322C, "(\u6c34)"), (0x322D, "(\u6728)"), (0x322E, "(\u91d1)"), (0x322F, "(\u571f)"),
   (0x3230, "(\u65e5)"), (0x3231, "(\u682a)"), (0x3232, "(\u6709)"), (0x3233, "(\u793e)"),
   (0x3234, "(\u540d)"), (0x3235, "(\u7279)"), (0x3236, "(\u8ca1)"), (0x3237, "(\u795d)"),
   (0x3238, "(\u52b4)"), (0x3239, "(\u4ee3)"), (0x323A, "(\u547c)"), (0x323B, "(\u5b66)"),
   (0x323C, "(\u76e3)"), (0x323D, "(\u4f01)"), (0x323E, "(\u8cc7)"), (0x323F, "(\u5354)"),
   (0x3240, "(\u796d)"), (0x3241, "(\u4f11)"), (0x3242, "(\u81ea)"), (0x3243, "(\u81f3)"),
   (0x3250, "PTE"), (0x3251, "21"), (0x3252, "22"), (0x3253, "23"), (0x3254, "24"), (0x3255, "25"),
   (0x3256, "26"), (0x3257, "27"), (0x3258, "28"), (0x3259, "29"), (0x325A, "30"), (0x325B, "31"),
   (0x325C, "32"), (0x325D, "33"), (0x325E, "34"), (0x325F, "35"), (0x32B1, "36"), (0x32B2, "37"),
   (0x32B3, "38"), (0x32B4, "39"), (0x32B5, "40"), (0x32B6, "41"), (0x32B7, "42"), (0x32B8, "43"),
   (0x32B9, "44"), (0x32BA, "45"), (0x32BB, "46"), (0x32BC, "47"), (0x32BD, "48"), (0x32BE, "49"),
   (0x32BF, "50"), (0x32C0, "1\u6708"), (0x32C1, "2\u6708"), (0x32C2, "3\u6708"),
   (0x32C3, "4\u6708"), (0x32C4, "5\u6708"), (0x32C5, "6\u6708"), (0x32C6, "7\u6708"),
   (0x32C7, "8\u6708"), (0x32C8, "9\u6708"), (0x32C9, "10\u6708"), (0x32CA, "11\u6708"),
   (0x32CB, "12\u6708"), (0x32CC, "Hg"), (0x32CD, "erg"), (0x32CE, "eV"), (0x32CF, "LTD"),
   (0x3358, "0\u70b9"), (0x3359, "1\u70b9"), (0x335A, "2\u70b9"), (0x335B, "3\u70b9"),
   (0x335C, "4\u70b9"), (0x335D, "5\u70b9"), (0x335E, "6\u70b9"), (0x335F, "7\u70b9"),
   (0x3360, "8\u70b9"), (0x3361, "9\u70b9"), (0x3362, "10\u70b9"), (0x3363, "11\u70b9"),
   (0x3364, "12\u70b9"), (0x3365, "13\u70b9"), (0x3366, "14\u70b9"), (0x3367, "15\u70b9"),
   (0x3368, "16\u70b9"), (0x3369, "17\u70b9"), (0x336A, "18\u70b9"), (0x336B, "19\u70b9"),
   (0x336C, "20\u70b9"), (0x336D, "21\u70b9"), (0x336E, "22\u70b9"), (0x336F, "23\u70b9"),
   (0x3370, "24\u70b9"), (0x3371, "hPa"), (0x3372, "da"), (0x3373, "AU"), (0x3374, "bar"),
   (0x3375, "oV"), (0x3376, "pc"), (0x3377, "dm"), (0x3378, "dm2"), (0x3379, "dm3"),
   (0x337A, "IU"), (0x3380, "pA"), (0x3381, "nA"), (0x3382, "\u03bcA"), (0x3383, "mA"),
   (0x3384, "kA"), (0x3385, "KB"), (0x3386, "MB"), (0x3387, "GB"), (0x3388, "cal"),
   (0x3389, "kcal"), (0x338A, "pF"), (0x338B, "nF"), (0x338C, "\u03bcF"), (0x338D, "\u03bcg"),
   (0x338E, "mg"), (0x338F, "kg"), (0x3390, "Hz"), (0x3391, "kHz"), (0x3392, "MHz"),
   (0x3393, "GHz"), (0x3394, "THz"), (0x3395, "\u03bcl"), (0x3396, "ml"), (0x3397, "dl"),
   (0x3398, "kl"), (0x3399, "fm"), (0x339A, "nm"), (0x339B, "\u03bcm"), (0x339C, "mm"),
   (0x339D, "cm"), (0x339E, "km"), (0x339F, "mm2"), (0x33A0, "cm2"), (0x33A1, "m2"),
   (0x33A2, "km2"), (0x33A3, "mm3"), (0x33A4, "cm3"), (0x33A5, "m3"), (0x33A6, "km3"),
   (0x33A7, "m\u2215s"), (0x33A8, "m\u2215s2"), (0x33A9, "Pa"), (0x33AA, "kPa"), (0x33AB, "MPa"),
   (0x33AC, "GPa"), (0x33AD, "rad"), (0x33AE, "rad\u2215s"), (0x33AF, "rad\u2215s2"),
   (0x33B0, "ps"), (0x33B1, "ns"), (0x33B2, "\u03bcs"), (0x33B3, "ms"), (0x33B4, "pV"),
   (0x33B5, "nV"), (0x33B6, "\u03bcV"), (0x33B7, "mV"), (0x33B8, "kV"), (0x33B9, "MV"),
   (0x33BA, "pW"), (0x33BB, "nW"), (0x33BC, "\u03bcW"), (0x33BD, "mW"), (0x33BE, "kW"),
   (0x33BF, "MW"), (0x33C0, "k\u03a9"), (0x33C1, "M\u03a9"), (0x33C2, "a.m."), (0x33C3, "Bq"),
   (0x33C4, "cc"), (0x33C5, "cd"), (0x33C6, "C\u2215kg"), (0x33C7, "Co."), (0x33C8, "dB"),
   (0x33C9, "Gy"), (0x33CA, "ha"), (0x33CB, "HP"), (0x33CC, "in"), (0x33CD, "KK"), (0x33CE, "KM"),
   (0x33CF, "kt"), (0x33D0, "lm"), (0x33D1, "ln"), (0x33D2, "log"), (0x33D3, "lx"), (0x33D4, "mb"),
   (0x33D5, "mil"), (0x33D6, "mol"), (0x33D7, "PH"), (0x33D8, "p.m."), (0x33D9, "PPM"),
   (0x33DA, "PR"), (0x33DB, "sr"), (0x33DC, "Sv"), (0x33DD, "Wb"), (0x33DE, "V\u2215m"),
   (0x33DF, "A\u2215m"), (0x33E0, "1\u65e5"), (0x33E1, "2\u65e5"), (0x33E2, "3\u65e5"),
   (0x33E3, "4\u65e5"), (0x33E4, "5\u65e5"), (0x33E5, "6\u65e5"), (0x33E6, "7\u65e5"),
   (0x33E7, "8\u65e5"), (0x33E8, "9\u65e5"), (0x33E9, "10\u65e5"), (0x33EA, "11\u65e5"),
   (0x33EB, "12\u65e5"), (0x33EC, "13\u65e5"), (0x33ED, "14\u65e5"), (0x33EE, "15\u65e5"),
   (0x33EF, "16\u65e5"), (0x33F0, "17\u65e5"), (0x33F1, "18\u65e5"), (0x33F2, "19\u65e5"),
   (0x33F3, "20\u65e5"), (0x33F4, "21\u65e5"), (0x33F5, "22\u65e5"), (0x33F6, "23\u65e5"),
   (0x33F7, "24\u65e5"), (0x33F8, "25\u65e5"), (0x33F9, "26\u65e5"), (0x33FA, "27\u65e5"),
   (0x33FB, "28\u65e5"), (0x33FC, "29\u65e5"), (0x33FD, "30\u65e5"), (0x33FE, "31\u65e5"),
   (0x33FF, "gal"), (0xFB00, "ff"), (0xFB01, "fi"), (0xFB02, "fl"), (0xFB03, "ffi"),
   (0xFB04, "ffl"), (0xFB05, "st"), (0xFB06, "st"),
   (0xFDFA, "\u0635\u0644\u0649 \u0627\u0644\u0644\u0647 " ++
      "\u0639\u0644\u064a\u0647 \u0648\u0633\u0644\u0645"),
   (0xFDFB, "\u062c\u0644 \u062c\u0644\u0627\u0644\u0647"), (0xFE19, "..."), (0xFE30, ".."),
   (0xFF9E, ""), (0xFF9F, ""), (0x1F100, "0."), (0x1F101, "0,"), (0x1F102, "1,"), (0x1F103, "2,"),
   (0x1F104, "3,"), (0x1F105, "4,"), (0x1F106, "5,"), (0x1F107, "6,"), (0x1F108, "7,"),
   (0x1F109, "8,"), (0x1F10A, "9,"), (0x1F110, "(A)"), (0x1F111, "(B)"), (0x1F112, "(C)"),
   (0x1F113, "(D)"), (0x1F114, "(E)"), (0x1F115, "(F)"), (0x1F116, "(G)"), (0x1F117, "(H)"),
   (0x1F118, "(I)"), (0x1F119, "(J)"), (0x1F11A, "(K)"), (0x1F11B, "(L)"), (0x1F11C, "(M)"),
   (0x1F11D, "(N)"), (0x1F11E, "(O)"), (0x1F11F, "(P)"), (0x1F120, "(Q)"), (0x1F121, "(R)"),
   (0x1F122, "(S)"), (0x1F123, "(T)"), (0x1F124, "(U)"), (0x1F125, "(V)"), (0x1F126, "(W)"),
   (0x1F127, "(X)"), (0x1F128, "(Y)"), (0x1F129, "(Z)"), (0x1F12A, "\u3014S\u3015"),
   (0x1F12D, "CD"), (0x1F12E, "WZ"), (0x1F14A, "HV"), (0x1F14B, "MV"), (0x1F14C, "SD"),
   (0x1F14D, "SS"), (0x1F14E, "PPV"), (0x1F14F, "WC"), (0x1F16A, "MC"), (0x1F16B, "MD"),
   (0x1F16C, "MR"), (0x1F190, "DJ")]

/-- The character without its marks, as a sequence of simpler characters. -/
def baseForm (char : Char) : List Char :=
  let code := char.toNat
  if code < 128 then [char]
  else if inRanges combiningMarks code then []
  else
    match baseRuns.find? fun run => decide (run.1 ≤ code ∧ code ≤ run.2.1) with
    | some (first, _, base, step) => [Char.ofNat (base + step * (code - first))]
    | none =>
        match baseSequences.find? fun entry => decide (entry.1 = code) with
        | some (_, sequence) => sequence.toList
        | none => [char]

/-- The base form of a text, character by character. -/
def baseText (text : String) : List Char :=
  text.toList.flatMap baseForm

/-- ASCII characters stand for themselves. -/
theorem baseForm_of_ascii {char : Char} (ascii : char.toNat < 128) : baseForm char = [char] := by
  simp [baseForm, ascii]

/-- ASCII text is its own base form. -/
theorem baseText_of_ascii {text : String} (ascii : ∀ char ∈ text.toList, char.toNat < 128) :
    baseText text = text.toList := by
  unfold baseText
  generalize text.toList = chars at ascii ⊢
  induction chars with
  | nil => rfl
  | cons char rest ih =>
      rw [List.flatMap_cons, baseForm_of_ascii (ascii char (by simp)),
        ih fun other member => ascii other (by simp [member])]
      rfl

end ApiScaffold.Text
