import FlowBuilder.Text.CodeRange

/-!
# Directions

The direction in which the letters of a script run. Digits, marks and signs have none of their own.
The tables follow version 3.2 of the character database.
-/

namespace FlowBuilder.Text

/-- The code points that run from right to left, as closed ranges in ascending order. -/
def rightToLeftRanges : List CodeRange := [
  (0x5BE, 0x5BE), (0x5C0, 0x5C0), (0x5C3, 0x5C3), (0x5D0, 0x5EA), (0x5F0, 0x5F4), (0x61B, 0x61B),
  (0x61F, 0x61F), (0x621, 0x63A), (0x640, 0x64A), (0x66D, 0x66F), (0x671, 0x6D5), (0x6DD, 0x6DD),
  (0x6E5, 0x6E6), (0x6FA, 0x6FE), (0x700, 0x70D), (0x710, 0x710), (0x712, 0x72C), (0x780, 0x7A5),
  (0x7B1, 0x7B1), (0x200F, 0x200F), (0xFB1D, 0xFB1D), (0xFB1F, 0xFB28), (0xFB2A, 0xFB36),
  (0xFB38, 0xFB3C), (0xFB3E, 0xFB3E), (0xFB40, 0xFB41), (0xFB43, 0xFB44), (0xFB46, 0xFBB1),
  (0xFBD3, 0xFD3D), (0xFD50, 0xFD8F), (0xFD92, 0xFDC7), (0xFDF0, 0xFDFC), (0xFE70, 0xFE74),
  (0xFE76, 0xFEFC)]

/-- The code points that run from left to right, as closed ranges in ascending order. -/
def leftToRightRanges : List CodeRange := [
  (0x41, 0x5A), (0x61, 0x7A), (0xAA, 0xAA), (0xB5, 0xB5), (0xBA, 0xBA), (0xC0, 0xD6), (0xD8, 0xF6),
  (0xF8, 0x2B8), (0x2BB, 0x2C1), (0x2D0, 0x2D1), (0x2E0, 0x2E4), (0x2EE, 0x2EE), (0x37A, 0x37A),
  (0x386, 0x386), (0x388, 0x3F5), (0x400, 0x482), (0x48A, 0x589), (0x903, 0x939), (0x93D, 0x940),
  (0x949, 0x94C), (0x950, 0x950), (0x958, 0x961), (0x964, 0x970), (0x982, 0x9B9), (0x9BE, 0x9C0),
  (0x9C7, 0x9CC), (0x9D7, 0x9E1), (0x9E6, 0x9F1), (0x9F4, 0x9FA), (0xA05, 0xA39), (0xA3E, 0xA40),
  (0xA59, 0xA6F), (0xA72, 0xA74), (0xA83, 0xAB9), (0xABD, 0xAC0), (0xAC9, 0xACC), (0xAD0, 0xAEF),
  (0xB02, 0xB39), (0xB3D, 0xB3E), (0xB40, 0xB40), (0xB47, 0xB4C), (0xB57, 0xB70), (0xB83, 0xBBF),
  (0xBC1, 0xBCC), (0xBD7, 0xC39), (0xC41, 0xC44), (0xC60, 0xCBE), (0xCC0, 0xCC4), (0xCC7, 0xCCB),
  (0xCD5, 0xD40), (0xD46, 0xD4C), (0xD57, 0xDC6), (0xDCF, 0xDD1), (0xDD8, 0xE30), (0xE32, 0xE33),
  (0xE40, 0xE46), (0xE4F, 0xEB0), (0xEB2, 0xEB3), (0xEBD, 0xEC6), (0xED0, 0xF17), (0xF1A, 0xF34),
  (0xF36, 0xF36), (0xF38, 0xF38), (0xF3E, 0xF6A), (0xF7F, 0xF7F), (0xF85, 0xF85), (0xF88, 0xF8B),
  (0xFBE, 0xFC5), (0xFC7, 0x102C), (0x1031, 0x1031), (0x1038, 0x1038), (0x1040, 0x1057),
  (0x10A0, 0x1676), (0x1681, 0x169A), (0x16A0, 0x1711), (0x1720, 0x1731), (0x1735, 0x1751),
  (0x1760, 0x1770), (0x1780, 0x17B6), (0x17BE, 0x17C5), (0x17C7, 0x17C8), (0x17D4, 0x17DA),
  (0x17DC, 0x17E9), (0x1810, 0x18A8), (0x1E00, 0x1FBC), (0x1FBE, 0x1FBE), (0x1FC2, 0x1FCC),
  (0x1FD0, 0x1FDB), (0x1FE0, 0x1FEC), (0x1FF2, 0x1FFC), (0x200E, 0x200E), (0x2071, 0x2071),
  (0x207F, 0x207F), (0x2102, 0x2102), (0x2107, 0x2107), (0x210A, 0x2113), (0x2115, 0x2115),
  (0x2119, 0x211D), (0x2124, 0x2124), (0x2126, 0x2126), (0x2128, 0x2128), (0x212A, 0x212D),
  (0x212F, 0x2131), (0x2133, 0x2139), (0x213D, 0x213F), (0x2145, 0x2149), (0x2160, 0x2183),
  (0x2336, 0x237A), (0x2395, 0x2395), (0x249C, 0x24E9), (0x3005, 0x3007), (0x3021, 0x3029),
  (0x3031, 0x3035), (0x3038, 0x303C), (0x3041, 0x3096), (0x309D, 0x309F), (0x30A1, 0x30FA),
  (0x30FC, 0x3243), (0x3260, 0x32B0), (0x32C0, 0xA48C), (0xAC00, 0xFB17), (0xFF21, 0xFF3A),
  (0xFF41, 0xFF5A), (0xFF66, 0xFFDC), (0x10300, 0x1D166), (0x1D16A, 0x1D172), (0x1D183, 0x1D184),
  (0x1D18C, 0x1D1A9), (0x1D1AE, 0x1D7C9), (0x20000, 0x2FA1D), (0xF0000, 0x10FFFD)]

/-- Whether a character runs from right to left. -/
def isRightToLeft : Char → Bool :=
  isWithin rightToLeftRanges

/-- Whether a character runs from left to right. -/
def isLeftToRight : Char → Bool :=
  isWithin leftToRightRanges

end FlowBuilder.Text
