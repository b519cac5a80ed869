import Sidecheck.Text.Mark
/-!
# Directions of writing

What a character does to the direction of the text around it: Unicode's bidirectional classes.
Blanks and controls count as neutral, and unassigned characters are not told apart.
-/

namespace Sidecheck.Text

/-- What a character does to the direction of a text. -/
inductive Direction
  | leftToRight
  /-- A letter of a script that is written from right to left. -/
  | rightToLeft
  /-- A letter of Arabic or a script like it. -/
  | arabicLetter
  | arabicNumber
  | europeanNumber
  /-- A sign between numbers. -/
  | separator
  /-- A sign in front of numbers or behind them. -/
  | terminator
  | commonSeparator
  | neutral
  /-- A character that is not shown. -/
  | boundary
  /-- A mark, which goes with what it stands on. -/
  | mark
deriving DecidableEq, Repr

/-- The marks that count as letters. -/
def letterMarks : List Nat := [0xCBF, 0xCC6, 0x11A07, 0x11A08, 0x11C3F]

/-- The characters of each direction, marks aside; all others go from left to right. -/
def directionRanges : List (Direction × Array Range) := [
  (.rightToLeft, readRanges "
  5BE-5F4 7C0-7F5 7FA-85E 200F FB1D-FB28 FB2A-FB4F 10800-1091B 10920-10B35 10B40-10CFF 10D40-10D65
  10D6F-10D8F 10E80-10EB1 10F00-10F27 10F70-10FF6 1E800-1E95F"),
  (.arabicLetter, readRanges "
  608 60B 60D 61B-64A 66D-6D5 6E5-6E6 6EE-6EF 6FA-7B1 860-88F 8A0-8C9 FB50-FBC2 FBD3-FD3D
  FD50-FD8F FD92-FDC7 FDF0-FDFC FE70-FEFC 10D00-10D23 10EC2-10EC7 10F30-10F59 1EC71-1EEBB"),
  (.arabicNumber, readRanges "
  600-605 660-669 66B-66C 6DD 890-891 8E2 10D30-10D39 10E60-10E7E"),
  (.europeanNumber, readRanges "
  30-39 B2-B3 B9 6F0-6F9 2070 2074-2079 2080-2089 2488-249B FF10-FF19 102E1-102FB 1CCF0-1CCF9
  1D7CE-1D7FF 1F100-1F10A 1FBF0-1FBF9"),
  (.separator, readRanges "
  2B 2D 207A-207B 208A-208B 2212 FB29 FE62-FE63 FF0B FF0D"),
  (.terminator, readRanges "
  23-25 A2-A5 B0-B1 58F 609-60A 66A 9F2-9F3 9FB AF1 BF9 E3F 17DB 2030-2034 20A0-20C1 212E 2213
  A838-A839 FE5F FE69-FE6A FF03-FF05 FFE0-FFE1 FFE5-FFE6 11FDD-11FE0 1E2FF"),
  (.commonSeparator, readRanges "
  2C 2E-2F 3A A0 60C 202F 2044 FE50 FE52 FE55 FF0C FF0E-FF0F FF1A"),
  (.neutral, readRanges "
  9-D 1C-22 26-2A 3B-40 5B-60 7B-7E 85 A1 A6-A9 AB-AC AE-AF B4 B6-B8 BB-BF D7 F7 2B9-2BA 2C2-2CF
  2D2-2DF 2E5-2ED 2EF-2FF 374-375 37E 384-385 387 3F6 58A-58E 606-607 60E-60F 6DE 6E9 7F6-7F9
  BF3-BF8 BFA C78-C7E F3A-F3D 1390-1399 1400 1680 169B-169C 17F0-180A 1940-1945 19DE-19FF 1FBD
  1FBF-1FC1 1FCD-1FCF 1FDD-1FDF 1FED-1FEF 1FFD-200A 2010-202E 2035-2043 2045-205F 2066-2069
  207C-207E 208C-208E 2100-2101 2103-2106 2108-2109 2114 2116-2118 211E-2123 2125 2127 2129
  213A-213B 2140-2144 214A-214D 2150-215F 2189-2211 2214-2335 237B-2394 2396-2487 24EA-26AB
  26AD-27FF 2900-2BFF 2CE5-2CEA 2CF9-2CFF 2E00-3004 3008-3020 3030 3036-3037 303D-303F 309B-309C
  30A0 30FB 31C0-31EF 321D-321E 3250-325F 327C-327E 32B1-32BF 32CC-32CF 3377-337A 33DE-33DF 33FF
  4DC0-4DFF A490-A4C6 A60D-A60F A673-A67F A700-A721 A788 A828-A82B A874-A877 AB6A-AB6B FBC3-FBD2
  FD3E-FD4F FD90-FD91 FDC8-FDCF FDFD-FE4F FE51 FE54 FE56-FE5E FE60-FE61 FE64-FE68 FE6B FF01-FF02
  FF06-FF0A FF1B-FF20 FF3B-FF40 FF5B-FF65 FFE2-FFE4 FFE8-FFFD 10101 10140-1018C 10190-101A0 1091F
  10B39-10B3F 10D6E 10ED0-10ED8 11052-11065 11660-1166C 11FD5-11FDC 11FE1-11FF1 16FE2 1CC00-1CCEF
  1CCFA-1CEF0 1D1E9-1D245 1D300-1D356 1D6DB 1D715 1D74F 1D789 1D7C3 1EEF0-1F0F5 1F10B-1F10F 1F12F
  1F16A-1F16F 1F1AD 1F260-1FBEF 1FBFA"),
  (.boundary, readRanges "
  0-8 E-1B 7F-84 86-9F AD 180E 200B-200D 2060-2064 206A-206F FEFF 1BCA0-1BCA3 1D173-1D17A
  E0001-E007F")]

/-- The direction of a character. -/
def direction (c : Char) : Direction :=
  if isNonspacingMark c && !letterMarks.contains c.toNat then .mark
  else ((directionRanges.find? fun (_, ranges) => isIn ranges c).map (·.1)).getD .leftToRight

end Sidecheck.Text
