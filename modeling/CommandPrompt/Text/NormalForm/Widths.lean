import CommandPrompt.Text.NormalForm.Row

/-!
# Small, half-width and full-width forms

Compatibility decompositions of Unicode 14 from U+FE10 to U+FFEE.
-/

namespace CommandPrompt.Text.NormalForm.Widths

/-- Rows of the table, ordered by code point. -/
def partA : List Row := [
    (0xFE10, 0xFE10, [0x002C]), (0xFE11, 0xFE12, [0x3001]), (0xFE13, 0xFE14, [0x003A]),
    (0xFE15, 0xFE15, [0x0021]), (0xFE16, 0xFE16, [0x003F]), (0xFE17, 0xFE18, [0x3016]),
    (0xFE19, 0xFE19, [0x002E, 0x002E, 0x002E]), (0xFE30, 0xFE30, [0x002E, 0x002E]),
    (0xFE31, 0xFE31, [0x2014]), (0xFE32, 0xFE32, [0x2013]), (0xFE33, 0xFE33, [0x005F]),
    (0xFE34, 0xFE34, [0x005F]), (0xFE35, 0xFE36, [0x0028]), (0xFE37, 0xFE37, [0x007B]),
    (0xFE38, 0xFE38, [0x007D]), (0xFE39, 0xFE3A, [0x3014]), (0xFE3B, 0xFE3C, [0x3010]),
    (0xFE3D, 0xFE3E, [0x300A]), (0xFE3F, 0xFE40, [0x3008]), (0xFE41, 0xFE44, [0x300C]),
    (0xFE47, 0xFE47, [0x005B]), (0xFE48, 0xFE48, [0x005D]), (0xFE49, 0xFE49, [0x0020, 0x0305]),
    (0xFE4A, 0xFE4A, [0x0020, 0x0305]), (0xFE4B, 0xFE4B, [0x0020, 0x0305]),
    (0xFE4C, 0xFE4C, [0x0020, 0x0305]), (0xFE4D, 0xFE4D, [0x005F]), (0xFE4E, 0xFE4E, [0x005F]),
    (0xFE4F, 0xFE4F, [0x005F]), (0xFE50, 0xFE50, [0x002C]), (0xFE51, 0xFE51, [0x3001]),
    (0xFE52, 0xFE52, [0x002E]), (0xFE54, 0xFE54, [0x003B]), (0xFE55, 0xFE55, [0x003A]),
    (0xFE56, 0xFE56, [0x003F]), (0xFE57, 0xFE57, [0x0021]), (0xFE58, 0xFE58, [0x2014]),
    (0xFE59, 0xFE5A, [0x0028]), (0xFE5B, 0xFE5B, [0x007B]), (0xFE5C, 0xFE5C, [0x007D]),
    (0xFE5D, 0xFE5E, [0x3014]), (0xFE5F, 0xFE5F, [0x0023]), (0xFE60, 0xFE60, [0x0026]),
    (0xFE61, 0xFE62, [0x002A]), (0xFE63, 0xFE63, [0x002D]), (0xFE64, 0xFE64, [0x003C]),
    (0xFE65, 0xFE65, [0x003E]), (0xFE66, 0xFE66, [0x003D]), (0xFE68, 0xFE68, [0x005C]),
    (0xFE69, 0xFE6A, [0x0024]), (0xFE6B, 0xFE6B, [0x0040]), (0xFE70, 0xFE70, [0x0020, 0x064B]),
    (0xFE71, 0xFE71, [0x0640, 0x064B]), (0xFE72, 0xFE72, [0x0020, 0x064C]),
    (0xFE74, 0xFE74, [0x0020, 0x064D]), (0xFE76, 0xFE76, [0x0020, 0x064E]),
    (0xFE77, 0xFE77, [0x0640, 0x064E]), (0xFE78, 0xFE78, [0x0020, 0x064F]),
    (0xFE79, 0xFE79, [0x0640, 0x064F]), (0xFE7A, 0xFE7A, [0x0020, 0x0650]),
    (0xFE7B, 0xFE7B, [0x0640, 0x0650]), (0xFE7C, 0xFE7C, [0x0020, 0x0651]),
    (0xFE7D, 0xFE7D, [0x0640, 0x0651]), (0xFE7E, 0xFE7E, [0x0020, 0x0652]),
    (0xFE7F, 0xFE7F, [0x0640, 0x0652]), (0xFE80, 0xFE80, [0x0621]),
    (0xFE81, 0xFE81, [0x0627, 0x0653]), (0xFE82, 0xFE83, [0x0627, 0x0653]),
    (0xFE84, 0xFE84, [0x0627, 0x0654]), (0xFE85, 0xFE85, [0x0648, 0x0654]),
    (0xFE86, 0xFE86, [0x0648, 0x0654]), (0xFE87, 0xFE87, [0x0627, 0x0655]),
    (0xFE88, 0xFE88, [0x0627, 0x0655]), (0xFE89, 0xFE89, [0x064A, 0x0654]),
    (0xFE8A, 0xFE8A, [0x064A, 0x0654]), (0xFE8B, 0xFE8B, [0x064A, 0x0654]),
    (0xFE8C, 0xFE8C, [0x064A, 0x0654]), (0xFE8D, 0xFE8D, [0x0627]), (0xFE8E, 0xFE8F, [0x0627]),
    (0xFE90, 0xFE90, [0x0628]), (0xFE91, 0xFE91, [0x0628]), (0xFE92, 0xFE93, [0x0628]),
    (0xFE94, 0xFE95, [0x0629]), (0xFE96, 0xFE96, [0x062A]), (0xFE97, 0xFE97, [0x062A]),
    (0xFE98, 0xFE99, [0x062A]), (0xFE9A, 0xFE9A, [0x062B]), (0xFE9B, 0xFE9B, [0x062B]),
    (0xFE9C, 0xFE9D, [0x062B]), (0xFE9E, 0xFE9E, [0x062C]), (0xFE9F, 0xFE9F, [0x062C]),
    (0xFEA0, 0xFEA1, [0x062C]), (0xFEA2, 0xFEA2, [0x062D]), (0xFEA3, 0xFEA3, [0x062D]),
    (0xFEA4, 0xFEA5, [0x062D]), (0xFEA6, 0xFEA6, [0x062E]), (0xFEA7, 0xFEA7, [0x062E]),
    (0xFEA8, 0xFEA9, [0x062E]), (0xFEAA, 0xFEAB, [0x062F]), (0xFEAC, 0xFEAD, [0x0630])]

/-- Rows of the table, ordered by code point. -/
def partB : List Row := [
    (0xFEAE, 0xFEAF, [0x0631]), (0xFEB0, 0xFEB1, [0x0632]), (0xFEB2, 0xFEB2, [0x0633]),
    (0xFEB3, 0xFEB3, [0x0633]), (0xFEB4, 0xFEB5, [0x0633]), (0xFEB6, 0xFEB6, [0x0634]),
    (0xFEB7, 0xFEB7, [0x0634]), (0xFEB8, 0xFEB9, [0x0634]), (0xFEBA, 0xFEBA, [0x0635]),
    (0xFEBB, 0xFEBB, [0x0635]), (0xFEBC, 0xFEBD, [0x0635]), (0xFEBE, 0xFEBE, [0x0636]),
    (0xFEBF, 0xFEBF, [0x0636]), (0xFEC0, 0xFEC1, [0x0636]), (0xFEC2, 0xFEC2, [0x0637]),
    (0xFEC3, 0xFEC3, [0x0637]), (0xFEC4, 0xFEC5, [0x0637]), (0xFEC6, 0xFEC6, [0x0638]),
    (0xFEC7, 0xFEC7, [0x0638]), (0xFEC8, 0xFEC9, [0x0638]), (0xFECA, 0xFECA, [0x0639]),
    (0xFECB, 0xFECB, [0x0639]), (0xFECC, 0xFECD, [0x0639]), (0xFECE, 0xFECE, [0x063A]),
    (0xFECF, 0xFECF, [0x063A]), (0xFED0, 0xFED0, [0x063A]), (0xFED1, 0xFED1, [0x0641]),
    (0xFED2, 0xFED2, [0x0641]), (0xFED3, 0xFED3, [0x0641]), (0xFED4, 0xFED5, [0x0641]),
    (0xFED6, 0xFED6, [0x0642]), (0xFED7, 0xFED7, [0x0642]), (0xFED8, 0xFED9, [0x0642]),
    (0xFEDA, 0xFEDA, [0x0643]), (0xFEDB, 0xFEDB, [0x0643]), (0xFEDC, 0xFEDD, [0x0643]),
    (0xFEDE, 0xFEDE, [0x0644]), (0xFEDF, 0xFEDF, [0x0644]), (0xFEE0, 0xFEE1, [0x0644]),
    (0xFEE2, 0xFEE2, [0x0645]), (0xFEE3, 0xFEE3, [0x0645]), (0xFEE4, 0xFEE5, [0x0645]),
    (0xFEE6, 0xFEE6, [0x0646]), (0xFEE7, 0xFEE7, [0x0646]), (0xFEE8, 0xFEE9, [0x0646]),
    (0xFEEA, 0xFEEA, [0x0647]), (0xFEEB, 0xFEEB, [0x0647]), (0xFEEC, 0xFEED, [0x0647]),
    (0xFEEE, 0xFEEF, [0x0648]), (0xFEF0, 0xFEF1, [0x0649]), (0xFEF2, 0xFEF2, [0x064A]),
    (0xFEF3, 0xFEF3, [0x064A]), (0xFEF4, 0xFEF4, [0x064A]),
    (0xFEF5, 0xFEF5, [0x0644, 0x0627, 0x0653]), (0xFEF6, 0xFEF7, [0x0644, 0x0627, 0x0653]),
    (0xFEF8, 0xFEF9, [0x0644, 0x0627, 0x0654]), (0xFEFA, 0xFEFA, [0x0644, 0x0627, 0x0655]),
    (0xFEFB, 0xFEFB, [0x0644, 0x0627]), (0xFEFC, 0xFEFC, [0x0644, 0x0627]),
    (0xFF01, 0xFF5E, [0x0021]), (0xFF5F, 0xFF60, [0x2985]), (0xFF61, 0xFF61, [0x3002]),
    (0xFF62, 0xFF63, [0x300C]), (0xFF64, 0xFF64, [0x3001]), (0xFF65, 0xFF65, [0x30FB]),
    (0xFF66, 0xFF66, [0x30F2]), (0xFF67, 0xFF67, [0x30A1]), (0xFF68, 0xFF68, [0x30A3]),
    (0xFF69, 0xFF69, [0x30A5]), (0xFF6A, 0xFF6A, [0x30A7]), (0xFF6B, 0xFF6B, [0x30A9]),
    (0xFF6C, 0xFF6C, [0x30E3]), (0xFF6D, 0xFF6D, [0x30E5]), (0xFF6E, 0xFF6E, [0x30E7]),
    (0xFF6F, 0xFF6F, [0x30C3]), (0xFF70, 0xFF70, [0x30FC]), (0xFF71, 0xFF71, [0x30A2]),
    (0xFF72, 0xFF72, [0x30A4]), (0xFF73, 0xFF73, [0x30A6]), (0xFF74, 0xFF74, [0x30A8]),
    (0xFF75, 0xFF76, [0x30AA]), (0xFF77, 0xFF77, [0x30AD]), (0xFF78, 0xFF78, [0x30AF]),
    (0xFF79, 0xFF79, [0x30B1]), (0xFF7A, 0xFF7A, [0x30B3]), (0xFF7B, 0xFF7B, [0x30B5]),
    (0xFF7C, 0xFF7C, [0x30B7]), (0xFF7D, 0xFF7D, [0x30B9]), (0xFF7E, 0xFF7E, [0x30BB]),
    (0xFF7F, 0xFF7F, [0x30BD]), (0xFF80, 0xFF80, [0x30BF]), (0xFF81, 0xFF81, [0x30C1]),
    (0xFF82, 0xFF82, [0x30C4]), (0xFF83, 0xFF83, [0x30C6]), (0xFF84, 0xFF84, [0x30C8]),
    (0xFF85, 0xFF8A, [0x30CA]), (0xFF8B, 0xFF8B, [0x30D2]), (0xFF8C, 0xFF8C, [0x30D5]),
    (0xFF8D, 0xFF8D, [0x30D8]), (0xFF8E, 0xFF8E, [0x30DB])]

/-- Rows of the table, ordered by code point. -/
def partC : List Row := [
    (0xFF8F, 0xFF93, [0x30DE]), (0xFF94, 0xFF94, [0x30E4]), (0xFF95, 0xFF95, [0x30E6]),
    (0xFF96, 0xFF9B, [0x30E8]), (0xFF9C, 0xFF9C, [0x30EF]), (0xFF9D, 0xFF9D, [0x30F3]),
    (0xFF9E, 0xFF9F, [0x3099]), (0xFFA0, 0xFFA0, [0x1160]), (0xFFA1, 0xFFA2, [0x1100]),
    (0xFFA3, 0xFFA3, [0x11AA]), (0xFFA4, 0xFFA4, [0x1102]), (0xFFA5, 0xFFA6, [0x11AC]),
    (0xFFA7, 0xFFA9, [0x1103]), (0xFFAA, 0xFFAF, [0x11B0]), (0xFFB0, 0xFFB0, [0x111A]),
    (0xFFB1, 0xFFB3, [0x1106]), (0xFFB4, 0xFFB4, [0x1121]), (0xFFB5, 0xFFBE, [0x1109]),
    (0xFFC2, 0xFFC7, [0x1161]), (0xFFCA, 0xFFCF, [0x1167]), (0xFFD2, 0xFFD7, [0x116D]),
    (0xFFDA, 0xFFDC, [0x1173]), (0xFFE0, 0xFFE1, [0x00A2]), (0xFFE2, 0xFFE2, [0x00AC]),
    (0xFFE3, 0xFFE3, [0x0020, 0x0304]), (0xFFE4, 0xFFE4, [0x00A6]), (0xFFE5, 0xFFE5, [0x00A5]),
    (0xFFE6, 0xFFE6, [0x20A9]), (0xFFE8, 0xFFE8, [0x2502]), (0xFFE9, 0xFFEC, [0x2190]),
    (0xFFED, 0xFFED, [0x25A0]), (0xFFEE, 0xFFEE, [0x25CB])]

/-- All rows of this part of the code space. -/
def rows : List Row :=
  partA ++ partB ++ partC

end CommandPrompt.Text.NormalForm.Widths
