import CommandPrompt.Text.NormalForm.Row

/-!
# Letters of other scripts

Compatibility decompositions of Unicode 14 from U+0400 to U+1DBF.
-/

namespace CommandPrompt.Text.NormalForm.Scripts

/-- Rows of the table, ordered by code point. -/
def partA : List Row := [
    (0x0400, 0x0400, [0x0415, 0x0300]), (0x0401, 0x0401, [0x0415, 0x0308]),
    (0x0403, 0x0403, [0x0413, 0x0301]), (0x0407, 0x0407, [0x0406, 0x0308]),
    (0x040C, 0x040C, [0x041A, 0x0301]), (0x040D, 0x040D, [0x0418, 0x0300]),
    (0x040E, 0x040E, [0x0423, 0x0306]), (0x0419, 0x0419, [0x0418, 0x0306]),
    (0x0439, 0x0439, [0x0438, 0x0306]), (0x0450, 0x0450, [0x0435, 0x0300]),
    (0x0451, 0x0451, [0x0435, 0x0308]), (0x0453, 0x0453, [0x0433, 0x0301]),
    (0x0457, 0x0457, [0x0456, 0x0308]), (0x045C, 0x045C, [0x043A, 0x0301]),
    (0x045D, 0x045D, [0x0438, 0x0300]), (0x045E, 0x045E, [0x0443, 0x0306]),
    (0x0476, 0x0476, [0x0474, 0x030F]), (0x0477, 0x0477, [0x0475, 0x030F]),
    (0x04C1, 0x04C1, [0x0416, 0x0306]), (0x04C2, 0x04C2, [0x0436, 0x0306]),
    (0x04D0, 0x04D0, [0x0410, 0x0306]), (0x04D1, 0x04D1, [0x0430, 0x0306]),
    (0x04D2, 0x04D2, [0x0410, 0x0308]), (0x04D3, 0x04D3, [0x0430, 0x0308]),
    (0x04D6, 0x04D6, [0x0415, 0x0306]), (0x04D7, 0x04D7, [0x0435, 0x0306]),
    (0x04DA, 0x04DA, [0x04D8, 0x0308]), (0x04DB, 0x04DB, [0x04D9, 0x0308]),
    (0x04DC, 0x04DC, [0x0416, 0x0308]), (0x04DD, 0x04DD, [0x0436, 0x0308]),
    (0x04DE, 0x04DE, [0x0417, 0x0308]), (0x04DF, 0x04DF, [0x0437, 0x0308]),
    (0x04E2, 0x04E2, [0x0418, 0x0304]), (0x04E3, 0x04E3, [0x0438, 0x0304]),
    (0x04E4, 0x04E4, [0x0418, 0x0308]), (0x04E5, 0x04E5, [0x0438, 0x0308]),
    (0x04E6, 0x04E6, [0x041E, 0x0308]), (0x04E7, 0x04E7, [0x043E, 0x0308]),
    (0x04EA, 0x04EA, [0x04E8, 0x0308]), (0x04EB, 0x04EB, [0x04E9, 0x0308]),
    (0x04EC, 0x04EC, [0x042D, 0x0308]), (0x04ED, 0x04ED, [0x044D, 0x0308]),
    (0x04EE, 0x04EE, [0x0423, 0x0304]), (0x04EF, 0x04EF, [0x0443, 0x0304]),
    (0x04F0, 0x04F0, [0x0423, 0x0308]), (0x04F1, 0x04F1, [0x0443, 0x0308]),
    (0x04F2, 0x04F2, [0x0423, 0x030B]), (0x04F3, 0x04F3, [0x0443, 0x030B]),
    (0x04F4, 0x04F4, [0x0427, 0x0308]), (0x04F5, 0x04F5, [0x0447, 0x0308]),
    (0x04F8, 0x04F8, [0x042B, 0x0308]), (0x04F9, 0x04F9, [0x044B, 0x0308]),
    (0x0587, 0x0587, [0x0565, 0x0582]), (0x0622, 0x0623, [0x0627, 0x0653]),
    (0x0624, 0x0624, [0x0648, 0x0654]), (0x0625, 0x0625, [0x0627, 0x0655]),
    (0x0626, 0x0626, [0x064A, 0x0654]), (0x0675, 0x0675, [0x0627, 0x0674]),
    (0x0676, 0x0676, [0x0648, 0x0674]), (0x0677, 0x0677, [0x06C7, 0x0674]),
    (0x0678, 0x0678, [0x064A, 0x0674]), (0x06C0, 0x06C0, [0x06D5, 0x0654]),
    (0x06C2, 0x06C2, [0x06C1, 0x0654]), (0x06D3, 0x06D3, [0x06D2, 0x0654]),
    (0x0929, 0x0929, [0x0928, 0x093C]), (0x0931, 0x0931, [0x0930, 0x093C]),
    (0x0934, 0x0934, [0x0933, 0x093C]), (0x0958, 0x0958, [0x0915, 0x093C]),
    (0x0959, 0x0959, [0x0916, 0x093C]), (0x095A, 0x095A, [0x0917, 0x093C]),
    (0x095B, 0x095B, [0x091C, 0x093C]), (0x095C, 0x095C, [0x0921, 0x093C]),
    (0x095D, 0x095D, [0x0922, 0x093C]), (0x095E, 0x095E, [0x092B, 0x093C]),
    (0x095F, 0x095F, [0x092F, 0x093C]), (0x09CB, 0x09CB, [0x09C7, 0x09BE]),
    (0x09CC, 0x09CC, [0x09C7, 0x09D7]), (0x09DC, 0x09DC, [0x09A1, 0x09BC]),
    (0x09DD, 0x09DD, [0x09A2, 0x09BC]), (0x09DF, 0x09DF, [0x09AF, 0x09BC]),
    (0x0A33, 0x0A33, [0x0A32, 0x0A3C]), (0x0A36, 0x0A36, [0x0A38, 0x0A3C]),
    (0x0A59, 0x0A59, [0x0A16, 0x0A3C]), (0x0A5A, 0x0A5A, [0x0A17, 0x0A3C]),
    (0x0A5B, 0x0A5B, [0x0A1C, 0x0A3C]), (0x0A5E, 0x0A5E, [0x0A2B, 0x0A3C]),
    (0x0B48, 0x0B48, [0x0B47, 0x0B56]), (0x0B4B, 0x0B4B, [0x0B47, 0x0B3E]),
    (0x0B4C, 0x0B4C, [0x0B47, 0x0B57]), (0x0B5C, 0x0B5C, [0x0B21, 0x0B3C]),
    (0x0B5D, 0x0B5D, [0x0B22, 0x0B3C]), (0x0B94, 0x0B94, [0x0B92, 0x0BD7]),
    (0x0BCA, 0x0BCA, [0x0BC6, 0x0BBE]), (0x0BCB, 0x0BCB, [0x0BC7, 0x0BBE]),
    (0x0BCC, 0x0BCC, [0x0BC6, 0x0BD7]), (0x0C48, 0x0C48, [0x0C46, 0x0C56]),
    (0x0CC0, 0x0CC0, [0x0CBF, 0x0CD5]), (0x0CC7, 0x0CC8, [0x0CC6, 0x0CD5]),
    (0x0CCA, 0x0CCA, [0x0CC6, 0x0CC2]), (0x0CCB, 0x0CCB, [0x0CC6, 0x0CC2, 0x0CD5])]

/-- Rows of the table, ordered by code point. -/
def partB : List Row := [
    (0x0D4A, 0x0D4A, [0x0D46, 0x0D3E]), (0x0D4B, 0x0D4B, [0x0D47, 0x0D3E]),
    (0x0D4C, 0x0D4C, [0x0D46, 0x0D57]), (0x0DDA, 0x0DDA, [0x0DD9, 0x0DCA]),
    (0x0DDC, 0x0DDC, [0x0DD9, 0x0DCF]), (0x0DDD, 0x0DDD, [0x0DD9, 0x0DCF, 0x0DCA]),
    (0x0DDE, 0x0DDE, [0x0DD9, 0x0DDF]), (0x0E33, 0x0E33, [0x0E4D, 0x0E32]),
    (0x0EB3, 0x0EB3, [0x0ECD, 0x0EB2]), (0x0EDC, 0x0EDC, [0x0EAB, 0x0E99]),
    (0x0EDD, 0x0EDD, [0x0EAB, 0x0EA1]), (0x0F0C, 0x0F0C, [0x0F0B]),
    (0x0F43, 0x0F43, [0x0F42, 0x0FB7]), (0x0F4D, 0x0F4D, [0x0F4C, 0x0FB7]),
    (0x0F52, 0x0F52, [0x0F51, 0x0FB7]), (0x0F57, 0x0F57, [0x0F56, 0x0FB7]),
    (0x0F5C, 0x0F5C, [0x0F5B, 0x0FB7]), (0x0F69, 0x0F69, [0x0F40, 0x0FB5]),
    (0x0F73, 0x0F73, [0x0F71, 0x0F72]), (0x0F75, 0x0F75, [0x0F71, 0x0F74]),
    (0x0F76, 0x0F76, [0x0FB2, 0x0F80]), (0x0F77, 0x0F77, [0x0FB2, 0x0F71, 0x0F80]),
    (0x0F78, 0x0F78, [0x0FB3, 0x0F80]), (0x0F79, 0x0F79, [0x0FB3, 0x0F71, 0x0F80]),
    (0x0F81, 0x0F81, [0x0F71, 0x0F80]), (0x0F93, 0x0F93, [0x0F92, 0x0FB7]),
    (0x0F9D, 0x0F9D, [0x0F9C, 0x0FB7]), (0x0FA2, 0x0FA2, [0x0FA1, 0x0FB7]),
    (0x0FA7, 0x0FA7, [0x0FA6, 0x0FB7]), (0x0FAC, 0x0FAC, [0x0FAB, 0x0FB7]),
    (0x0FB9, 0x0FB9, [0x0F90, 0x0FB5]), (0x1026, 0x1026, [0x1025, 0x102E]),
    (0x10FC, 0x10FC, [0x10DC]), (0x1B06, 0x1B06, [0x1B05, 0x1B35]),
    (0x1B08, 0x1B08, [0x1B07, 0x1B35]), (0x1B0A, 0x1B0A, [0x1B09, 0x1B35]),
    (0x1B0C, 0x1B0C, [0x1B0B, 0x1B35]), (0x1B0E, 0x1B0E, [0x1B0D, 0x1B35]),
    (0x1B12, 0x1B12, [0x1B11, 0x1B35]), (0x1B3B, 0x1B3B, [0x1B3A, 0x1B35]),
    (0x1B3D, 0x1B3D, [0x1B3C, 0x1B35]), (0x1B40, 0x1B40, [0x1B3E, 0x1B35]),
    (0x1B41, 0x1B41, [0x1B3F, 0x1B35]), (0x1B43, 0x1B43, [0x1B42, 0x1B35]),
    (0x1D2C, 0x1D2C, [0x0041]), (0x1D2D, 0x1D2D, [0x00C6]), (0x1D2E, 0x1D2E, [0x0042]),
    (0x1D30, 0x1D31, [0x0044]), (0x1D32, 0x1D32, [0x018E]), (0x1D33, 0x1D3A, [0x0047]),
    (0x1D3C, 0x1D3C, [0x004F]), (0x1D3D, 0x1D3D, [0x0222]), (0x1D3E, 0x1D3E, [0x0050]),
    (0x1D3F, 0x1D3F, [0x0052]), (0x1D40, 0x1D41, [0x0054]), (0x1D42, 0x1D42, [0x0057]),
    (0x1D43, 0x1D43, [0x0061]), (0x1D44, 0x1D45, [0x0250]), (0x1D46, 0x1D46, [0x1D02]),
    (0x1D47, 0x1D47, [0x0062]), (0x1D48, 0x1D49, [0x0064]), (0x1D4A, 0x1D4A, [0x0259]),
    (0x1D4B, 0x1D4C, [0x025B]), (0x1D4D, 0x1D4D, [0x0067]), (0x1D4F, 0x1D4F, [0x006B]),
    (0x1D50, 0x1D50, [0x006D]), (0x1D51, 0x1D51, [0x014B]), (0x1D52, 0x1D52, [0x006F]),
    (0x1D53, 0x1D53, [0x0254]), (0x1D54, 0x1D55, [0x1D16]), (0x1D56, 0x1D56, [0x0070]),
    (0x1D57, 0x1D58, [0x0074]), (0x1D59, 0x1D59, [0x1D1D]), (0x1D5A, 0x1D5A, [0x026F]),
    (0x1D5B, 0x1D5B, [0x0076]), (0x1D5C, 0x1D5C, [0x1D25]), (0x1D5D, 0x1D5F, [0x03B2]),
    (0x1D60, 0x1D61, [0x03C6]), (0x1D62, 0x1D62, [0x0069]), (0x1D63, 0x1D63, [0x0072]),
    (0x1D64, 0x1D65, [0x0075]), (0x1D66, 0x1D67, [0x03B2]), (0x1D68, 0x1D68, [0x03C1]),
    (0x1D69, 0x1D6A, [0x03C6]), (0x1D78, 0x1D78, [0x043D]), (0x1D9B, 0x1D9B, [0x0252]),
    (0x1D9C, 0x1D9C, [0x0063]), (0x1D9D, 0x1D9D, [0x0255]), (0x1D9E, 0x1D9E, [0x00F0]),
    (0x1D9F, 0x1D9F, [0x025C]), (0x1DA0, 0x1DA0, [0x0066]), (0x1DA1, 0x1DA1, [0x025F]),
    (0x1DA2, 0x1DA2, [0x0261]), (0x1DA3, 0x1DA3, [0x0265]), (0x1DA4, 0x1DA6, [0x0268]),
    (0x1DA7, 0x1DA7, [0x1D7B]), (0x1DA8, 0x1DA8, [0x029D]), (0x1DA9, 0x1DA9, [0x026D]),
    (0x1DAA, 0x1DAA, [0x1D85]), (0x1DAB, 0x1DAB, [0x029F])]

/-- Rows of the table, ordered by code point. -/
def partC : List Row := [
    (0x1DAC, 0x1DAC, [0x0271]), (0x1DAD, 0x1DAD, [0x0270]), (0x1DAE, 0x1DB1, [0x0272]),
    (0x1DB2, 0x1DB2, [0x0278]), (0x1DB3, 0x1DB4, [0x0282]), (0x1DB5, 0x1DB5, [0x01AB]),
    (0x1DB6, 0x1DB7, [0x0289]), (0x1DB8, 0x1DB8, [0x1D1C]), (0x1DB9, 0x1DBA, [0x028B]),
    (0x1DBB, 0x1DBB, [0x007A]), (0x1DBC, 0x1DBE, [0x0290]), (0x1DBF, 0x1DBF, [0x03B8])]

/-- All rows of this part of the code space. -/
def rows : List Row :=
  partA ++ partB ++ partC

end CommandPrompt.Text.NormalForm.Scripts
