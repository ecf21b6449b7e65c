import CommandPrompt.Text.NormalForm.Row

/-!
# Punctuation and symbols

Compatibility decompositions of Unicode 14 from U+2000 to U+2D6F.
-/

namespace CommandPrompt.Text.NormalForm.Symbols

/-- Rows of the table, ordered by code point. -/
def partA : List Row := [
    (0x2000, 0x2000, [0x0020]), (0x2001, 0x2001, [0x0020]), (0x2002, 0x2002, [0x0020]),
    (0x2003, 0x2003, [0x0020]), (0x2004, 0x2004, [0x0020]), (0x2005, 0x2005, [0x0020]),
    (0x2006, 0x2006, [0x0020]), (0x2007, 0x2007, [0x0020]), (0x2008, 0x2008, [0x0020]),
    (0x2009, 0x2009, [0x0020]), (0x200A, 0x200A, [0x0020]), (0x2011, 0x2011, [0x2010]),
    (0x2017, 0x2017, [0x0020, 0x0333]), (0x2024, 0x2024, [0x002E]),
    (0x2025, 0x2025, [0x002E, 0x002E]), (0x2026, 0x2026, [0x002E, 0x002E, 0x002E]),
    (0x202F, 0x202F, [0x0020]), (0x2033, 0x2033, [0x2032, 0x2032]),
    (0x2034, 0x2034, [0x2032, 0x2032, 0x2032]), (0x2036, 0x2036, [0x2035, 0x2035]),
    (0x2037, 0x2037, [0x2035, 0x2035, 0x2035]), (0x203C, 0x203C, [0x0021, 0x0021]),
    (0x203E, 0x203E, [0x0020, 0x0305]), (0x2047, 0x2047, [0x003F, 0x003F]),
    (0x2048, 0x2048, [0x003F, 0x0021]), (0x2049, 0x2049, [0x0021, 0x003F]),
    (0x2057, 0x2057, [0x2032, 0x2032, 0x2032, 0x2032]), (0x205F, 0x205F, [0x0020]),
    (0x2070, 0x2070, [0x0030]), (0x2071, 0x2071, [0x0069]), (0x2074, 0x2079, [0x0034]),
    (0x207A, 0x207A, [0x002B]), (0x207B, 0x207B, [0x2212]), (0x207C, 0x207C, [0x003D]),
    (0x207D, 0x207E, [0x0028]), (0x207F, 0x207F, [0x006E]), (0x2080, 0x2089, [0x0030]),
    (0x208A, 0x208A, [0x002B]), (0x208B, 0x208B, [0x2212]), (0x208C, 0x208C, [0x003D]),
    (0x208D, 0x208E, [0x0028]), (0x2090, 0x2090, [0x0061]), (0x2091, 0x2091, [0x0065]),
    (0x2092, 0x2092, [0x006F]), (0x2093, 0x2093, [0x0078]), (0x2094, 0x2094, [0x0259]),
    (0x2095, 0x2095, [0x0068]), (0x2096, 0x2099, [0x006B]), (0x209A, 0x209A, [0x0070]),
    (0x209B, 0x209C, [0x0073]), (0x20A8, 0x20A8, [0x0052, 0x0073]),
    (0x2100, 0x2100, [0x0061, 0x002F, 0x0063]), (0x2101, 0x2101, [0x0061, 0x002F, 0x0073]),
    (0x2102, 0x2102, [0x0043]), (0x2103, 0x2103, [0x00B0, 0x0043]),
    (0x2105, 0x2105, [0x0063, 0x002F, 0x006F]), (0x2106, 0x2106, [0x0063, 0x002F, 0x0075]),
    (0x2107, 0x2107, [0x0190]), (0x2109, 0x2109, [0x00B0, 0x0046]), (0x210A, 0x210A, [0x0067]),
    (0x210B, 0x210B, [0x0048]), (0x210C, 0x210C, [0x0048]), (0x210D, 0x210D, [0x0048]),
    (0x210E, 0x210E, [0x0068]), (0x210F, 0x210F, [0x0127]), (0x2110, 0x2110, [0x0049]),
    (0x2111, 0x2111, [0x0049]), (0x2112, 0x2112, [0x004C]), (0x2113, 0x2113, [0x006C]),
    (0x2115, 0x2115, [0x004E]), (0x2116, 0x2116, [0x004E, 0x006F]), (0x2119, 0x211B, [0x0050]),
    (0x211C, 0x211C, [0x0052]), (0x211D, 0x211D, [0x0052]), (0x2120, 0x2120, [0x0053, 0x004D]),
    (0x2121, 0x2121, [0x0054, 0x0045, 0x004C]), (0x2122, 0x2122, [0x0054, 0x004D]),
    (0x2124, 0x2124, [0x005A]), (0x2126, 0x2126, [0x03A9]), (0x2128, 0x2128, [0x005A]),
    (0x212A, 0x212A, [0x004B]), (0x212B, 0x212B, [0x0041, 0x030A]), (0x212C, 0x212D, [0x0042]),
    (0x212F, 0x212F, [0x0065]), (0x2130, 0x2131, [0x0045]), (0x2133, 0x2133, [0x004D]),
    (0x2134, 0x2134, [0x006F]), (0x2135, 0x2138, [0x05D0]), (0x2139, 0x2139, [0x0069]),
    (0x213B, 0x213B, [0x0046, 0x0041, 0x0058]), (0x213C, 0x213C, [0x03C0]),
    (0x213D, 0x213D, [0x03B3]), (0x213E, 0x213E, [0x0393]), (0x213F, 0x213F, [0x03A0]),
    (0x2140, 0x2140, [0x2211]), (0x2145, 0x2145, [0x0044]), (0x2146, 0x2147, [0x0064]),
    (0x2148, 0x2149, [0x0069]), (0x2150, 0x2150, [0x0031, 0x2044, 0x0037]),
    (0x2151, 0x2151, [0x0031, 0x2044, 0x0039])]

/-- Rows of the table, ordered by code point. -/
def partB : List Row := [
    (0x2152, 0x2152, [0x0031, 0x2044, 0x0031, 0x0030]),
    (0x2153, 0x2153, [0x0031, 0x2044, 0x0033]), (0x2154, 0x2154, [0x0032, 0x2044, 0x0033]),
    (0x2155, 0x2155, [0x0031, 0x2044, 0x0035]), (0x2156, 0x2156, [0x0032, 0x2044, 0x0035]),
    (0x2157, 0x2157, [0x0033, 0x2044, 0x0035]), (0x2158, 0x2158, [0x0034, 0x2044, 0x0035]),
    (0x2159, 0x2159, [0x0031, 0x2044, 0x0036]), (0x215A, 0x215A, [0x0035, 0x2044, 0x0036]),
    (0x215B, 0x215B, [0x0031, 0x2044, 0x0038]), (0x215C, 0x215C, [0x0033, 0x2044, 0x0038]),
    (0x215D, 0x215D, [0x0035, 0x2044, 0x0038]), (0x215E, 0x215E, [0x0037, 0x2044, 0x0038]),
    (0x215F, 0x215F, [0x0031, 0x2044]), (0x2160, 0x2160, [0x0049]),
    (0x2161, 0x2161, [0x0049, 0x0049]), (0x2162, 0x2162, [0x0049, 0x0049, 0x0049]),
    (0x2163, 0x2163, [0x0049, 0x0056]), (0x2164, 0x2164, [0x0056]),
    (0x2165, 0x2165, [0x0056, 0x0049]), (0x2166, 0x2166, [0x0056, 0x0049, 0x0049]),
    (0x2167, 0x2167, [0x0056, 0x0049, 0x0049, 0x0049]), (0x2168, 0x2168, [0x0049, 0x0058]),
    (0x2169, 0x2169, [0x0058]), (0x216A, 0x216A, [0x0058, 0x0049]),
    (0x216B, 0x216B, [0x0058, 0x0049, 0x0049]), (0x216C, 0x216C, [0x004C]),
    (0x216D, 0x216E, [0x0043]), (0x216F, 0x216F, [0x004D]), (0x2170, 0x2170, [0x0069]),
    (0x2171, 0x2171, [0x0069, 0x0069]), (0x2172, 0x2172, [0x0069, 0x0069, 0x0069]),
    (0x2173, 0x2173, [0x0069, 0x0076]), (0x2174, 0x2174, [0x0076]),
    (0x2175, 0x2175, [0x0076, 0x0069]), (0x2176, 0x2176, [0x0076, 0x0069, 0x0069]),
    (0x2177, 0x2177, [0x0076, 0x0069, 0x0069, 0x0069]), (0x2178, 0x2178, [0x0069, 0x0078]),
    (0x2179, 0x2179, [0x0078]), (0x217A, 0x217A, [0x0078, 0x0069]),
    (0x217B, 0x217B, [0x0078, 0x0069, 0x0069]), (0x217C, 0x217C, [0x006C]),
    (0x217D, 0x217E, [0x0063]), (0x217F, 0x217F, [0x006D]),
    (0x2189, 0x2189, [0x0030, 0x2044, 0x0033]), (0x219A, 0x219A, [0x2190, 0x0338]),
    (0x219B, 0x219B, [0x2192, 0x0338]), (0x21AE, 0x21AE, [0x2194, 0x0338]),
    (0x21CD, 0x21CD, [0x21D0, 0x0338]), (0x21CE, 0x21CE, [0x21D4, 0x0338]),
    (0x21CF, 0x21CF, [0x21D2, 0x0338]), (0x2204, 0x2204, [0x2203, 0x0338]),
    (0x2209, 0x2209, [0x2208, 0x0338]), (0x220C, 0x220C, [0x220B, 0x0338]),
    (0x2224, 0x2224, [0x2223, 0x0338]), (0x2226, 0x2226, [0x2225, 0x0338]),
    (0x222C, 0x222C, [0x222B, 0x222B]), (0x222D, 0x222D, [0x222B, 0x222B, 0x222B]),
    (0x222F, 0x222F, [0x222E, 0x222E]), (0x2230, 0x2230, [0x222E, 0x222E, 0x222E]),
    (0x2241, 0x2241, [0x223C, 0x0338]), (0x2244, 0x2244, [0x2243, 0x0338]),
    (0x2247, 0x2247, [0x2245, 0x0338]), (0x2249, 0x2249, [0x2248, 0x0338]),
    (0x2260, 0x2260, [0x003D, 0x0338]), (0x2262, 0x2262, [0x2261, 0x0338]),
    (0x226D, 0x226D, [0x224D, 0x0338]), (0x226E, 0x226E, [0x003C, 0x0338]),
    (0x226F, 0x226F, [0x003E, 0x0338]), (0x2270, 0x2270, [0x2264, 0x0338]),
    (0x2271, 0x2271, [0x2265, 0x0338]), (0x2274, 0x2274, [0x2272, 0x0338]),
    (0x2275, 0x2275, [0x2273, 0x0338]), (0x2278, 0x2278, [0x2276, 0x0338]),
    (0x2279, 0x2279, [0x2277, 0x0338]), (0x2280, 0x2280, [0x227A, 0x0338]),
    (0x2281, 0x2281, [0x227B, 0x0338]), (0x2284, 0x2284, [0x2282, 0x0338]),
    (0x2285, 0x2285, [0x2283, 0x0338]), (0x2288, 0x2288, [0x2286, 0x0338]),
    (0x2289, 0x2289, [0x2287, 0x0338]), (0x22AC, 0x22AC, [0x22A2, 0x0338]),
    (0x22AD, 0x22AD, [0x22A8, 0x0338]), (0x22AE, 0x22AE, [0x22A9, 0x0338]),
    (0x22AF, 0x22AF, [0x22AB, 0x0338]), (0x22E0, 0x22E0, [0x227C, 0x0338]),
    (0x22E1, 0x22E1, [0x227D, 0x0338]), (0x22E2, 0x22E2, [0x2291, 0x0338]),
    (0x22E3, 0x22E3, [0x2292, 0x0338]), (0x22EA, 0x22EA, [0x22B2, 0x0338]),
    (0x22EB, 0x22EB, [0x22B3, 0x0338]), (0x22EC, 0x22EC, [0x22B4, 0x0338]),
    (0x22ED, 0x22ED, [0x22B5, 0x0338]), (0x2329, 0x232A, [0x3008]), (0x2460, 0x2468, [0x0031]),
    (0x2469, 0x2472, [0x0031, 0x0030]), (0x2473, 0x2473, [0x0032, 0x0030]),
    (0x2474, 0x2474, [0x0028, 0x0031, 0x0029]), (0x2475, 0x2475, [0x0028, 0x0032, 0x0029]),
    (0x2476, 0x2476, [0x0028, 0x0033, 0x0029])]

/-- Rows of the table, ordered by code point. -/
def partC : List Row := [
    (0x2477, 0x2477, [0x0028, 0x0034, 0x0029]), (0x2478, 0x2478, [0x0028, 0x0035, 0x0029]),
    (0x2479, 0x2479, [0x0028, 0x0036, 0x0029]), (0x247A, 0x247A, [0x0028, 0x0037, 0x0029]),
    (0x247B, 0x247B, [0x0028, 0x0038, 0x0029]), (0x247C, 0x247C, [0x0028, 0x0039, 0x0029]),
    (0x247D, 0x247D, [0x0028, 0x0031, 0x0030, 0x0029]),
    (0x247E, 0x247E, [0x0028, 0x0031, 0x0031, 0x0029]),
    (0x247F, 0x247F, [0x0028, 0x0031, 0x0032, 0x0029]),
    (0x2480, 0x2480, [0x0028, 0x0031, 0x0033, 0x0029]),
    (0x2481, 0x2481, [0x0028, 0x0031, 0x0034, 0x0029]),
    (0x2482, 0x2482, [0x0028, 0x0031, 0x0035, 0x0029]),
    (0x2483, 0x2483, [0x0028, 0x0031, 0x0036, 0x0029]),
    (0x2484, 0x2484, [0x0028, 0x0031, 0x0037, 0x0029]),
    (0x2485, 0x2485, [0x0028, 0x0031, 0x0038, 0x0029]),
    (0x2486, 0x2486, [0x0028, 0x0031, 0x0039, 0x0029]),
    (0x2487, 0x2487, [0x0028, 0x0032, 0x0030, 0x0029]), (0x2488, 0x2488, [0x0031, 0x002E]),
    (0x2489, 0x2489, [0x0032, 0x002E]), (0x248A, 0x248A, [0x0033, 0x002E]),
    (0x248B, 0x248B, [0x0034, 0x002E]), (0x248C, 0x248C, [0x0035, 0x002E]),
    (0x248D, 0x248D, [0x0036, 0x002E]), (0x248E, 0x248E, [0x0037, 0x002E]),
    (0x248F, 0x248F, [0x0038, 0x002E]), (0x2490, 0x2490, [0x0039, 0x002E]),
    (0x2491, 0x2491, [0x0031, 0x0030, 0x002E]), (0x2492, 0x2492, [0x0031, 0x0031, 0x002E]),
    (0x2493, 0x2493, [0x0031, 0x0032, 0x002E]), (0x2494, 0x2494, [0x0031, 0x0033, 0x002E]),
    (0x2495, 0x2495, [0x0031, 0x0034, 0x002E]), (0x2496, 0x2496, [0x0031, 0x0035, 0x002E]),
    (0x2497, 0x2497, [0x0031, 0x0036, 0x002E]), (0x2498, 0x2498, [0x0031, 0x0037, 0x002E]),
    (0x2499, 0x2499, [0x0031, 0x0038, 0x002E]), (0x249A, 0x249A, [0x0031, 0x0039, 0x002E]),
    (0x249B, 0x249B, [0x0032, 0x0030, 0x002E]), (0x249C, 0x249C, [0x0028, 0x0061, 0x0029]),
    (0x249D, 0x249D, [0x0028, 0x0062, 0x0029]), (0x249E, 0x249E, [0x0028, 0x0063, 0x0029]),
    (0x249F, 0x249F, [0x0028, 0x0064, 0x0029]), (0x24A0, 0x24A0, [0x0028, 0x0065, 0x0029]),
    (0x24A1, 0x24A1, [0x0028, 0x0066, 0x0029]), (0x24A2, 0x24A2, [0x0028, 0x0067, 0x0029]),
    (0x24A3, 0x24A3, [0x0028, 0x0068, 0x0029]), (0x24A4, 0x24A4, [0x0028, 0x0069, 0x0029]),
    (0x24A5, 0x24A5, [0x0028, 0x006A, 0x0029]), (0x24A6, 0x24A6, [0x0028, 0x006B, 0x0029]),
    (0x24A7, 0x24A7, [0x0028, 0x006C, 0x0029]), (0x24A8, 0x24A8, [0x0028, 0x006D, 0x0029]),
    (0x24A9, 0x24A9, [0x0028, 0x006E, 0x0029]), (0x24AA, 0x24AA, [0x0028, 0x006F, 0x0029]),
    (0x24AB, 0x24AB, [0x0028, 0x0070, 0x0029]), (0x24AC, 0x24AC, [0x0028, 0x0071, 0x0029]),
    (0x24AD, 0x24AD, [0x0028, 0x0072, 0x0029]), (0x24AE, 0x24AE, [0x0028, 0x0073, 0x0029]),
    (0x24AF, 0x24AF, [0x0028, 0x0074, 0x0029]), (0x24B0, 0x24B0, [0x0028, 0x0075, 0x0029]),
    (0x24B1, 0x24B1, [0x0028, 0x0076, 0x0029]), (0x24B2, 0x24B2, [0x0028, 0x0077, 0x0029]),
    (0x24B3, 0x24B3, [0x0028, 0x0078, 0x0029]), (0x24B4, 0x24B4, [0x0028, 0x0079, 0x0029]),
    (0x24B5, 0x24B5, [0x0028, 0x007A, 0x0029]), (0x24B6, 0x24CF, [0x0041]),
    (0x24D0, 0x24E9, [0x0061]), (0x24EA, 0x24EA, [0x0030]),
    (0x2A0C, 0x2A0C, [0x222B, 0x222B, 0x222B, 0x222B]),
    (0x2A74, 0x2A74, [0x003A, 0x003A, 0x003D]), (0x2A75, 0x2A75, [0x003D, 0x003D]),
    (0x2A76, 0x2A76, [0x003D, 0x003D, 0x003D]), (0x2ADC, 0x2ADC, [0x2ADD, 0x0338]),
    (0x2C7C, 0x2C7C, [0x006A]), (0x2C7D, 0x2C7D, [0x0056]), (0x2D6F, 0x2D6F, [0x2D61])]

/-- All rows of this part of the code space. -/
def rows : List Row :=
  partA ++ partB ++ partC

end CommandPrompt.Text.NormalForm.Symbols
