import CommandPrompt.Text.NormalForm.Row

/-!
# Presentation forms

Compatibility decompositions of Unicode 14 from U+FB00 to U+FDFC.
-/

namespace CommandPrompt.Text.NormalForm.Presentation

/-- Rows of the table, ordered by code point. -/
def partA : List Row := [
    (0xFB00, 0xFB00, [0x0066, 0x0066]), (0xFB01, 0xFB01, [0x0066, 0x0069]),
    (0xFB02, 0xFB02, [0x0066, 0x006C]), (0xFB03, 0xFB03, [0x0066, 0x0066, 0x0069]),
    (0xFB04, 0xFB04, [0x0066, 0x0066, 0x006C]), (0xFB05, 0xFB05, [0x0073, 0x0074]),
    (0xFB06, 0xFB06, [0x0073, 0x0074]), (0xFB13, 0xFB13, [0x0574, 0x0576]),
    (0xFB14, 0xFB14, [0x0574, 0x0565]), (0xFB15, 0xFB15, [0x0574, 0x056B]),
    (0xFB16, 0xFB16, [0x057E, 0x0576]), (0xFB17, 0xFB17, [0x0574, 0x056D]),
    (0xFB1D, 0xFB1D, [0x05D9, 0x05B4]), (0xFB1F, 0xFB1F, [0x05F2, 0x05B7]),
    (0xFB20, 0xFB20, [0x05E2]), (0xFB21, 0xFB21, [0x05D0]), (0xFB22, 0xFB23, [0x05D3]),
    (0xFB24, 0xFB26, [0x05DB]), (0xFB27, 0xFB27, [0x05E8]), (0xFB28, 0xFB28, [0x05EA]),
    (0xFB29, 0xFB29, [0x002B]), (0xFB2A, 0xFB2B, [0x05E9, 0x05C1]),
    (0xFB2C, 0xFB2D, [0x05E9, 0x05BC, 0x05C1]), (0xFB2E, 0xFB2F, [0x05D0, 0x05B7]),
    (0xFB30, 0xFB30, [0x05D0, 0x05BC]), (0xFB31, 0xFB31, [0x05D1, 0x05BC]),
    (0xFB32, 0xFB32, [0x05D2, 0x05BC]), (0xFB33, 0xFB33, [0x05D3, 0x05BC]),
    (0xFB34, 0xFB34, [0x05D4, 0x05BC]), (0xFB35, 0xFB35, [0x05D5, 0x05BC]),
    (0xFB36, 0xFB36, [0x05D6, 0x05BC]), (0xFB38, 0xFB38, [0x05D8, 0x05BC]),
    (0xFB39, 0xFB39, [0x05D9, 0x05BC]), (0xFB3A, 0xFB3A, [0x05DA, 0x05BC]),
    (0xFB3B, 0xFB3B, [0x05DB, 0x05BC]), (0xFB3C, 0xFB3C, [0x05DC, 0x05BC]),
    (0xFB3E, 0xFB3E, [0x05DE, 0x05BC]), (0xFB40, 0xFB40, [0x05E0, 0x05BC]),
    (0xFB41, 0xFB41, [0x05E1, 0x05BC]), (0xFB43, 0xFB43, [0x05E3, 0x05BC]),
    (0xFB44, 0xFB44, [0x05E4, 0x05BC]), (0xFB46, 0xFB46, [0x05E6, 0x05BC]),
    (0xFB47, 0xFB47, [0x05E7, 0x05BC]), (0xFB48, 0xFB48, [0x05E8, 0x05BC]),
    (0xFB49, 0xFB49, [0x05E9, 0x05BC]), (0xFB4A, 0xFB4A, [0x05EA, 0x05BC]),
    (0xFB4B, 0xFB4B, [0x05D5, 0x05B9]), (0xFB4C, 0xFB4C, [0x05D1, 0x05BF]),
    (0xFB4D, 0xFB4D, [0x05DB, 0x05BF]), (0xFB4E, 0xFB4E, [0x05E4, 0x05BF]),
    (0xFB4F, 0xFB4F, [0x05D0, 0x05DC]), (0xFB50, 0xFB50, [0x0671]), (0xFB51, 0xFB51, [0x0671]),
    (0xFB52, 0xFB52, [0x067B]), (0xFB53, 0xFB53, [0x067B]), (0xFB54, 0xFB54, [0x067B]),
    (0xFB55, 0xFB55, [0x067B]), (0xFB56, 0xFB56, [0x067E]), (0xFB57, 0xFB57, [0x067E]),
    (0xFB58, 0xFB58, [0x067E]), (0xFB59, 0xFB59, [0x067E]), (0xFB5A, 0xFB5A, [0x0680]),
    (0xFB5B, 0xFB5B, [0x0680]), (0xFB5C, 0xFB5C, [0x0680]), (0xFB5D, 0xFB5D, [0x0680]),
    (0xFB5E, 0xFB5E, [0x067A]), (0xFB5F, 0xFB5F, [0x067A]), (0xFB60, 0xFB60, [0x067A]),
    (0xFB61, 0xFB61, [0x067A]), (0xFB62, 0xFB62, [0x067F]), (0xFB63, 0xFB63, [0x067F]),
    (0xFB64, 0xFB64, [0x067F]), (0xFB65, 0xFB65, [0x067F]), (0xFB66, 0xFB66, [0x0679]),
    (0xFB67, 0xFB67, [0x0679]), (0xFB68, 0xFB68, [0x0679]), (0xFB69, 0xFB69, [0x0679]),
    (0xFB6A, 0xFB6A, [0x06A4]), (0xFB6B, 0xFB6B, [0x06A4]), (0xFB6C, 0xFB6C, [0x06A4]),
    (0xFB6D, 0xFB6D, [0x06A4]), (0xFB6E, 0xFB6E, [0x06A6]), (0xFB6F, 0xFB6F, [0x06A6]),
    (0xFB70, 0xFB70, [0x06A6]), (0xFB71, 0xFB71, [0x06A6]), (0xFB72, 0xFB72, [0x0684]),
    (0xFB73, 0xFB73, [0x0684]), (0xFB74, 0xFB74, [0x0684]), (0xFB75, 0xFB75, [0x0684]),
    (0xFB76, 0xFB76, [0x0683]), (0xFB77, 0xFB77, [0x0683]), (0xFB78, 0xFB78, [0x0683]),
    (0xFB79, 0xFB79, [0x0683]), (0xFB7A, 0xFB7A, [0x0686]), (0xFB7B, 0xFB7B, [0x0686]),
    (0xFB7C, 0xFB7C, [0x0686]), (0xFB7D, 0xFB7E, [0x0686]), (0xFB7F, 0xFB7F, [0x0687]),
    (0xFB80, 0xFB80, [0x0687]), (0xFB81, 0xFB81, [0x0687])]

/-- Rows of the table, ordered by code point. -/
def partB : List Row := [
    (0xFB82, 0xFB82, [0x068D]), (0xFB83, 0xFB83, [0x068D]), (0xFB84, 0xFB84, [0x068C]),
    (0xFB85, 0xFB85, [0x068C]), (0xFB86, 0xFB86, [0x068E]), (0xFB87, 0xFB87, [0x068E]),
    (0xFB88, 0xFB88, [0x0688]), (0xFB89, 0xFB89, [0x0688]), (0xFB8A, 0xFB8A, [0x0698]),
    (0xFB8B, 0xFB8B, [0x0698]), (0xFB8C, 0xFB8C, [0x0691]), (0xFB8D, 0xFB8D, [0x0691]),
    (0xFB8E, 0xFB8E, [0x06A9]), (0xFB8F, 0xFB8F, [0x06A9]), (0xFB90, 0xFB90, [0x06A9]),
    (0xFB91, 0xFB91, [0x06A9]), (0xFB92, 0xFB92, [0x06AF]), (0xFB93, 0xFB93, [0x06AF]),
    (0xFB94, 0xFB94, [0x06AF]), (0xFB95, 0xFB95, [0x06AF]), (0xFB96, 0xFB96, [0x06B3]),
    (0xFB97, 0xFB97, [0x06B3]), (0xFB98, 0xFB98, [0x06B3]), (0xFB99, 0xFB99, [0x06B3]),
    (0xFB9A, 0xFB9A, [0x06B1]), (0xFB9B, 0xFB9B, [0x06B1]), (0xFB9C, 0xFB9C, [0x06B1]),
    (0xFB9D, 0xFB9D, [0x06B1]), (0xFB9E, 0xFB9E, [0x06BA]), (0xFB9F, 0xFBA0, [0x06BA]),
    (0xFBA1, 0xFBA1, [0x06BB]), (0xFBA2, 0xFBA2, [0x06BB]), (0xFBA3, 0xFBA3, [0x06BB]),
    (0xFBA4, 0xFBA4, [0x06D5, 0x0654]), (0xFBA5, 0xFBA5, [0x06D5, 0x0654]),
    (0xFBA6, 0xFBA6, [0x06C1]), (0xFBA7, 0xFBA7, [0x06C1]), (0xFBA8, 0xFBA8, [0x06C1]),
    (0xFBA9, 0xFBA9, [0x06C1]), (0xFBAA, 0xFBAA, [0x06BE]), (0xFBAB, 0xFBAB, [0x06BE]),
    (0xFBAC, 0xFBAC, [0x06BE]), (0xFBAD, 0xFBAD, [0x06BE]), (0xFBAE, 0xFBAE, [0x06D2]),
    (0xFBAF, 0xFBAF, [0x06D2]), (0xFBB0, 0xFBB0, [0x06D2, 0x0654]),
    (0xFBB1, 0xFBB1, [0x06D2, 0x0654]), (0xFBD3, 0xFBD3, [0x06AD]), (0xFBD4, 0xFBD4, [0x06AD]),
    (0xFBD5, 0xFBD5, [0x06AD]), (0xFBD6, 0xFBD6, [0x06AD]), (0xFBD7, 0xFBD7, [0x06C7]),
    (0xFBD8, 0xFBD8, [0x06C7]), (0xFBD9, 0xFBD9, [0x06C6]), (0xFBDA, 0xFBDA, [0x06C6]),
    (0xFBDB, 0xFBDB, [0x06C8]), (0xFBDC, 0xFBDC, [0x06C8]), (0xFBDD, 0xFBDD, [0x06C7, 0x0674]),
    (0xFBDE, 0xFBDE, [0x06CB]), (0xFBDF, 0xFBDF, [0x06CB]), (0xFBE0, 0xFBE0, [0x06C5]),
    (0xFBE1, 0xFBE1, [0x06C5]), (0xFBE2, 0xFBE2, [0x06C9]), (0xFBE3, 0xFBE3, [0x06C9]),
    (0xFBE4, 0xFBE4, [0x06D0]), (0xFBE5, 0xFBE5, [0x06D0]), (0xFBE6, 0xFBE6, [0x06D0]),
    (0xFBE7, 0xFBE7, [0x06D0]), (0xFBE8, 0xFBE8, [0x0649]), (0xFBE9, 0xFBE9, [0x0649]),
    (0xFBEA, 0xFBEA, [0x064A, 0x0654, 0x0627]), (0xFBEB, 0xFBEB, [0x064A, 0x0654, 0x0627]),
    (0xFBEC, 0xFBEC, [0x064A, 0x0654, 0x06D5]), (0xFBED, 0xFBED, [0x064A, 0x0654, 0x06D5]),
    (0xFBEE, 0xFBEE, [0x064A, 0x0654, 0x0648]), (0xFBEF, 0xFBEF, [0x064A, 0x0654, 0x0648]),
    (0xFBF0, 0xFBF0, [0x064A, 0x0654, 0x06C7]), (0xFBF1, 0xFBF1, [0x064A, 0x0654, 0x06C7]),
    (0xFBF2, 0xFBF2, [0x064A, 0x0654, 0x06C6]), (0xFBF3, 0xFBF3, [0x064A, 0x0654, 0x06C6]),
    (0xFBF4, 0xFBF4, [0x064A, 0x0654, 0x06C8]), (0xFBF5, 0xFBF5, [0x064A, 0x0654, 0x06C8]),
    (0xFBF6, 0xFBF6, [0x064A, 0x0654, 0x06D0]), (0xFBF7, 0xFBF7, [0x064A, 0x0654, 0x06D0]),
    (0xFBF8, 0xFBF8, [0x064A, 0x0654, 0x06D0]), (0xFBF9, 0xFBF9, [0x064A, 0x0654, 0x0649]),
    (0xFBFA, 0xFBFA, [0x064A, 0x0654, 0x0649]), (0xFBFB, 0xFBFB, [0x064A, 0x0654, 0x0649]),
    (0xFBFC, 0xFBFC, [0x06CC]), (0xFBFD, 0xFBFD, [0x06CC]), (0xFBFE, 0xFBFE, [0x06CC]),
    (0xFBFF, 0xFBFF, [0x06CC]), (0xFC00, 0xFC01, [0x064A, 0x0654, 0x062C]),
    (0xFC02, 0xFC02, [0x064A, 0x0654, 0x0645]), (0xFC03, 0xFC04, [0x064A, 0x0654, 0x0649]),
    (0xFC05, 0xFC07, [0x0628, 0x062C]), (0xFC08, 0xFC08, [0x0628, 0x0645]),
    (0xFC09, 0xFC0A, [0x0628, 0x0649]), (0xFC0B, 0xFC0D, [0x062A, 0x062C]),
    (0xFC0E, 0xFC0E, [0x062A, 0x0645])]

/-- Rows of the table, ordered by code point. -/
def partC : List Row := [
    (0xFC0F, 0xFC10, [0x062A, 0x0649]), (0xFC11, 0xFC11, [0x062B, 0x062C]),
    (0xFC12, 0xFC12, [0x062B, 0x0645]), (0xFC13, 0xFC14, [0x062B, 0x0649]),
    (0xFC15, 0xFC15, [0x062C, 0x062D]), (0xFC16, 0xFC16, [0x062C, 0x0645]),
    (0xFC17, 0xFC17, [0x062D, 0x062C]), (0xFC18, 0xFC18, [0x062D, 0x0645]),
    (0xFC19, 0xFC1A, [0x062E, 0x062C]), (0xFC1B, 0xFC1B, [0x062E, 0x0645]),
    (0xFC1C, 0xFC1E, [0x0633, 0x062C]), (0xFC1F, 0xFC1F, [0x0633, 0x0645]),
    (0xFC20, 0xFC20, [0x0635, 0x062D]), (0xFC21, 0xFC21, [0x0635, 0x0645]),
    (0xFC22, 0xFC24, [0x0636, 0x062C]), (0xFC25, 0xFC25, [0x0636, 0x0645]),
    (0xFC26, 0xFC26, [0x0637, 0x062D]), (0xFC27, 0xFC27, [0x0637, 0x0645]),
    (0xFC28, 0xFC28, [0x0638, 0x0645]), (0xFC29, 0xFC29, [0x0639, 0x062C]),
    (0xFC2A, 0xFC2A, [0x0639, 0x0645]), (0xFC2B, 0xFC2B, [0x063A, 0x062C]),
    (0xFC2C, 0xFC2C, [0x063A, 0x0645]), (0xFC2D, 0xFC2F, [0x0641, 0x062C]),
    (0xFC30, 0xFC30, [0x0641, 0x0645]), (0xFC31, 0xFC32, [0x0641, 0x0649]),
    (0xFC33, 0xFC33, [0x0642, 0x062D]), (0xFC34, 0xFC34, [0x0642, 0x0645]),
    (0xFC35, 0xFC36, [0x0642, 0x0649]), (0xFC37, 0xFC37, [0x0643, 0x0627]),
    (0xFC38, 0xFC3A, [0x0643, 0x062C]), (0xFC3B, 0xFC3C, [0x0643, 0x0644]),
    (0xFC3D, 0xFC3E, [0x0643, 0x0649]), (0xFC3F, 0xFC41, [0x0644, 0x062C]),
    (0xFC42, 0xFC42, [0x0644, 0x0645]), (0xFC43, 0xFC44, [0x0644, 0x0649]),
    (0xFC45, 0xFC47, [0x0645, 0x062C]), (0xFC48, 0xFC48, [0x0645, 0x0645]),
    (0xFC49, 0xFC4A, [0x0645, 0x0649]), (0xFC4B, 0xFC4D, [0x0646, 0x062C]),
    (0xFC4E, 0xFC4E, [0x0646, 0x0645]), (0xFC4F, 0xFC50, [0x0646, 0x0649]),
    (0xFC51, 0xFC51, [0x0647, 0x062C]), (0xFC52, 0xFC52, [0x0647, 0x0645]),
    (0xFC53, 0xFC54, [0x0647, 0x0649]), (0xFC55, 0xFC57, [0x064A, 0x062C]),
    (0xFC58, 0xFC58, [0x064A, 0x0645]), (0xFC59, 0xFC5A, [0x064A, 0x0649]),
    (0xFC5B, 0xFC5B, [0x0630, 0x0670]), (0xFC5C, 0xFC5C, [0x0631, 0x0670]),
    (0xFC5D, 0xFC5D, [0x0649, 0x0670]), (0xFC5E, 0xFC5E, [0x0020, 0x064C, 0x0651]),
    (0xFC5F, 0xFC5F, [0x0020, 0x064D, 0x0651]), (0xFC60, 0xFC60, [0x0020, 0x064E, 0x0651]),
    (0xFC61, 0xFC61, [0x0020, 0x064F, 0x0651]), (0xFC62, 0xFC62, [0x0020, 0x0650, 0x0651]),
    (0xFC63, 0xFC63, [0x0020, 0x0651, 0x0670]), (0xFC64, 0xFC65, [0x064A, 0x0654, 0x0631]),
    (0xFC66, 0xFC67, [0x064A, 0x0654, 0x0645]), (0xFC68, 0xFC69, [0x064A, 0x0654, 0x0649]),
    (0xFC6A, 0xFC6B, [0x0628, 0x0631]), (0xFC6C, 0xFC6D, [0x0628, 0x0645]),
    (0xFC6E, 0xFC6F, [0x0628, 0x0649]), (0xFC70, 0xFC71, [0x062A, 0x0631]),
    (0xFC72, 0xFC73, [0x062A, 0x0645]), (0xFC74, 0xFC75, [0x062A, 0x0649]),
    (0xFC76, 0xFC77, [0x062B, 0x0631]), (0xFC78, 0xFC79, [0x062B, 0x0645]),
    (0xFC7A, 0xFC7B, [0x062B, 0x0649]), (0xFC7C, 0xFC7D, [0x0641, 0x0649]),
    (0xFC7E, 0xFC7F, [0x0642, 0x0649]), (0xFC80, 0xFC80, [0x0643, 0x0627]),
    (0xFC81, 0xFC82, [0x0643, 0x0644]), (0xFC83, 0xFC84, [0x0643, 0x0649]),
    (0xFC85, 0xFC85, [0x0644, 0x0645]), (0xFC86, 0xFC87, [0x0644, 0x0649]),
    (0xFC88, 0xFC88, [0x0645, 0x0627]), (0xFC89, 0xFC89, [0x0645, 0x0645]),
    (0xFC8A, 0xFC8B, [0x0646, 0x0631]), (0xFC8C, 0xFC8D, [0x0646, 0x0645]),
    (0xFC8E, 0xFC8F, [0x0646, 0x0649]), (0xFC90, 0xFC90, [0x0649, 0x0670]),
    (0xFC91, 0xFC92, [0x064A, 0x0631]), (0xFC93, 0xFC94, [0x064A, 0x0645]),
    (0xFC95, 0xFC96, [0x064A, 0x0649]), (0xFC97, 0xFC99, [0x064A, 0x0654, 0x062C]),
    (0xFC9A, 0xFC9A, [0x064A, 0x0654, 0x0645]), (0xFC9B, 0xFC9B, [0x064A, 0x0654, 0x0647]),
    (0xFC9C, 0xFC9E, [0x0628, 0x062C]), (0xFC9F, 0xFC9F, [0x0628, 0x0645]),
    (0xFCA0, 0xFCA0, [0x0628, 0x0647]), (0xFCA1, 0xFCA3, [0x062A, 0x062C]),
    (0xFCA4, 0xFCA4, [0x062A, 0x0645]), (0xFCA5, 0xFCA5, [0x062A, 0x0647]),
    (0xFCA6, 0xFCA6, [0x062B, 0x0645]), (0xFCA7, 0xFCA7, [0x062C, 0x062D]),
    (0xFCA8, 0xFCA8, [0x062C, 0x0645]), (0xFCA9, 0xFCA9, [0x062D, 0x062C]),
    (0xFCAA, 0xFCAA, [0x062D, 0x0645]), (0xFCAB, 0xFCAB, [0x062E, 0x062C])]

/-- Rows of the table, ordered by code point. -/
def partD : List Row := [
    (0xFCAC, 0xFCAC, [0x062E, 0x0645]), (0xFCAD, 0xFCAF, [0x0633, 0x062C]),
    (0xFCB0, 0xFCB0, [0x0633, 0x0645]), (0xFCB1, 0xFCB2, [0x0635, 0x062D]),
    (0xFCB3, 0xFCB3, [0x0635, 0x0645]), (0xFCB4, 0xFCB6, [0x0636, 0x062C]),
    (0xFCB7, 0xFCB7, [0x0636, 0x0645]), (0xFCB8, 0xFCB8, [0x0637, 0x062D]),
    (0xFCB9, 0xFCB9, [0x0638, 0x0645]), (0xFCBA, 0xFCBA, [0x0639, 0x062C]),
    (0xFCBB, 0xFCBB, [0x0639, 0x0645]), (0xFCBC, 0xFCBC, [0x063A, 0x062C]),
    (0xFCBD, 0xFCBD, [0x063A, 0x0645]), (0xFCBE, 0xFCC0, [0x0641, 0x062C]),
    (0xFCC1, 0xFCC1, [0x0641, 0x0645]), (0xFCC2, 0xFCC2, [0x0642, 0x062D]),
    (0xFCC3, 0xFCC3, [0x0642, 0x0645]), (0xFCC4, 0xFCC6, [0x0643, 0x062C]),
    (0xFCC7, 0xFCC8, [0x0643, 0x0644]), (0xFCC9, 0xFCCB, [0x0644, 0x062C]),
    (0xFCCC, 0xFCCC, [0x0644, 0x0645]), (0xFCCD, 0xFCCD, [0x0644, 0x0647]),
    (0xFCCE, 0xFCD0, [0x0645, 0x062C]), (0xFCD1, 0xFCD1, [0x0645, 0x0645]),
    (0xFCD2, 0xFCD4, [0x0646, 0x062C]), (0xFCD5, 0xFCD5, [0x0646, 0x0645]),
    (0xFCD6, 0xFCD6, [0x0646, 0x0647]), (0xFCD7, 0xFCD7, [0x0647, 0x062C]),
    (0xFCD8, 0xFCD8, [0x0647, 0x0645]), (0xFCD9, 0xFCD9, [0x0647, 0x0670]),
    (0xFCDA, 0xFCDC, [0x064A, 0x062C]), (0xFCDD, 0xFCDD, [0x064A, 0x0645]),
    (0xFCDE, 0xFCDE, [0x064A, 0x0647]), (0xFCDF, 0xFCDF, [0x064A, 0x0654, 0x0645]),
    (0xFCE0, 0xFCE0, [0x064A, 0x0654, 0x0647]), (0xFCE1, 0xFCE1, [0x0628, 0x0645]),
    (0xFCE2, 0xFCE2, [0x0628, 0x0647]), (0xFCE3, 0xFCE3, [0x062A, 0x0645]),
    (0xFCE4, 0xFCE4, [0x062A, 0x0647]), (0xFCE5, 0xFCE5, [0x062B, 0x0645]),
    (0xFCE6, 0xFCE6, [0x062B, 0x0647]), (0xFCE7, 0xFCE7, [0x0633, 0x0645]),
    (0xFCE8, 0xFCE8, [0x0633, 0x0647]), (0xFCE9, 0xFCE9, [0x0634, 0x0645]),
    (0xFCEA, 0xFCEA, [0x0634, 0x0647]), (0xFCEB, 0xFCEC, [0x0643, 0x0644]),
    (0xFCED, 0xFCED, [0x0644, 0x0645]), (0xFCEE, 0xFCEE, [0x0646, 0x0645]),
    (0xFCEF, 0xFCEF, [0x0646, 0x0647]), (0xFCF0, 0xFCF0, [0x064A, 0x0645]),
    (0xFCF1, 0xFCF1, [0x064A, 0x0647]), (0xFCF2, 0xFCF2, [0x0640, 0x064E, 0x0651]),
    (0xFCF3, 0xFCF3, [0x0640, 0x064F, 0x0651]), (0xFCF4, 0xFCF4, [0x0640, 0x0650, 0x0651]),
    (0xFCF5, 0xFCF6, [0x0637, 0x0649]), (0xFCF7, 0xFCF8, [0x0639, 0x0649]),
    (0xFCF9, 0xFCFA, [0x063A, 0x0649]), (0xFCFB, 0xFCFC, [0x0633, 0x0649]),
    (0xFCFD, 0xFCFE, [0x0634, 0x0649]), (0xFCFF, 0xFD00, [0x062D, 0x0649]),
    (0xFD01, 0xFD02, [0x062C, 0x0649]), (0xFD03, 0xFD04, [0x062E, 0x0649]),
    (0xFD05, 0xFD06, [0x0635, 0x0649]), (0xFD07, 0xFD08, [0x0636, 0x0649]),
    (0xFD09, 0xFD0B, [0x0634, 0x062C]), (0xFD0C, 0xFD0C, [0x0634, 0x0645]),
    (0xFD0D, 0xFD0D, [0x0634, 0x0631]), (0xFD0E, 0xFD0E, [0x0633, 0x0631]),
    (0xFD0F, 0xFD0F, [0x0635, 0x0631]), (0xFD10, 0xFD10, [0x0636, 0x0631]),
    (0xFD11, 0xFD12, [0x0637, 0x0649]), (0xFD13, 0xFD14, [0x0639, 0x0649]),
    (0xFD15, 0xFD16, [0x063A, 0x0649]), (0xFD17, 0xFD18, [0x0633, 0x0649]),
    (0xFD19, 0xFD1A, [0x0634, 0x0649]), (0xFD1B, 0xFD1C, [0x062D, 0x0649]),
    (0xFD1D, 0xFD1E, [0x062C, 0x0649]), (0xFD1F, 0xFD20, [0x062E, 0x0649]),
    (0xFD21, 0xFD22, [0x0635, 0x0649]), (0xFD23, 0xFD24, [0x0636, 0x0649]),
    (0xFD25, 0xFD27, [0x0634, 0x062C]), (0xFD28, 0xFD28, [0x0634, 0x0645]),
    (0xFD29, 0xFD29, [0x0634, 0x0631]), (0xFD2A, 0xFD2A, [0x0633, 0x0631]),
    (0xFD2B, 0xFD2B, [0x0635, 0x0631]), (0xFD2C, 0xFD2C, [0x0636, 0x0631]),
    (0xFD2D, 0xFD2F, [0x0634, 0x062C]), (0xFD30, 0xFD30, [0x0634, 0x0645]),
    (0xFD31, 0xFD31, [0x0633, 0x0647]), (0xFD32, 0xFD32, [0x0634, 0x0647]),
    (0xFD33, 0xFD33, [0x0637, 0x0645]), (0xFD34, 0xFD36, [0x0633, 0x062C]),
    (0xFD37, 0xFD39, [0x0634, 0x062C]), (0xFD3A, 0xFD3A, [0x0637, 0x0645]),
    (0xFD3B, 0xFD3B, [0x0638, 0x0645]), (0xFD3C, 0xFD3C, [0x0627, 0x064B]),
    (0xFD3D, 0xFD3D, [0x0627, 0x064B]), (0xFD50, 0xFD50, [0x062A, 0x062C, 0x0645]),
    (0xFD51, 0xFD51, [0x062A, 0x062D, 0x062C]), (0xFD52, 0xFD52, [0x062A, 0x062D, 0x062C])]

/-- Rows of the table, ordered by code point. -/
def partE : List Row := [
    (0xFD53, 0xFD53, [0x062A, 0x062D, 0x0645]), (0xFD54, 0xFD54, [0x062A, 0x062E, 0x0645]),
    (0xFD55, 0xFD57, [0x062A, 0x0645, 0x062C]), (0xFD58, 0xFD58, [0x062C, 0x0645, 0x062D]),
    (0xFD59, 0xFD59, [0x062C, 0x0645, 0x062D]), (0xFD5A, 0xFD5A, [0x062D, 0x0645, 0x064A]),
    (0xFD5B, 0xFD5B, [0x062D, 0x0645, 0x0649]), (0xFD5C, 0xFD5C, [0x0633, 0x062D, 0x062C]),
    (0xFD5D, 0xFD5D, [0x0633, 0x062C, 0x062D]), (0xFD5E, 0xFD5E, [0x0633, 0x062C, 0x0649]),
    (0xFD5F, 0xFD5F, [0x0633, 0x0645, 0x062D]), (0xFD60, 0xFD60, [0x0633, 0x0645, 0x062D]),
    (0xFD61, 0xFD61, [0x0633, 0x0645, 0x062C]), (0xFD62, 0xFD62, [0x0633, 0x0645, 0x0645]),
    (0xFD63, 0xFD63, [0x0633, 0x0645, 0x0645]), (0xFD64, 0xFD64, [0x0635, 0x062D, 0x062D]),
    (0xFD65, 0xFD65, [0x0635, 0x062D, 0x062D]), (0xFD66, 0xFD66, [0x0635, 0x0645, 0x0645]),
    (0xFD67, 0xFD67, [0x0634, 0x062D, 0x0645]), (0xFD68, 0xFD68, [0x0634, 0x062D, 0x0645]),
    (0xFD69, 0xFD69, [0x0634, 0x062C, 0x064A]), (0xFD6A, 0xFD6A, [0x0634, 0x0645, 0x062E]),
    (0xFD6B, 0xFD6B, [0x0634, 0x0645, 0x062E]), (0xFD6C, 0xFD6C, [0x0634, 0x0645, 0x0645]),
    (0xFD6D, 0xFD6D, [0x0634, 0x0645, 0x0645]), (0xFD6E, 0xFD6E, [0x0636, 0x062D, 0x0649]),
    (0xFD6F, 0xFD6F, [0x0636, 0x062E, 0x0645]), (0xFD70, 0xFD70, [0x0636, 0x062E, 0x0645]),
    (0xFD71, 0xFD71, [0x0637, 0x0645, 0x062D]), (0xFD72, 0xFD72, [0x0637, 0x0645, 0x062D]),
    (0xFD73, 0xFD73, [0x0637, 0x0645, 0x0645]), (0xFD74, 0xFD74, [0x0637, 0x0645, 0x064A]),
    (0xFD75, 0xFD75, [0x0639, 0x062C, 0x0645]), (0xFD76, 0xFD76, [0x0639, 0x0645, 0x0645]),
    (0xFD77, 0xFD77, [0x0639, 0x0645, 0x0645]), (0xFD78, 0xFD78, [0x0639, 0x0645, 0x0649]),
    (0xFD79, 0xFD79, [0x063A, 0x0645, 0x0645]), (0xFD7A, 0xFD7A, [0x063A, 0x0645, 0x064A]),
    (0xFD7B, 0xFD7B, [0x063A, 0x0645, 0x0649]), (0xFD7C, 0xFD7C, [0x0641, 0x062E, 0x0645]),
    (0xFD7D, 0xFD7D, [0x0641, 0x062E, 0x0645]), (0xFD7E, 0xFD7E, [0x0642, 0x0645, 0x062D]),
    (0xFD7F, 0xFD7F, [0x0642, 0x0645, 0x0645]), (0xFD80, 0xFD80, [0x0644, 0x062D, 0x0645]),
    (0xFD81, 0xFD81, [0x0644, 0x062D, 0x064A]), (0xFD82, 0xFD82, [0x0644, 0x062D, 0x0649]),
    (0xFD83, 0xFD83, [0x0644, 0x062C, 0x062C]), (0xFD84, 0xFD84, [0x0644, 0x062C, 0x062C]),
    (0xFD85, 0xFD85, [0x0644, 0x062E, 0x0645]), (0xFD86, 0xFD86, [0x0644, 0x062E, 0x0645]),
    (0xFD87, 0xFD87, [0x0644, 0x0645, 0x062D]), (0xFD88, 0xFD88, [0x0644, 0x0645, 0x062D]),
    (0xFD89, 0xFD89, [0x0645, 0x062D, 0x062C]), (0xFD8A, 0xFD8A, [0x0645, 0x062D, 0x0645]),
    (0xFD8B, 0xFD8B, [0x0645, 0x062D, 0x064A]), (0xFD8C, 0xFD8C, [0x0645, 0x062C, 0x062D]),
    (0xFD8D, 0xFD8D, [0x0645, 0x062C, 0x0645]), (0xFD8E, 0xFD8E, [0x0645, 0x062E, 0x062C]),
    (0xFD8F, 0xFD8F, [0x0645, 0x062E, 0x0645]), (0xFD92, 0xFD92, [0x0645, 0x062C, 0x062E]),
    (0xFD93, 0xFD93, [0x0647, 0x0645, 0x062C]), (0xFD94, 0xFD94, [0x0647, 0x0645, 0x0645]),
    (0xFD95, 0xFD95, [0x0646, 0x062D, 0x0645]), (0xFD96, 0xFD96, [0x0646, 0x062D, 0x0649]),
    (0xFD97, 0xFD97, [0x0646, 0x062C, 0x0645]), (0xFD98, 0xFD98, [0x0646, 0x062C, 0x0645]),
    (0xFD99, 0xFD99, [0x0646, 0x062C, 0x0649]), (0xFD9A, 0xFD9A, [0x0646, 0x0645, 0x064A]),
    (0xFD9B, 0xFD9B, [0x0646, 0x0645, 0x0649]), (0xFD9C, 0xFD9C, [0x064A, 0x0645, 0x0645]),
    (0xFD9D, 0xFD9D, [0x064A, 0x0645, 0x0645]), (0xFD9E, 0xFD9E, [0x0628, 0x062E, 0x064A]),
    (0xFD9F, 0xFD9F, [0x062A, 0x062C, 0x064A]), (0xFDA0, 0xFDA0, [0x062A, 0x062C, 0x0649]),
    (0xFDA1, 0xFDA1, [0x062A, 0x062E, 0x064A]), (0xFDA2, 0xFDA2, [0x062A, 0x062E, 0x0649]),
    (0xFDA3, 0xFDA3, [0x062A, 0x0645, 0x064A]), (0xFDA4, 0xFDA4, [0x062A, 0x0645, 0x0649]),
    (0xFDA5, 0xFDA5, [0x062C, 0x0645, 0x064A]), (0xFDA6, 0xFDA6, [0x062C, 0x062D, 0x0649]),
    (0xFDA7, 0xFDA7, [0x062C, 0x0645, 0x0649]), (0xFDA8, 0xFDA8, [0x0633, 0x062E, 0x0649]),
    (0xFDA9, 0xFDA9, [0x0635, 0x062D, 0x064A]), (0xFDAA, 0xFDAA, [0x0634, 0x062D, 0x064A]),
    (0xFDAB, 0xFDAB, [0x0636, 0x062D, 0x064A]), (0xFDAC, 0xFDAC, [0x0644, 0x062C, 0x064A]),
    (0xFDAD, 0xFDAD, [0x0644, 0x0645, 0x064A]), (0xFDAE, 0xFDAE, [0x064A, 0x062D, 0x064A]),
    (0xFDAF, 0xFDAF, [0x064A, 0x062C, 0x064A]), (0xFDB0, 0xFDB0, [0x064A, 0x0645, 0x064A]),
    (0xFDB1, 0xFDB1, [0x0645, 0x0645, 0x064A]), (0xFDB2, 0xFDB2, [0x0642, 0x0645, 0x064A]),
    (0xFDB3, 0xFDB3, [0x0646, 0x062D, 0x064A]), (0xFDB4, 0xFDB4, [0x0642, 0x0645, 0x062D]),
    (0xFDB5, 0xFDB5, [0x0644, 0x062D, 0x0645]), (0xFDB6, 0xFDB6, [0x0639, 0x0645, 0x064A]),
    (0xFDB7, 0xFDB7, [0x0643, 0x0645, 0x064A]), (0xFDB8, 0xFDB8, [0x0646, 0x062C, 0x062D]),
    (0xFDB9, 0xFDB9, [0x0645, 0x062E, 0x064A]), (0xFDBA, 0xFDBA, [0x0644, 0x062C, 0x0645])]

/-- Rows of the table, ordered by code point. -/
def partF : List Row := [
    (0xFDBB, 0xFDBB, [0x0643, 0x0645, 0x0645]), (0xFDBC, 0xFDBC, [0x0644, 0x062C, 0x0645]),
    (0xFDBD, 0xFDBD, [0x0646, 0x062C, 0x062D]), (0xFDBE, 0xFDBE, [0x062C, 0x062D, 0x064A]),
    (0xFDBF, 0xFDBF, [0x062D, 0x062C, 0x064A]), (0xFDC0, 0xFDC0, [0x0645, 0x062C, 0x064A]),
    (0xFDC1, 0xFDC1, [0x0641, 0x0645, 0x064A]), (0xFDC2, 0xFDC2, [0x0628, 0x062D, 0x064A]),
    (0xFDC3, 0xFDC3, [0x0643, 0x0645, 0x0645]), (0xFDC4, 0xFDC4, [0x0639, 0x062C, 0x0645]),
    (0xFDC5, 0xFDC5, [0x0635, 0x0645, 0x0645]), (0xFDC6, 0xFDC6, [0x0633, 0x062E, 0x064A]),
    (0xFDC7, 0xFDC7, [0x0646, 0x062C, 0x064A]), (0xFDF0, 0xFDF0, [0x0635, 0x0644, 0x06D2]),
    (0xFDF1, 0xFDF1, [0x0642, 0x0644, 0x06D2]),
    (0xFDF2, 0xFDF2, [0x0627, 0x0644, 0x0644, 0x0647]),
    (0xFDF3, 0xFDF3, [0x0627, 0x0643, 0x0628, 0x0631]),
    (0xFDF4, 0xFDF4, [0x0645, 0x062D, 0x0645, 0x062F]),
    (0xFDF5, 0xFDF5, [0x0635, 0x0644, 0x0639, 0x0645]),
    (0xFDF6, 0xFDF6, [0x0631, 0x0633, 0x0648, 0x0644]),
    (0xFDF7, 0xFDF7, [0x0639, 0x0644, 0x064A, 0x0647]),
    (0xFDF8, 0xFDF8, [0x0648, 0x0633, 0x0644, 0x0645]),
    (0xFDF9, 0xFDF9, [0x0635, 0x0644, 0x0649]),
    (0xFDFA, 0xFDFA, [0x0635, 0x0644, 0x0649, 0x0020, 0x0627, 0x0644, 0x0644, 0x0647, 0x0020,
      0x0639, 0x0644, 0x064A, 0x0647, 0x0020, 0x0648, 0x0633, 0x0644, 0x0645]),
    (0xFDFB, 0xFDFB, [0x062C, 0x0644, 0x0020, 0x062C, 0x0644, 0x0627, 0x0644, 0x0647]),
    (0xFDFC, 0xFDFC, [0x0631, 0x06CC, 0x0627, 0x0644])]

/-- All rows of this part of the code space. -/
def rows : List Row :=
  partA ++ partB ++ partC ++ partD ++ partE ++ partF

end CommandPrompt.Text.NormalForm.Presentation
