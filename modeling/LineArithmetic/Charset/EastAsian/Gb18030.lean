import LineArithmetic.Charset.Table

/-!
# GB 18030

What GB 18030 adds to GBK: characters of two bytes, and of four bytes all others
in their order.
-/

namespace LineArithmetic.Charset.EastAsian

/-- The additions of two bytes. -/
def gb18030Extension : Table where
  spans := [
    ⟨0xA140, 63, 0xE4C6⟩, ⟨0xA180, 33, 0xE505⟩, ⟨0xA240, 63, 0xE526⟩, ⟨0xA280, 33, 0xE565⟩,
    ⟨0xA2AB, 6, 0xE766⟩, ⟨0xA340, 63, 0xE586⟩, ⟨0xA380, 33, 0xE5C5⟩, ⟨0xA440, 63, 0xE5E6⟩,
    ⟨0xA480, 33, 0xE625⟩, ⟨0xA4F4, 11, 0xE772⟩, ⟨0xA540, 63, 0xE646⟩, ⟨0xA580, 33, 0xE685⟩,
    ⟨0xA5F7, 8, 0xE77D⟩, ⟨0xA640, 63, 0xE6A6⟩, ⟨0xA680, 33, 0xE6E5⟩, ⟨0xA6B9, 8, 0xE785⟩,
    ⟨0xA6D9, 7, 0xE78D⟩, ⟨0xA6F6, 9, 0xE797⟩, ⟨0xA740, 63, 0xE706⟩, ⟨0xA780, 33, 0xE745⟩,
    ⟨0xA7C2, 15, 0xE7A0⟩, ⟨0xA7F2, 13, 0xE7AF⟩, ⟨0xA896, 11, 0xE7BC⟩, ⟨0xA8C1, 4, 0xE7C9⟩,
    ⟨0xA8EA, 21, 0xE7CD⟩, ⟨0xA95D, 3, 0xE7E4⟩, ⟨0xA98A, 12, 0x2FF0⟩, ⟨0xA997, 13, 0xE7F4⟩,
    ⟨0xA9F0, 15, 0xE801⟩, ⟨0xAAA1, 94, 0xE000⟩, ⟨0xABA1, 94, 0xE05E⟩, ⟨0xACA1, 94, 0xE0BC⟩,
    ⟨0xADA1, 94, 0xE11A⟩, ⟨0xAEA1, 94, 0xE178⟩, ⟨0xAFA1, 94, 0xE1D6⟩, ⟨0xD7FA, 5, 0xE810⟩,
    ⟨0xF8A1, 94, 0xE234⟩, ⟨0xF9A1, 94, 0xE292⟩, ⟨0xFAA1, 94, 0xE2F0⟩, ⟨0xFBA1, 94, 0xE34E⟩,
    ⟨0xFCA1, 94, 0xE3AC⟩, ⟨0xFDA1, 94, 0xE40A⟩, ⟨0xFE51, 3, 0xE816⟩, ⟨0xFE93, 3, 0x4C9F⟩,
    ⟨0xFE98, 7, 0x4D13⟩, ⟨0xFEA1, 94, 0xE468⟩]
  runs := [
    ⟨0xA2E3, "€\ue76d"⟩, ⟨0xA2EF, "\ue76e\ue76f"⟩, ⟨0xA2FD, "\ue770\ue771"⟩,
    ⟨0xA6EC, "\ue794\ue795"⟩, ⟨0xA6F3, "\ue796"⟩, ⟨0xA8BC, "\ue7c7"⟩, ⟨0xA8BF, "ǹ"⟩,
    ⟨0xA958, "\ue7e2"⟩, ⟨0xA95B, "\ue7e3"⟩, ⟨0xA989, "〾"⟩, ⟨0xFE50, "⺁"⟩,
    ⟨0xFE54, "⺄㑳㑇⺈⺋\ue81e㖞㘚㘎⺌⺗㥮㤘\ue826㧏㧟㩳㧐\ue82b\ue82c㭎㱮"⟩,
    ⟨0xFE6A, "㳠⺧\ue831\ue832⺪䁖䅟⺮䌷⺳⺶⺷\ue83b䎱䎬⺻䏝䓖䙡䙌\ue843"⟩,
    ⟨0xFE80, "䜣䜩䝼䞍⻊䥇䥺䥽䦂䦃䦅䦆䦟䦛䦷䦶\ue854\ue855䲣"⟩, ⟨0xFE96, "䱷䲢"⟩,
    ⟨0xFE9F, "䶮\ue864"⟩]

/-- The characters of four bytes up to the last one of two bytes in UTF-16, by the
number that the bytes spell. -/
def gb18030Ranges : Table where
  spans := [
    ⟨0x0000, 36, 0x0080⟩, ⟨0x0024, 2, 0x00A5⟩, ⟨0x0026, 7, 0x00A9⟩, ⟨0x002D, 5, 0x00B2⟩,
    ⟨0x0032, 31, 0x00B8⟩, ⟨0x0051, 8, 0x00D8⟩, ⟨0x0059, 6, 0x00E2⟩, ⟨0x005F, 1, 0x00EB⟩,
    ⟨0x0060, 4, 0x00EE⟩, ⟨0x0064, 3, 0x00F4⟩, ⟨0x0067, 1, 0x00F8⟩, ⟨0x0068, 1, 0x00FB⟩,
    ⟨0x0069, 4, 0x00FD⟩, ⟨0x006D, 17, 0x0102⟩, ⟨0x007E, 7, 0x0114⟩, ⟨0x0085, 15, 0x011C⟩,
    ⟨0x0094, 24, 0x012C⟩, ⟨0x00AC, 3, 0x0145⟩, ⟨0x00AF, 4, 0x0149⟩, ⟨0x00B3, 29, 0x014E⟩,
    ⟨0x00D0, 98, 0x016C⟩, ⟨0x0132, 1, 0x01CF⟩, ⟨0x0133, 1, 0x01D1⟩, ⟨0x0134, 1, 0x01D3⟩,
    ⟨0x0135, 1, 0x01D5⟩, ⟨0x0136, 1, 0x01D7⟩, ⟨0x0137, 1, 0x01D9⟩, ⟨0x0138, 1, 0x01DB⟩,
    ⟨0x0139, 28, 0x01DD⟩, ⟨0x0155, 87, 0x01FA⟩, ⟨0x01AC, 15, 0x0252⟩, ⟨0x01BB, 101, 0x0262⟩,
    ⟨0x0220, 1, 0x02C8⟩, ⟨0x0221, 13, 0x02CC⟩, ⟨0x022E, 183, 0x02DA⟩, ⟨0x02E5, 1, 0x03A2⟩,
    ⟨0x02E6, 7, 0x03AA⟩, ⟨0x02ED, 1, 0x03C2⟩, ⟨0x02EE, 55, 0x03CA⟩, ⟨0x0325, 14, 0x0402⟩,
    ⟨0x0333, 1, 0x0450⟩, ⟨0x0334, 7102, 0x0452⟩, ⟨0x1EF2, 2, 0x2011⟩, ⟨0x1EF4, 1, 0x2017⟩,
    ⟨0x1EF5, 2, 0x201A⟩, ⟨0x1EF7, 7, 0x201E⟩, ⟨0x1EFE, 9, 0x2027⟩, ⟨0x1F07, 1, 0x2031⟩,
    ⟨0x1F08, 1, 0x2034⟩, ⟨0x1F09, 5, 0x2036⟩, ⟨0x1F0E, 112, 0x203C⟩, ⟨0x1F7E, 86, 0x20AD⟩,
    ⟨0x1FD4, 1, 0x2104⟩, ⟨0x1FD5, 3, 0x2106⟩, ⟨0x1FD8, 12, 0x210A⟩, ⟨0x1FE4, 10, 0x2117⟩,
    ⟨0x1FEE, 62, 0x2122⟩, ⟨0x202C, 4, 0x216C⟩, ⟨0x2030, 22, 0x217A⟩, ⟨0x2046, 2, 0x2194⟩,
    ⟨0x2048, 110, 0x219A⟩, ⟨0x20B6, 6, 0x2209⟩, ⟨0x20BC, 1, 0x2210⟩, ⟨0x20BD, 3, 0x2212⟩,
    ⟨0x20C0, 4, 0x2216⟩, ⟨0x20C4, 2, 0x221B⟩, ⟨0x20C6, 2, 0x2221⟩, ⟨0x20C8, 1, 0x2224⟩,
    ⟨0x20C9, 1, 0x2226⟩, ⟨0x20CA, 2, 0x222C⟩, ⟨0x20CC, 5, 0x222F⟩, ⟨0x20D1, 5, 0x2238⟩,
    ⟨0x20D6, 10, 0x223E⟩, ⟨0x20E0, 3, 0x2249⟩, ⟨0x20E3, 5, 0x224D⟩, ⟨0x20E8, 13, 0x2253⟩,
    ⟨0x20F5, 2, 0x2262⟩, ⟨0x20F7, 6, 0x2268⟩, ⟨0x20FD, 37, 0x2270⟩, ⟨0x2122, 3, 0x2296⟩,
    ⟨0x2125, 11, 0x229A⟩, ⟨0x2130, 25, 0x22A6⟩, ⟨0x2149, 82, 0x22C0⟩, ⟨0x219B, 333, 0x2313⟩,
    ⟨0x22E8, 10, 0x246A⟩, ⟨0x22F2, 100, 0x249C⟩, ⟨0x2356, 4, 0x254C⟩, ⟨0x235A, 13, 0x2574⟩,
    ⟨0x2367, 3, 0x2590⟩, ⟨0x236A, 10, 0x2596⟩, ⟨0x2374, 16, 0x25A2⟩, ⟨0x2384, 8, 0x25B4⟩,
    ⟨0x238C, 8, 0x25BE⟩, ⟨0x2394, 3, 0x25C8⟩, ⟨0x2397, 2, 0x25CC⟩, ⟨0x2399, 18, 0x25D0⟩,
    ⟨0x23AB, 31, 0x25E6⟩, ⟨0x23CA, 2, 0x2607⟩, ⟨0x23CC, 54, 0x260A⟩, ⟨0x2402, 1, 0x2641⟩,
    ⟨0x2403, 2110, 0x2643⟩, ⟨0x2C41, 2, 0x2E82⟩, ⟨0x2C43, 3, 0x2E85⟩, ⟨0x2C46, 2, 0x2E89⟩,
    ⟨0x2C48, 10, 0x2E8D⟩, ⟨0x2C52, 15, 0x2E98⟩, ⟨0x2C61, 2, 0x2EA8⟩, ⟨0x2C63, 3, 0x2EAB⟩,
    ⟨0x2C66, 4, 0x2EAF⟩, ⟨0x2C6A, 2, 0x2EB4⟩, ⟨0x2C6C, 3, 0x2EB8⟩, ⟨0x2C6F, 14, 0x2EBC⟩,
    ⟨0x2C7D, 293, 0x2ECB⟩, ⟨0x2DA2, 4, 0x2FFC⟩, ⟨0x2DA6, 1, 0x3004⟩, ⟨0x2DA7, 5, 0x3018⟩,
    ⟨0x2DAC, 2, 0x301F⟩, ⟨0x2DAE, 20, 0x302A⟩, ⟨0x2DC2, 2, 0x303F⟩, ⟨0x2DC4, 7, 0x3094⟩,
    ⟨0x2DCB, 2, 0x309F⟩, ⟨0x2DCD, 5, 0x30F7⟩, ⟨0x2DD2, 6, 0x30FF⟩, ⟨0x2DD8, 246, 0x312A⟩,
    ⟨0x2ECE, 7, 0x322A⟩, ⟨0x2ED5, 113, 0x3232⟩, ⟨0x2F46, 234, 0x32A4⟩, ⟨0x3030, 12, 0x3390⟩,
    ⟨0x303C, 2, 0x339F⟩, ⟨0x303E, 34, 0x33A2⟩, ⟨0x3060, 9, 0x33C5⟩, ⟨0x3069, 2, 0x33CF⟩,
    ⟨0x306B, 2, 0x33D3⟩, ⟨0x306D, 113, 0x33D6⟩, ⟨0x30DE, 43, 0x3448⟩, ⟨0x3109, 298, 0x3474⟩,
    ⟨0x3233, 111, 0x359F⟩, ⟨0x32A2, 11, 0x360F⟩, ⟨0x32AD, 765, 0x361B⟩, ⟨0x35AA, 85, 0x3919⟩,
    ⟨0x35FF, 96, 0x396F⟩, ⟨0x365F, 14, 0x39D1⟩, ⟨0x366D, 147, 0x39E0⟩, ⟨0x3700, 218, 0x3A74⟩,
    ⟨0x37DA, 287, 0x3B4F⟩, ⟨0x38F9, 113, 0x3C6F⟩, ⟨0x396A, 885, 0x3CE1⟩, ⟨0x3CDF, 264, 0x4057⟩,
    ⟨0x3DE7, 471, 0x4160⟩, ⟨0x3FBE, 116, 0x4338⟩, ⟨0x4032, 4, 0x43AD⟩, ⟨0x4036, 43, 0x43B2⟩,
    ⟨0x4061, 248, 0x43DE⟩, ⟨0x4159, 373, 0x44D7⟩, ⟨0x42CE, 20, 0x464D⟩, ⟨0x42E2, 193, 0x4662⟩,
    ⟨0x43A3, 5, 0x4724⟩, ⟨0x43A8, 82, 0x472A⟩, ⟨0x43FA, 16, 0x477D⟩, ⟨0x440A, 441, 0x478E⟩,
    ⟨0x45C3, 50, 0x4948⟩, ⟨0x45F5, 2, 0x497B⟩, ⟨0x45F7, 4, 0x497E⟩, ⟨0x45FB, 1, 0x4984⟩,
    ⟨0x45FC, 20, 0x4987⟩, ⟨0x4610, 3, 0x499C⟩, ⟨0x4613, 22, 0x49A0⟩, ⟨0x4629, 703, 0x49B8⟩,
    ⟨0x48E8, 39, 0x4C78⟩, ⟨0x490F, 111, 0x4CA4⟩, ⟨0x497E, 148, 0x4D1A⟩, ⟨0x4A12, 81, 0x4DAF⟩,
    ⟨0x4A63, 14426, 0x9FA6⟩, ⟨0x82BD, 1, 0xE76C⟩, ⟨0x82BE, 1, 0xE7C8⟩, ⟨0x82BF, 13, 0xE7E7⟩,
    ⟨0x82CC, 1, 0xE815⟩, ⟨0x82CD, 5, 0xE819⟩, ⟨0x82D2, 7, 0xE81F⟩, ⟨0x82D9, 4, 0xE827⟩,
    ⟨0x82DD, 4, 0xE82D⟩, ⟨0x82E1, 8, 0xE833⟩, ⟨0x82E9, 7, 0xE83C⟩, ⟨0x82F0, 16, 0xE844⟩,
    ⟨0x8300, 14, 0xE856⟩, ⟨0x830E, 4295, 0xE865⟩, ⟨0x93D5, 76, 0xF92D⟩, ⟨0x9421, 27, 0xF97A⟩,
    ⟨0x943C, 81, 0xF996⟩, ⟨0x948D, 9, 0xF9E8⟩, ⟨0x9496, 26, 0xF9F2⟩, ⟨0x94B0, 1, 0xFA10⟩,
    ⟨0x94B1, 1, 0xFA12⟩, ⟨0x94B2, 3, 0xFA15⟩, ⟨0x94B5, 6, 0xFA19⟩, ⟨0x94BB, 1, 0xFA22⟩,
    ⟨0x94BC, 2, 0xFA25⟩, ⟨0x94BE, 1030, 0xFA2A⟩, ⟨0x98C4, 1, 0xFE32⟩, ⟨0x98C5, 4, 0xFE45⟩,
    ⟨0x98C9, 1, 0xFE53⟩, ⟨0x98CA, 1, 0xFE58⟩, ⟨0x98CB, 1, 0xFE67⟩, ⟨0x98CC, 149, 0xFE6C⟩,
    ⟨0x9961, 129, 0xFF5F⟩, ⟨0x99E2, 26, 0xFFE6⟩]
  runs := []

end LineArithmetic.Charset.EastAsian
