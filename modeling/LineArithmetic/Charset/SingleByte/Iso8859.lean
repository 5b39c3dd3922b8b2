import LineArithmetic.Charset.Table

/-!
# ISO 8859

The parts of the standard beyond the first: ASCII, the upper controls, and
letters of one group of languages.
-/

namespace LineArithmetic.Charset.Iso8859

/-- Central European. -/
def part2 : Table where
  spans := [⟨0x00, 161, 0x0000⟩]
  runs := [
    ⟨0xA1, "Ą˘Ł¤ĽŚ§¨ŠŞŤŹ\xadŽŻ°ą˛ł´ľśˇ¸šşťź˝žżŔÁÂĂÄĹĆÇČÉĘËĚÍÎ"⟩,
    ⟨0xCF, "ĎĐŃŇÓÔŐÖ×ŘŮÚŰÜÝŢßŕáâăäĺćçčéęëěíîďđńňóôőö÷řůúűüýţ˙"⟩]

/-- South European. -/
def part3 : Table where
  spans := [⟨0x00, 161, 0x0000⟩, ⟨0xC7, 9, 0x00C7⟩, ⟨0xE7, 9, 0x00E7⟩]
  runs := [
    ⟨0xA1, "Ħ˘£¤"⟩, ⟨0xA6, "Ĥ§¨İŞĞĴ\xad"⟩, ⟨0xAF, "Ż°ħ²³´µĥ·¸ışğĵ½"⟩, ⟨0xBF, "żÀÁÂ"⟩, ⟨0xC4, "ÄĊĈ"⟩,
    ⟨0xD1, "ÑÒÓÔĠÖ×ĜÙÚÛÜŬŜßàáâ"⟩, ⟨0xE4, "äċĉ"⟩, ⟨0xF1, "ñòóôġö÷ĝùúûüŭŝ˙"⟩]

/-- North European. -/
def part4 : Table where
  spans := [⟨0x00, 161, 0x0000⟩]
  runs := [
    ⟨0xA1, "ĄĸŖ¤ĨĻ§¨ŠĒĢŦ\xadŽ¯°ą˛ŗ´ĩļˇ¸šēģŧŊžŋĀÁÂÃÄÅÆĮČÉĘËĖÍÎ"⟩,
    ⟨0xCF, "ĪĐŅŌĶÔÕÖ×ØŲÚÛÜŨŪßāáâãäåæįčéęëėíîīđņōķôõö÷øųúûüũū˙"⟩]

/-- Cyrillic. -/
def part5 : Table where
  spans := [⟨0x00, 161, 0x0000⟩, ⟨0xA1, 12, 0x0401⟩, ⟨0xAE, 66, 0x040E⟩, ⟨0xF1, 12, 0x0451⟩]
  runs := [⟨0xAD, "\xad"⟩, ⟨0xF0, "№"⟩, ⟨0xFD, "§ўџ"⟩]

/-- Arabic. -/
def part6 : Table where
  spans := [⟨0x00, 161, 0x0000⟩, ⟨0xC1, 26, 0x0621⟩, ⟨0xE0, 19, 0x0640⟩]
  runs := [⟨0xA4, "¤"⟩, ⟨0xAC, "،\xad"⟩, ⟨0xBB, "\u061b"⟩, ⟨0xBF, "\u061f"⟩]

/-- Greek. -/
def part7 : Table where
  spans := [⟨0x00, 161, 0x0000⟩, ⟨0xBE, 20, 0x038E⟩, ⟨0xD3, 44, 0x03A3⟩]
  runs := [⟨0xA1, "‘’£€₯¦§¨©ͺ«¬\xad"⟩, ⟨0xAF, "―°±²³΄΅Ά·ΈΉΊ»Ό½"⟩]

/-- Hebrew. -/
def part8 : Table where
  spans := [⟨0x00, 161, 0x0000⟩, ⟨0xA2, 8, 0x00A2⟩, ⟨0xAB, 15, 0x00AB⟩, ⟨0xE0, 27, 0x05D0⟩]
  runs := [⟨0xAA, "×"⟩, ⟨0xBA, "÷»¼½¾"⟩, ⟨0xDF, "‗"⟩, ⟨0xFD, "\u200e\u200f"⟩]

/-- Turkish. -/
def part9 : Table where
  spans := [⟨0x00, 208, 0x0000⟩, ⟨0xD1, 12, 0x00D1⟩, ⟨0xDF, 17, 0x00DF⟩, ⟨0xF1, 12, 0x00F1⟩]
  runs := [⟨0xD0, "Ğ"⟩, ⟨0xDD, "İŞ"⟩, ⟨0xF0, "ğ"⟩, ⟨0xFD, "ışÿ"⟩]

/-- Nordic. -/
def part10 : Table where
  spans := [⟨0x00, 161, 0x0000⟩]
  runs := [
    ⟨0xA1, "ĄĒĢĪĨĶ§ĻĐŠŦŽ\xadŪŊ°ąēģīĩķ·ļđšŧž―ūŋĀÁÂÃÄÅÆĮČÉĘËĖÍÎ"⟩,
    ⟨0xCF, "ÏÐŅŌÓÔÕÖŨØŲÚÛÜÝÞßāáâãäåæįčéęëėíîïðņōóôõöũøųúûüýþĸ"⟩]

/-- Thai. -/
def part11 : Table where
  spans := [⟨0x00, 161, 0x0000⟩, ⟨0xA1, 58, 0x0E01⟩, ⟨0xDF, 29, 0x0E3F⟩]
  runs := []

/-- Baltic. -/
def part13 : Table where
  spans := [⟨0x00, 161, 0x0000⟩]
  runs := [
    ⟨0xA1, "”¢£¤„¦§Ø©Ŗ«¬\xad®Æ°±²³“µ¶·ø¹ŗ»¼½¾æĄĮĀĆÄÅĘĒČÉŹĖĢĶĪ"⟩,
    ⟨0xCF, "ĻŠŃŅÓŌÕÖ×ŲŁŚŪÜŻŽßąįāćäåęēčéźėģķīļšńņóōõö÷ųłśūüżž’"⟩]

/-- Celtic. -/
def part14 : Table where
  spans := [⟨0x00, 161, 0x0000⟩, ⟨0xC0, 16, 0x00C0⟩, ⟨0xDF, 17, 0x00DF⟩]
  runs := [
    ⟨0xA1, "Ḃḃ£ĊċḊ§Ẁ©ẂḋỲ\xad®ŸḞḟĠġṀṁ¶ṖẁṗẃṠỳẄẅṡ"⟩, ⟨0xD0, "ŴÑÒÓÔÕÖṪØÙÚÛÜÝŶ"⟩,
    ⟨0xF0, "ŵñòóôõöṫøùúûüýŷÿ"⟩]

/-- Western European with the euro. -/
def part15 : Table where
  spans := [⟨0x00, 164, 0x0000⟩, ⟨0xA9, 11, 0x00A9⟩, ⟨0xBF, 65, 0x00BF⟩]
  runs := [⟨0xA4, "€¥Š§š"⟩, ⟨0xB4, "Žµ¶·ž¹º»ŒœŸ"⟩]

/-- South-East European. -/
def part16 : Table where
  spans := [⟨0x00, 161, 0x0000⟩, ⟨0xC6, 10, 0x00C6⟩, ⟨0xE6, 10, 0x00E6⟩]
  runs := [
    ⟨0xA1, "ĄąŁ€„Š§š©Ș«Ź\xadźŻ°±ČłŽ”¶·žčș»ŒœŸżÀÁÂĂÄĆ"⟩, ⟨0xD0, "ĐŃÒÓÔŐÖŚŰÙÚÛÜĘȚßàáâăäć"⟩,
    ⟨0xF0, "đńòóôőöśűùúûüęțÿ"⟩]

end LineArithmetic.Charset.Iso8859
