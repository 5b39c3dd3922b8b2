import LineArithmetic.Charset.Table

/-!
# Windows code pages

The character sets of Windows: ASCII with letters of one group of languages
in the upper half.
-/

namespace LineArithmetic.Charset.Windows

/-- Central European. -/
def windows1250 : Table where
  spans := [⟨0x00, 128, 0x0000⟩]
  runs := [
    ⟨0x80, "€"⟩, ⟨0x82, "‚"⟩, ⟨0x84, "„…†‡"⟩, ⟨0x89, "‰Š‹ŚŤŽŹ"⟩, ⟨0x91, "‘’“”•–—"⟩,
    ⟨0x99, "™š›śťžź\xa0ˇ˘Ł¤Ą¦§¨©Ş«¬\xad®Ż°±˛ł´µ¶·¸ąş»Ľ˝ľżŔÁÂĂÄĹĆÇČÉ"⟩,
    ⟨0xCA, "ĘËĚÍÎĎĐŃŇÓÔŐÖ×ŘŮÚŰÜÝŢßŕáâăäĺćçčéęëěíîďđńňóôőö÷řůúűüýţ˙"⟩]

/-- Cyrillic. -/
def windows1251 : Table where
  spans := [⟨0x00, 128, 0x0000⟩, ⟨0xC0, 64, 0x0410⟩]
  runs := [
    ⟨0x80, "ЂЃ‚ѓ„…†‡€‰Љ‹ЊЌЋЏђ‘’“”•–—"⟩, ⟨0x99, "™љ›њќћџ\xa0ЎўЈ¤Ґ¦§Ё©Є«¬\xad®Ї°±Ііґµ¶·ё№є»јЅѕї"⟩]

/-- Western European. -/
def windows1252 : Table where
  spans := [⟨0x00, 128, 0x0000⟩, ⟨0xA0, 96, 0x00A0⟩]
  runs := [⟨0x80, "€"⟩, ⟨0x82, "‚ƒ„…†‡ˆ‰Š‹Œ"⟩, ⟨0x8E, "Ž"⟩, ⟨0x91, "‘’“”•–—˜™š›œ"⟩, ⟨0x9E, "žŸ"⟩]

/-- Greek. -/
def windows1253 : Table where
  spans := [⟨0x00, 128, 0x0000⟩, ⟨0xBE, 20, 0x038E⟩, ⟨0xD3, 44, 0x03A3⟩]
  runs := [
    ⟨0x80, "€"⟩, ⟨0x82, "‚ƒ„…†‡"⟩, ⟨0x89, "‰"⟩, ⟨0x8B, "‹"⟩, ⟨0x91, "‘’“”•–—"⟩, ⟨0x99, "™"⟩,
    ⟨0x9B, "›"⟩, ⟨0xA0, "\xa0΅Ά£¤¥¦§¨©"⟩, ⟨0xAB, "«¬\xad®―°±²³΄µ¶·ΈΉΊ»Ό½"⟩]

/-- Turkish. -/
def windows1254 : Table where
  spans := [
    ⟨0x00, 128, 0x0000⟩, ⟨0xA0, 48, 0x00A0⟩, ⟨0xD1, 12, 0x00D1⟩, ⟨0xDF, 17, 0x00DF⟩,
    ⟨0xF1, 12, 0x00F1⟩]
  runs := [
    ⟨0x80, "€"⟩, ⟨0x82, "‚ƒ„…†‡ˆ‰Š‹Œ"⟩, ⟨0x91, "‘’“”•–—˜™š›œ"⟩, ⟨0x9F, "Ÿ"⟩, ⟨0xD0, "Ğ"⟩,
    ⟨0xDD, "İŞ"⟩, ⟨0xF0, "ğ"⟩, ⟨0xFD, "ışÿ"⟩]

/-- Hebrew. -/
def windows1255 : Table where
  spans := [
    ⟨0x00, 128, 0x0000⟩, ⟨0xAB, 15, 0x00AB⟩, ⟨0xC0, 10, 0x05B0⟩, ⟨0xCB, 9, 0x05BB⟩,
    ⟨0xD4, 5, 0x05F0⟩, ⟨0xE0, 27, 0x05D0⟩]
  runs := [
    ⟨0x80, "€"⟩, ⟨0x82, "‚ƒ„…†‡ˆ‰"⟩, ⟨0x8B, "‹"⟩, ⟨0x91, "‘’“”•–—˜™"⟩, ⟨0x9B, "›"⟩,
    ⟨0xA0, "\xa0¡¢£₪¥¦§¨©×"⟩, ⟨0xBA, "÷»¼½¾¿"⟩, ⟨0xFD, "\u200e\u200f"⟩]

/-- Arabic. -/
def windows1256 : Table where
  spans := [
    ⟨0x00, 128, 0x0000⟩, ⟨0xA2, 8, 0x00A2⟩, ⟨0xAB, 15, 0x00AB⟩, ⟨0xC1, 22, 0x0621⟩,
    ⟨0xD8, 4, 0x0637⟩, ⟨0xDC, 4, 0x0640⟩, ⟨0xE3, 4, 0x0645⟩]
  runs := [
    ⟨0x80, "€\u067e‚ƒ„…†‡ˆ‰\u0679‹Œ\u0686\u0698\u0688\u06af"⟩,
    ⟨0x91, "‘’“”•–—\u06a9™\u0691›œ\u200c\u200d\u06ba\xa0،"⟩, ⟨0xAA, "\u06be"⟩,
    ⟨0xBA, "\u061b»¼½¾\u061f\u06c1"⟩, ⟨0xD7, "×"⟩, ⟨0xE0, "à\u0644â"⟩,
    ⟨0xE7, "çèéêë\u0649\u064aîï\u064b\u064c\u064d\u064eô\u064f"⟩,
    ⟨0xF6, "\u0650÷\u0651ù\u0652ûü\u200e\u200f\u06d2"⟩]

/-- Baltic. -/
def windows1257 : Table where
  spans := [⟨0x00, 128, 0x0000⟩, ⟨0xB0, 8, 0x00B0⟩]
  runs := [
    ⟨0x80, "€"⟩, ⟨0x82, "‚"⟩, ⟨0x84, "„…†‡"⟩, ⟨0x89, "‰"⟩, ⟨0x8B, "‹"⟩, ⟨0x8D, "¨ˇ¸"⟩,
    ⟨0x91, "‘’“”•–—"⟩, ⟨0x99, "™"⟩, ⟨0x9B, "›"⟩, ⟨0x9D, "¯˛"⟩, ⟨0xA0, "\xa0"⟩, ⟨0xA2, "¢£¤"⟩,
    ⟨0xA6, "¦§Ø©Ŗ«¬\xad®Æ"⟩,
    ⟨0xB8, "ø¹ŗ»¼½¾æĄĮĀĆÄÅĘĒČÉŹĖĢĶĪĻŠŃŅÓŌÕÖ×ŲŁŚŪÜŻŽßąįāćäåęēčéźėģķīļšńņóōõö÷ųłśūüżž˙"⟩]

/-- Vietnamese. -/
def windows1258 : Table where
  spans := [⟨0x00, 128, 0x0000⟩, ⟨0xA0, 35, 0x00A0⟩, ⟨0xC4, 8, 0x00C4⟩, ⟨0xE4, 8, 0x00E4⟩]
  runs := [
    ⟨0x80, "€"⟩, ⟨0x82, "‚ƒ„…†‡ˆ‰"⟩, ⟨0x8B, "‹Œ"⟩, ⟨0x91, "‘’“”•–—˜™"⟩, ⟨0x9B, "›œ"⟩, ⟨0x9F, "Ÿ"⟩,
    ⟨0xC3, "Ă"⟩, ⟨0xCC, "\u0300ÍÎÏĐÑ\u0309ÓÔƠÖ×ØÙÚÛÜƯ\u0303ßàáâă"⟩,
    ⟨0xEC, "\u0301íîïđñ\u0323óôơö÷øùúûüư₫ÿ"⟩]

/-- Thai. -/
def windows874 : Table where
  spans := [⟨0x00, 128, 0x0000⟩, ⟨0xA1, 58, 0x0E01⟩, ⟨0xDF, 29, 0x0E3F⟩]
  runs := [⟨0x80, "€"⟩, ⟨0x85, "…"⟩, ⟨0x91, "‘’“”•–—"⟩, ⟨0xA0, "\xa0"⟩]

end LineArithmetic.Charset.Windows
