import LineArithmetic.Charset.Table

/-!
# Other eight bit character sets

National standards and the character sets of single makers.
-/

namespace LineArithmetic.Charset.National

/-- Russian. -/
def koi8R : Table where
  spans := [
    ⟨0x00, 128, 0x0000⟩, ⟨0xA4, 15, 0x2553⟩, ⟨0xB4, 11, 0x2562⟩, ⟨0xC9, 8, 0x0438⟩,
    ⟨0xE9, 8, 0x0418⟩]
  runs := [
    ⟨0x80, "─│┌┐└┘├┤┬┴┼▀▄█▌▐░▒▓⌠■∙√≈≤≥\xa0⌡°²·÷═║╒ё"⟩, ⟨0xB3, "Ё"⟩, ⟨0xBF, "©юабцдефгх"⟩,
    ⟨0xD1, "ярстужвьызшэщчъЮАБЦДЕФГХ"⟩, ⟨0xF1, "ЯРСТУЖВЬЫЗШЭЩЧЪ"⟩]

/-- Tajik. -/
def koi8T : Table where
  spans := [⟨0x00, 128, 0x0000⟩, ⟨0xC9, 8, 0x0438⟩, ⟨0xE9, 8, 0x0418⟩]
  runs := [
    ⟨0x80, "қғ‚Ғ„…†‡"⟩, ⟨0x89, "‰ҳ‹ҲҷҶ"⟩, ⟨0x90, "Қ‘’“”•–—"⟩, ⟨0x99, "™"⟩, ⟨0x9B, "›"⟩,
    ⟨0xA1, "ӯӮё¤ӣ¦§"⟩, ⟨0xAB, "«¬\xad®"⟩, ⟨0xB0, "°±²Ё"⟩, ⟨0xB5, "Ӣ¶·"⟩, ⟨0xB9, "№"⟩, ⟨0xBB, "»"⟩,
    ⟨0xBF, "©юабцдефгх"⟩, ⟨0xD1, "ярстужвьызшэщчъЮАБЦДЕФГХ"⟩, ⟨0xF1, "ЯРСТУЖВЬЫЗШЭЩЧЪ"⟩]

/-- Ukrainian. -/
def koi8U : Table where
  spans := [⟨0x00, 128, 0x0000⟩, ⟨0xC9, 8, 0x0438⟩, ⟨0xE9, 8, 0x0418⟩]
  runs := [
    ⟨0x80, "─│┌┐└┘├┤┬┴┼▀▄█▌▐░▒▓⌠■∙√≈≤≥\xa0⌡°²·÷═║╒ёє╔ії╗╘╙╚╛ґ╝╞╟╠╡ЁЄ╣ІЇ╦╧╨╩╪Ґ╬©юабцдефгх"⟩,
    ⟨0xD1, "ярстужвьызшэщчъЮАБЦДЕФГХ"⟩, ⟨0xF1, "ЯРСТУЖВЬЫЗШЭЩЧЪ"⟩]

/-- Kazakh. -/
def kz1048 : Table where
  spans := [⟨0x00, 128, 0x0000⟩, ⟨0xC0, 64, 0x0410⟩]
  runs := [
    ⟨0x80, "ЂЃ‚ѓ„…†‡€‰Љ‹ЊҚҺЏђ‘’“”•–—"⟩, ⟨0x99, "™љ›њқһџ\xa0ҰұӘ¤Ө¦§Ё©Ғ«¬\xad®Ү°±Ііөµ¶·ё№ғ»әҢңү"⟩]

/-- Cyrillic of Asia. -/
def ptcp154 : Table where
  spans := [⟨0x00, 128, 0x0000⟩, ⟨0xC0, 64, 0x0410⟩]
  runs := [⟨0x80, "ҖҒӮғ„…ҶҮҲүҠӢҢҚҺҸҗ‘’“”•–—ҳҷҡӣңқһҹ\xa0ЎўЈӨҘҰ§Ё©Ә«¬ӯ®Ҝ°ұІіҙө¶·ё№ә»јҪҫҝ"⟩]

/-- Western European, of HP. -/
def roman8 : Table where
  spans := [⟨0x00, 161, 0x0000⟩]
  runs := [
    ⟨0xA1, "ÀÂÈÊËÎÏ´ˋˆ¨˜ÙÛ₤¯Ýý°ÇçÑñ¡¿¤£¥§ƒ¢âêôûáéóúàèòùäëöü"⟩,
    ⟨0xD0, "ÅîØÆåíøæÄìÖÜÉïßÔÁÃãÐðÍÌÓÒÕõŠšÚŸÿÞþ·µ¶¾—¼½ªº«■»±"⟩]

/-- Western European, of Palm. -/
def palm : Table where
  spans := [⟨0x00, 128, 0x0000⟩, ⟨0xA0, 96, 0x00A0⟩]
  runs := [⟨0x80, "€\x81‚ƒ„…†‡ˆ‰Š‹Œ♦♣♥♠‘’“”•–—˜™š\x9bœ\x9d\x9eŸ"⟩]

/-- Thai. -/
def tis620 : Table where
  spans := [⟨0x00, 160, 0x0000⟩, ⟨0xA1, 58, 0x0E01⟩, ⟨0xDF, 29, 0x0E3F⟩]
  runs := []

end LineArithmetic.Charset.National
