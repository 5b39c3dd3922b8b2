import LineArithmetic.Charset.Table

/-!
# Macintosh character sets

The character sets of the classic Macintosh: ASCII with letters of one group of
languages in the upper half.
-/

namespace LineArithmetic.Charset.Macintosh

/-- Arabic. -/
def arabic : Table where
  spans := [⟨0x00, 128, 0x0000⟩, ⟨0xB0, 10, 0x0660⟩, ⟨0xC1, 26, 0x0621⟩, ⟨0xE0, 19, 0x0640⟩]
  runs := [
    ⟨0x80, "Ä\xa0ÇÉÑÖÜáàâä\u06ba«çéèêëí…îïñó»ôö÷úùûü !\"#$٪&'()*+،-./"⟩,
    ⟨0xBA, ":\u061b<=>\u061f❊"⟩, ⟨0xDB, "[\\]^_"⟩,
    ⟨0xF3, "\u067e\u0679\u0686\u06d5\u06a4\u06af\u0688\u0691\x7b|\x7d\u0698\u06d2"⟩]

/-- Croatian. -/
def croatian : Table where
  spans := [⟨0x00, 128, 0x0000⟩]
  runs := [
    ⟨0x80, "ÄÅÇÉÑÖÜáàâäãåçéèêëíìîïñóòôöõúùûü†°¢£§•¶ß®Š™´¨≠ŽØ∞±≤≥∆µ∂∑∏š∫ªºΩžø¿¡¬√"⟩,
    ⟨0xC4, "ƒ≈Ć«Č…\xa0ÀÃÕŒœĐ—“”‘’÷◊\uf8ff©⁄€‹›Æ»–·‚„‰ÂćÁčÈÍÎÏÌÓÔđÒÚÛÙıˆ˜¯πË˚¸Êæˇ"⟩]

/-- Cyrillic. -/
def cyrillic : Table where
  spans := [⟨0x00, 128, 0x0000⟩, ⟨0x80, 32, 0x0410⟩, ⟨0xE0, 31, 0x0430⟩]
  runs := [
    ⟨0xA0, "†°Ґ£§•¶І®©™Ђђ≠Ѓѓ∞±≤≥іµґЈЄєЇїЉљЊњјЅ¬√ƒ≈∆«»…\xa0ЋћЌќѕ–—“”‘’÷„ЎўЏџ№Ёёя"⟩, ⟨0xFF, "€"⟩]

/-- Farsi. -/
def farsi : Table where
  spans := [⟨0x00, 128, 0x0000⟩, ⟨0xB0, 10, 0x06F0⟩, ⟨0xC1, 26, 0x0621⟩, ⟨0xE0, 19, 0x0640⟩]
  runs := [
    ⟨0x80, "Ä\xa0ÇÉÑÖÜáàâä\u06ba«çéèêëí…îïñó»ôö÷úùûü !\"#$٪&'()*+،-./"⟩,
    ⟨0xBA, ":\u061b<=>\u061f❊"⟩, ⟨0xDB, "[\\]^_"⟩,
    ⟨0xF3, "\u067e\u0679\u0686\u06d5\u06a4\u06af\u0688\u0691\x7b|\x7d\u0698\u06d2"⟩]

/-- Greek. -/
def greek : Table where
  spans := [⟨0x00, 128, 0x0000⟩]
  runs := [
    ⟨0x80, "Ä¹²É³ÖÜ΅àâä΄¨çéèêë£™îï•½‰ôö¦€ùûü†ΓΔΘΛΞΠß®©ΣΪ§≠°·Α±≤≥¥ΒΕΖΗΙΚΜΦΫΨΩάΝ¬"⟩,
    ⟨0xC3, "ΟΡ≈Τ«»…\xa0ΥΧΆΈœ–―“”‘’÷ΉΊΌΎέήίόΏύαβψδεφγηιξκλμνοπώρστθωςχυζϊϋΐΰ\xad"⟩]

/-- Icelandic. -/
def iceland : Table where
  spans := [⟨0x00, 128, 0x0000⟩]
  runs := [
    ⟨0x80, "ÄÅÇÉÑÖÜáàâäãåçéèêëíìîïñóòôöõúùûüÝ°¢£§•¶ß®©™´¨≠ÆØ∞±≤≥¥µ∂∑∏π∫ªºΩæø¿¡¬√"⟩,
    ⟨0xC4, "ƒ≈∆«»…\xa0ÀÃÕŒœ–—“”‘’÷◊ÿŸ⁄€ÐðÞþý·‚„‰ÂÊÁËÈÍÎÏÌÓÔ\uf8ffÒÚÛÙıˆ˜¯˘˙˚¸˝˛ˇ"⟩]

/-- Central European. -/
def latin2 : Table where
  spans := [⟨0x00, 128, 0x0000⟩]
  runs := [
    ⟨0x80, "ÄĀāÉĄÖÜáąČäčĆćéŹźĎíďĒēĖóėôöõúĚěü†°Ę£§•¶ß®©™ę¨≠ģĮįĪ≤≥īĶ∂∑łĻļĽľĹĺŅņŃ"⟩,
    ⟨0xC2, "¬√ńŇ∆«»…\xa0ňŐÕőŌ–—“”‘’÷◊ōŔŕŘ‹›řŖŗŠ‚„šŚśÁŤťÍŽžŪÓÔūŮÚůŰűŲųÝýķŻŁżĢˇ"⟩]

/-- Western European. -/
def roman : Table where
  spans := [⟨0x00, 128, 0x0000⟩]
  runs := [
    ⟨0x80, "ÄÅÇÉÑÖÜáàâäãåçéèêëíìîïñóòôöõúùûü†°¢£§•¶ß®©™´¨≠ÆØ∞±≤≥¥µ∂∑∏π∫ªºΩæø¿¡¬√"⟩,
    ⟨0xC4, "ƒ≈∆«»…\xa0ÀÃÕŒœ–—“”‘’÷◊ÿŸ⁄€‹›ﬁﬂ‡·‚„‰ÂÊÁËÈÍÎÏÌÓÔ\uf8ffÒÚÛÙıˆ˜¯˘˙˚¸˝˛ˇ"⟩]

/-- Romanian. -/
def romanian : Table where
  spans := [⟨0x00, 128, 0x0000⟩]
  runs := [
    ⟨0x80, "ÄÅÇÉÑÖÜáàâäãåçéèêëíìîïñóòôöõúùûü†°¢£§•¶ß®©™´¨≠ĂȘ∞±≤≥¥µ∂∑∏π∫ªºΩăș¿¡¬√"⟩,
    ⟨0xC4, "ƒ≈∆«»…\xa0ÀÃÕŒœ–—“”‘’÷◊ÿŸ⁄€‹›Țț‡·‚„‰ÂÊÁËÈÍÎÏÌÓÔ\uf8ffÒÚÛÙıˆ˜¯˘˙˚¸˝˛ˇ"⟩]

/-- Turkish. -/
def turkish : Table where
  spans := [⟨0x00, 128, 0x0000⟩]
  runs := [
    ⟨0x80, "ÄÅÇÉÑÖÜáàâäãåçéèêëíìîïñóòôöõúùûü†°¢£§•¶ß®©™´¨≠ÆØ∞±≤≥¥µ∂∑∏π∫ªºΩæø¿¡¬√ƒ≈∆"⟩,
    ⟨0xC7, "«»…\xa0ÀÃÕŒœ–—“”‘’÷◊ÿŸĞğİıŞş‡·‚„‰ÂÊÁËÈÍÎÏÌÓÔ\uf8ffÒÚÛÙ\uf8a0ˆ˜¯˘˙˚¸˝˛ˇ"⟩]

end LineArithmetic.Charset.Macintosh
